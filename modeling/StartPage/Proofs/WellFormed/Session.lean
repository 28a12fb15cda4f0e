import StartPage.Proofs.Run
import StartPage.Proofs.WellFormed.Action
import StartPage.Proofs.WellFormed.Document

/-!
    A session never holds a store that is not well-formed. A step runs a command, runs an entry, or
    takes over a page that was read, and each of the three keeps or gives a well-formed store. -/

namespace StartPage

/-! ### Pages -/

theorem Command.wellFormed_run (c : Command) (words : List String) {p : Page}
    (h : p.store.WellFormed) : (c.run words p).1.store.WellFormed := by
  cases c with
  | makeFolder => exact Action.wellFormed_makeFolders words h
  | makeEntry => exact Action.wellFormed_makeEntry words h
  | edit => exact (Action.adjusts_edit words p.store).wellFormed h
  | move => exact Action.wellFormed_move words h
  | removeEntry => exact Action.wellFormed_removeEntries words h
  | removeFolder => exact Action.wellFormed_removeFolders words h
  | setPosition => exact (Action.adjusts_setPosition words p.store).wellFormed h
  | setRule => exact (Action.adjusts_setRule words p.store).wellFormed h
  | setDescription => exact (Action.adjusts_setDescription words p.store).wellFormed h
  | setIcon => exact (Action.adjusts_setIcon words p.store).wellFormed h
  | toggleCommands => exact h
  | help => exact h

namespace Page

/-- Running an entry puts it back where it was found. -/
theorem wellFormed_execute {p : Page} (h : p.store.WellFormed) (path : String)
    (words : List String) : (p.execute path words).1.store.WellFormed := by
  unfold execute
  split
  · exact h
  · next e he =>
    refine h.modifyEntry fun e' he' => ?_
    cases Option.some.inj (he.symm.trans he')
    exact Entry.staysPut_execute e words

theorem wellFormed_fallBack {p : Page} (h : p.store.WellFormed) (verb : String)
    (args : List String) : (p.fallBack verb args).1.store.WellFormed := by
  unfold fallBack
  split
  · exact wellFormed_execute h _ _
  split
  · exact wellFormed_execute h _ _
  split
  · exact wellFormed_execute h _ _
  · exact h

theorem wellFormed_runWords {p : Page} (h : p.store.WellFormed) (verb : String)
    (args : List String) : (p.runWords verb args).1.store.WellFormed := by
  unfold runWords
  split
  · next c _ => exact c.wellFormed_run args h
  · exact wellFormed_fallBack h verb args

theorem wellFormed_of_ofBackup {text : String} {p : Page} (h : ofBackup text = .ok p) :
    p.store.WellFormed := by
  unfold ofBackup at h
  split at h
  · cases h
  · dsimp only at h
    split at h
    · obtain ⟨store, hstore, h⟩ := Fault.bind_eq_ok.1 h
      cases h
      exact Store.wellFormed_of_ofJson hstore
    · cases h
      exact Store.wellFormed_empty

end Page

/-! ### Sessions -/

theorem Home.wellFormed_of_load {h : Home} {p : Page} (hload : h.load = .ok p) :
    p.store.WellFormed := by
  unfold load at hload
  split at hload
  · obtain ⟨store, hstore, hload⟩ := Fault.bind_eq_ok.1 hload
    obtain ⟨config, -, hload⟩ := Fault.bind_eq_ok.1 hload
    cases hload
    unfold Cell.read at hstore
    split at hstore
    · cases hstore
      exact Store.wellFormed_empty
    · unfold readFolders at hstore
      split at hstore
      · exact Store.wellFormed_of_ofJson hstore
      · cases hstore
    · cases hstore
    · cases hstore
  · cases hload

namespace Session

/-- The sessions that there can be at the start: on no folders, on the folders of a document, or on
    the page of a home. -/
inductive Starts : Session → Prop
  | empty (c : Config) : Starts (ofPage ⟨Store.empty, c⟩)
  | document {v : Json} {store : Store} (c : Config) (read : Store.ofJson v = .ok store) :
      Starts (ofPage ⟨store, c⟩)
  | home {h : Home} {s : Session} (opened : ofHome h = .ok s) : Starts s

theorem wellFormed_of_ofHome {h : Home} {s : Session} (opened : ofHome h = .ok s) :
    s.page.store.WellFormed := by
  obtain ⟨p, hload, opened⟩ := Fault.bind_eq_ok.1 opened
  cases opened
  exact Home.wellFormed_of_load hload

theorem Starts.wellFormed {s : Session} (h : s.Starts) : s.page.store.WellFormed := by
  cases h with
  | empty c => exact Store.wellFormed_empty
  | document c read => exact Store.wellFormed_of_ofJson read
  | home opened => exact wellFormed_of_ofHome opened

theorem wellFormed_dispatch {s : Session} (h : s.page.store.WellFormed) (access : Access)
    (line : String) : (s.dispatch access line).1.page.store.WellFormed := by
  unfold dispatch
  split
  · exact h
  · next verb args _ => exact Page.wellFormed_runWords h verb args

theorem wellFormed_of_restore {s s' : Session} {access : Access} {backup : String}
    (h : s.restore access backup = .ok s') : s'.page.store.WellFormed := by
  obtain ⟨p, hp, h⟩ := Fault.bind_eq_ok.1 h
  cases h
  exact Page.wellFormed_of_ofBackup hp

/-- Without a home a session stays what it is. -/
theorem wellFormed_of_reopen {s s' : Session} (h : s.page.store.WellFormed)
    (reopened : s.reopen = .ok s') : s'.page.store.WellFormed := by
  unfold reopen at reopened
  split at reopened
  · exact wellFormed_of_ofHome reopened
  · cases reopened
    exact h

/-- After a fault a session is what it was before. -/
theorem wellFormed_settle {s : Session} {r : Except Fault Session} (h : s.page.store.WellFormed)
    (made : ∀ s', r = .ok s' → s'.page.store.WellFormed) :
    (s.settle r).1.page.store.WellFormed := by
  cases r with
  | ok s' => exact made s' rfl
  | error f => exact h

theorem wellFormed_step (s : Session) (access : Access) (step : Step)
    (h : s.page.store.WellFormed) : (s.step access step).1.page.store.WellFormed := by
  cases step with
  | line text => exact wellFormed_dispatch h access text
  | execute path words => exact Page.wellFormed_execute h path words
  | restore backup => exact wellFormed_settle h fun _ => wellFormed_of_restore
  | reopen => exact wellFormed_settle h fun _ => wellFormed_of_reopen h

/-- The sessions that there can be: those at the start, and what steps make of them. -/
inductive IsReached : Session → Prop
  | start {s : Session} (h : s.Starts) : IsReached s
  | step {s : Session} (h : s.IsReached) (access : Access) (step : Step) :
      IsReached (s.step access step).1

theorem IsReached.wellFormed {s : Session} (h : s.IsReached) : s.page.store.WellFormed := by
  induction h with
  | start h => exact h.wellFormed
  | step _ access step ih => exact wellFormed_step _ access step ih

/-- However a session starts and whatever is asked of it, whether or not its files can be written,
    its store is well-formed at the start and after every step. -/
theorem wellFormed_throughout {s : Session} (h : s.Starts) (steps : List (Access × Step)) :
    s.page.store.WellFormed ∧ ∀ e ∈ s.run steps, e.after.page.store.WellFormed :=
  ⟨h.wellFormed, fun _ he =>
    of_mem_run (P := fun s => s.page.store.WellFormed) wellFormed_step h.wellFormed he⟩

/-- A document in an older form: a folder as a list of its fields, with a rank beyond the others,
    and a query whose name and keyword are not by the rules. -/
def legacyDocument : Json :=
  .arr [.arr [.str "a", .null, .null, .int 7, .arr [.obj
    [("content", .str "x.org/%s"), ("fileName", .str "find it"), ("prefix", .str "f:"),
      ("type", .str "VaunchQuery")]]]]

def legacyStore : Store where
  folders :=
    [{ Folder.empty "a" with
        position := 1
        entries :=
          [{ Entry.query "find it" "f" "x.org/%s" with position := 1, parent := some "a" }] }]

theorem wellFormed_throughout_legacy :
    Store.ofJson legacyDocument = .ok legacyStore ∧ legacyStore.WellFormed ∧
      ∀ e ∈ (ofPage ⟨legacyStore, .initial⟩).run
          [(.full, .line "mkdir b"), (.full, .line "mv a/find_it.qry b/seek"),
            (⟨false, true⟩, .line "f:whale"), (.full, .restore "["), (.full, .reopen)],
        e.after.page.store.WellFormed :=
  have read : Store.ofJson legacyDocument = .ok legacyStore :=
    Fault.eq_ok_of_toOption (by decide +kernel)
  ⟨read, wellFormed_throughout (.document .initial read) _⟩

end Session
end StartPage
