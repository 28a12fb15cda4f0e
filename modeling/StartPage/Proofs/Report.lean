import StartPage.Proofs.Move.Cases
import StartPage.Proofs.Run

/-!
    What is reported and what is done. A step reports something done by a success that is not silent.
    An error, a remark, a text for the input line or a silent success comes only of a step that left
    folders and settings as they were.

        mv sites/a.lnk sites/b.lnk     b.lnk is there     ──▶  a remark, nothing moved
        touch tools/a example.com      no folder tools    ──▶  silence, nothing made

    The commands that remove are left out: they remove what they find before they report what they
    did not find. -/

namespace StartPage

namespace Response

/-- Something was done, and the response says so: it is a success and not a silent one. -/
def ReportsDone (r : Response) : Prop := r.kind = .success ∧ r.message ≠ ""

instance : DecidablePred ReportsDone := fun r =>
  inferInstanceAs (Decidable (r.kind = .success ∧ r.message ≠ ""))

end Response

/-- What comes of a step that reports something done, or leaves all as it was. -/
def Reported {α : Type} (a : α) (result : α × Response) : Prop :=
  ¬ result.2.ReportsDone → result.1 = a

namespace Reported

variable {α : Type} {a a' : α} {r : Response}

theorem same : Reported a (a, r) := fun _ => rfl

theorem success {message : String} (h : message ≠ "") :
    Reported a (a', .success message) := fun hnot => absurd ⟨rfl, h⟩ hnot

end Reported

theorem Response.navigation_ofFault (f : Fault) : (ofFault f).navigation = none := by
  unfold ofFault
  split
  · rfl
  · rfl

namespace Action

/-- What comes of an action that leaves for no address, and reports something done or leaves all as
    it was. -/
structure Answered (s : Store) (result : Store × Response) : Prop where
  reported : Reported s result
  navigation : result.2.navigation = none

namespace Answered

variable {s s' : Store} {r : Response}

theorem same (h : r.navigation = none) : Answered s (s, r) := ⟨.same, h⟩

theorem fault (f : Fault) : Answered s (s, .ofFault f) := .same (Response.navigation_ofFault f)

theorem success {message : String} (h : message ≠ "") : Answered s (s', .success message) :=
  ⟨.success h, rfl⟩

end Answered

/-! ### Making -/

/-- Where no folder is new, none was added. -/
theorem addFolders_of_none {names : List String} {s : Store} (h : (addFolders s names).2 = []) :
    (addFolders s names).1 = s := by
  induction names generalizing s with
  | nil => rfl
  | cons name names ih =>
    unfold addFolders at h ⊢
    split
    · next s' hadd => simp [hadd] at h
    · next hadd =>
      rw [hadd] at h
      exact ih h

theorem answered_makeFolders (words : List String) (s : Store) :
    Answered s (makeFolders words s) := by
  unfold makeFolders
  split
  · exact .same rfl
  dsimp only
  split
  · exact .same rfl
  split
  · next hmade =>
    rw [addFolders_of_none (List.isEmpty_iff.1 hmade)]
    exact .same rfl
  · exact .success (by simp)

theorem answered_makeEntry (words : List String) (s : Store) :
    Answered s (makeEntry words s) := by
  unfold makeEntry
  split
  · exact .success (by simp)
  · exact .same rfl

/-! ### Moving -/

theorem answered_move (words : List String) (s : Store) : Answered s (move words s) := by
  rcases move_cases words s with hrefused | ⟨_, _, _, hmade⟩
  · exact ⟨fun _ => hrefused.store, hrefused.navigation⟩
  · exact ⟨fun hnot => absurd ⟨hmade.kind, hmade.message⟩ hnot, hmade.navigation⟩

theorem move_ne_failedToMove (words : List String) (s : Store) (source dest : String) :
    (move words s).2 ≠ failedToMove source dest := by
  rcases move_cases words s with hrefused | ⟨_, _, _, hmade⟩
  · exact hrefused.kept source dest
  · intro h
    have hkind := hmade.kind
    rw [h] at hkind
    cases hkind

/-! ### Removing -/

theorem navigation_removeEntries (words : List String) (s : Store) :
    (removeEntries words s).2.navigation = none := by
  unfold removeEntries
  split
  · rfl
  dsimp only
  split
  · rfl
  · rfl

theorem navigation_removeFolders (words : List String) (s : Store) :
    (removeFolders words s).2.navigation = none := by
  unfold removeFolders
  split
  · rfl
  dsimp only
  split
  · rfl
  · rfl

/-! ### Details -/

theorem answered_changeEntry {s : Store} {path message : String} {change : Entry → Entry}
    (h : message ≠ "") : Answered s (changeEntry s path change message) := by
  unfold changeEntry
  split
  · exact .success h
  · exact .fault _

theorem answered_edit (words : List String) (s : Store) : Answered s (edit words s) := by
  cases words with
  | nil => exact .same rfl
  | cons path values => exact answered_changeEntry (by simp)

theorem answered_setRule (words : List String) (s : Store) : Answered s (setRule words s) := by
  unfold setRule
  split
  · exact .same rfl
  split
  · exact .fault _
  split
  · exact answered_changeEntry (by simp)
  · exact .same rfl

theorem answered_setDescription (words : List String) (s : Store) :
    Answered s (setDescription words s) := by
  cases words with
  | nil => exact .same rfl
  | cons path rest => exact answered_changeEntry (by simp)

theorem answered_setIcon (words : List String) (s : Store) : Answered s (setIcon words s) := by
  unfold setIcon
  split
  · dsimp only
    split
    · exact answered_changeEntry (by simp)
    split
    · exact .success (by simp)
    · exact .fault _
  · exact .same rfl

theorem answered_setPosition (words : List String) (s : Store) :
    Answered s (setPosition words s) := by
  unfold setPosition
  split
  · split
    · exact .same rfl
    split
    · exact .success (by simp)
    · exact .fault _
  · exact .same rfl

end Action

/-! ### Commands -/

namespace Command

/-- The commands that remove. -/
def removes : Command → Bool
  | .removeEntry | .removeFolder => true
  | _ => false

theorem reported_onStore {act : Store → Store × Response} {p : Page}
    (h : Reported p.store (act p.store)) : Reported p (onStore act p) := by
  intro hnot
  have hstore : (act p.store).1 = p.store := h hnot
  show { p with store := (act p.store).1 } = p
  rw [hstore]

theorem reported_switchList (p : Page) : Reported p (switchList p) :=
  .success (by split <;> decide)

theorem reported_run {c : Command} (h : c.removes = false) (words : List String) (p : Page) :
    Reported p (c.run words p) := by
  cases c with
  | makeFolder => exact reported_onStore (Action.answered_makeFolders words p.store).reported
  | makeEntry => exact reported_onStore (Action.answered_makeEntry words p.store).reported
  | edit => exact reported_onStore (Action.answered_edit words p.store).reported
  | move => exact reported_onStore (Action.answered_move words p.store).reported
  | removeEntry => cases h
  | removeFolder => cases h
  | setPosition => exact reported_onStore (Action.answered_setPosition words p.store).reported
  | setRule => exact reported_onStore (Action.answered_setRule words p.store).reported
  | setDescription => exact reported_onStore (Action.answered_setDescription words p.store).reported
  | setIcon => exact reported_onStore (Action.answered_setIcon words p.store).reported
  | toggleCommands => exact reported_switchList p
  | help => exact .same

theorem navigation_showHelp (words : List String) : (showHelp words).navigation = none := by
  unfold showHelp
  split
  · rfl
  split
  · rfl
  · rfl

/-- No command leaves for an address. -/
theorem navigation_run (c : Command) (words : List String) (p : Page) :
    (c.run words p).2.navigation = none := by
  cases c with
  | makeFolder => exact (Action.answered_makeFolders words p.store).navigation
  | makeEntry => exact (Action.answered_makeEntry words p.store).navigation
  | edit => exact (Action.answered_edit words p.store).navigation
  | move => exact (Action.answered_move words p.store).navigation
  | removeEntry => exact Action.navigation_removeEntries words p.store
  | removeFolder => exact Action.navigation_removeFolders words p.store
  | setPosition => exact (Action.answered_setPosition words p.store).navigation
  | setRule => exact (Action.answered_setRule words p.store).navigation
  | setDescription => exact (Action.answered_setDescription words p.store).navigation
  | setIcon => exact (Action.answered_setIcon words p.store).navigation
  | toggleCommands => rfl
  | help => exact navigation_showHelp words

theorem removes_of_ne {c : Command} (entry : c ≠ .removeEntry) (folder : c ≠ .removeFolder) :
    c.removes = false := by
  unfold removes
  split
  · exact absurd rfl entry
  · exact absurd rfl folder
  · rfl

theorem ofVerb?_eq_some {verb : String} {c : Command} (h : ofVerb? verb = some c) :
    verb ∈ c.verbs := by simpa using List.find?_some h

end Command

/-! ### Entries that are run -/

/-- An entry is changed only where it leaves for an address. -/
theorem Entry.reported_execute (e : Entry) (words : List String) :
    Reported e (e.execute words) := by
  unfold execute
  split
  · exact .same
  · exact .same
  · split
    · exact .same
    · exact fun hnot => absurd ⟨rfl, by simp [Response.navigate]⟩ hnot

namespace Page

theorem reported_execute (p : Page) (path : String) (words : List String) :
    Reported p (p.execute path words) := by
  unfold execute
  split
  · exact .same
  · next e he =>
    intro hnot
    have hsame : (e.execute words).1 = e := e.reported_execute words hnot
    have hback : (p.store.modifyEntry (Path.ofText path) fun _ => (e.execute words).1) = p.store := by
      rw [hsame, Store.modifyEntry_self he]
    exact congrArg (fun store => { p with store := store }) hback

theorem reported_fallBack (p : Page) (verb : String) (args : List String) :
    Reported p (p.fallBack verb args) := by
  unfold fallBack
  split
  · exact reported_execute _ _ _
  split
  · exact reported_execute _ _ _
  split
  · exact reported_execute _ _ _
  · exact .same

theorem reported_runWords {verb : String}
    (h : verb ∉ Command.removeEntry.verbs ++ Command.removeFolder.verbs) (p : Page)
    (args : List String) : Reported p (p.runWords verb args) := by
  unfold runWords
  split
  · next c hc =>
    have hverb := Command.ofVerb?_eq_some hc
    refine Command.reported_run (Command.removes_of_ne ?_ ?_) args p
    · rintro rfl
      exact h (List.mem_append_left _ hverb)
    · rintro rfl
      exact h (List.mem_append_right _ hverb)
  · exact reported_fallBack _ _ _

end Page

/-! ### Sessions -/

namespace Session

theorem reported_dispatch (s : Session) (access : Access) {line : String}
    (h : ∀ verb ∈ (Page.wordsOf line).head?,
      verb ∉ Command.removeEntry.verbs ++ Command.removeFolder.verbs) :
    Reported s.page ((s.dispatch access line).1.page, (s.dispatch access line).2) := by
  unfold dispatch
  split
  · exact .same
  · next verb args hwords =>
    exact Page.reported_runWords (h verb (by rw [hwords]; rfl)) s.page args

/-- A backup that cannot be restored leaves the whole session as it was. -/
theorem step_restore_of_failed {s : Session} {access : Access} {backup : String} {f : Fault}
    (h : (s.step access (.restore backup)).2 = .failed f) :
    (s.step access (.restore backup)).1 = s := by
  have hstep : s.step access (.restore backup) = s.settle (s.restore access backup) := rfl
  rw [hstep] at h ⊢
  cases hrestore : s.restore access backup with
  | error _ => rfl
  | ok s' =>
    rw [hrestore] at h
    cases h

/-- What is not reported as done was not done, in any session and whatever words come. That holds
    for a line whose first word is none of those that remove, for an entry that is run by its path,
    for any command but those that remove, and for a backup; and no move ever loses its entry. -/
theorem page_kept_unless_done (s : Session) (access : Access) :
    (∀ line, (∀ verb ∈ (Page.wordsOf line).head?,
        verb ∉ Command.removeEntry.verbs ++ Command.removeFolder.verbs) →
      ¬ (s.dispatch access line).2.ReportsDone → (s.dispatch access line).1.page = s.page) ∧
    (∀ path words, ¬ (s.execute access path words).2.ReportsDone →
      (s.execute access path words).1.page = s.page) ∧
    (∀ (c : Command) words, c ≠ .removeEntry → c ≠ .removeFolder →
      ¬ (c.run words s.page).2.ReportsDone → (c.run words s.page).1 = s.page) ∧
    (∀ backup f, (s.step access (.restore backup)).2 = .failed f →
      (s.step access (.restore backup)).1 = s) ∧
    ∀ words source dest,
      (Command.move.run words s.page).2 ≠ Action.failedToMove source dest := by
  refine ⟨fun line hverb => s.reported_dispatch access hverb,
    fun path words => s.page.reported_execute path words, fun c words hentry hfolder => ?_,
    fun _ _ => step_restore_of_failed, fun words => Action.move_ne_failedToMove words s.page.store⟩
  exact Command.reported_run (Command.removes_of_ne hentry hfolder) words s.page

/-- Two links in a folder, where each has a name that the other cannot get. -/
def twoLinks : Session :=
  ofPage
    { store := ⟨[{ Folder.empty "a" with
        position := 1
        entries :=
          [{ Entry.link "x" "x.org" with position := 1, parent := some "a" },
            { Entry.link "y" "y.org" with position := 2, parent := some "a" }] }]⟩
      config := .initial }

theorem page_kept_unless_done_twoLinks :
    (twoLinks.dispatch .full "mv a/x.lnk a/y").2.kind = .info ∧
      (twoLinks.dispatch .full "mv a/x.lnk a/y").1.page = twoLinks.page ∧
      (twoLinks.execute .full "b/x.lnk" ["_blank"]).1.page = twoLinks.page ∧
      (Command.makeEntry.run ["a/x", "", "z org"] twoLinks.page).1 = twoLinks.page ∧
      (twoLinks.step .full (.restore "[")).1 = twoLinks :=
  have h := page_kept_unless_done twoLinks .full
  have hread : Json.read? "[" = none := by decide +kernel
  have hrestore : (twoLinks.step .full (.restore "[")).2 = .failed (.storage (.notJson .backup)) := by
    simp only [step, restore, Page.ofBackup, hread]
    rfl
  ⟨by decide +kernel, h.1 _ (by decide +kernel) (by decide +kernel), h.2.1 _ _ (by decide +kernel),
    h.2.2.1 .makeEntry _ nofun nofun (by decide +kernel), h.2.2.2.1 _ _ hrestore⟩

end Session
end StartPage
