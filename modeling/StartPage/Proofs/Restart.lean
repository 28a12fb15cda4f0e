import StartPage.Proofs.Backup
import StartPage.Proofs.WellFormed.Session

/-!
    Starting again goes unnoticed. As long as its files can be written, the home of a session holds
    its page at all times, so a session that is opened on the same home is the same session.

        s ──step──▶ s₁ ──reopen──▶ s₁ ──step──▶ s₂

    A step that changes the page saves it. A blank line and a backup that cannot be read save
    nothing, but they leave the page as it is. -/

namespace StartPage

/-! ### Homes -/

namespace Cell

variable {α : Type} {source : Source} {absent a b : α} {parse : String → Except Fault α} {c : Cell}

/-- A place that could be read holds no directory, so it can be written unless that is denied. -/
theorem write_of_read (h : c.read source absent parse = .ok a) (allowed : Bool) (s : String) :
    c.write allowed s = if allowed then .text s else c := by
  cases c with
  | missing => rfl
  | text _ => rfl
  | garbled => cases h
  | directory => cases h

/-- What is read after a write is what was written or, if the write was denied, what was there. -/
theorem read_write {s : String} (h : c.read source absent parse = .ok a) (hs : parse s = .ok b)
    (allowed : Bool) :
    (c.write allowed s).read source absent parse = .ok (if allowed then b else a) := by
  rw [write_of_read h]
  cases allowed with
  | true => exact hs
  | false => exact h

end Cell

/-- The page of a home that was saved with `p` over `q`, as far as its files could be written. -/
def Page.over (p q : Page) (access : Access) : Page where
  store := if access.folders then p.store else q.store
  config := if access.config then p.config else q.config

namespace Home

theorem readFolders_foldersText {s : Store} (h : s.WellFormed) :
    readFolders (foldersText s) = .ok s := by
  have hexact : Json.Exact Json.maxDepth s.toJson := s.exact_toJson
  rw [readFolders, foldersText, Json.read?_pretty hexact]
  exact h.ofJson_toJson

/-- A page is loaded if the home can be used and each of the two files gives its part. -/
theorem load_eq_ok {h : Home} {p : Page} : h.load = .ok p ↔ h.isUsable = true ∧
    h.folders.read .folders Store.empty readFolders = .ok p.store ∧
      h.config.read .config Config.initial Config.ofText = .ok p.config := by
  unfold load
  constructor
  · intro hload
    split at hload
    · next husable =>
      obtain ⟨store, hstore, hload⟩ := Fault.bind_eq_ok.1 hload
      obtain ⟨config, hconfig, hload⟩ := Fault.bind_eq_ok.1 hload
      cases hload
      exact ⟨husable, hstore, hconfig⟩
    · cases hload
  · rintro ⟨husable, hstore, hconfig⟩
    rw [if_pos husable, hstore, hconfig]
    rfl

/-- A home gives back each part of the page that was saved last, if that part could be written. -/
theorem load_save {h : Home} {p q : Page} (hload : h.load = .ok q) (hp : p.store.WellFormed)
    (access : Access) : (h.save access p).load = .ok (p.over q access) := by
  obtain ⟨husable, hfolders, hconfig⟩ := load_eq_ok.1 hload
  refine load_eq_ok.2 ⟨husable, ?_, ?_⟩
  · rw [save, husable, Bool.true_and]
    exact Cell.read_write hfolders (readFolders_foldersText hp) access.folders
  · rw [save, husable, Bool.true_and]
    exact Cell.read_write hconfig p.config.ofText_fileText access.config

end Home

/-! ### Sessions -/

namespace Session

/-- The home of the session holds its page. -/
structure IsSaved (s : Session) : Prop where
  wellFormed : s.page.store.WellFormed
  home : ∃ h, s.home = some h ∧ h.load = .ok s.page

theorem isSaved_of_ofHome {h : Home} {s : Session} (opened : ofHome h = .ok s) : s.IsSaved := by
  refine ⟨wellFormed_of_ofHome opened, h, ?_⟩
  obtain ⟨p, hload, opened⟩ := Fault.bind_eq_ok.1 opened
  cases opened
  exact ⟨rfl, hload⟩

/-- Such a session starts again as the one it is. -/
theorem IsSaved.reopen {s : Session} (h : s.IsSaved) : s.reopen = .ok s := by
  obtain ⟨home, hhome, hload⟩ := h.home
  obtain ⟨page, _⟩ := s
  subst hhome
  have hopen : ofHome home = .ok ⟨page, some home⟩ := by
    rw [ofHome, hload]
    rfl
  exact hopen

theorem IsSaved.keep {s : Session} (h : s.IsSaved) {p : Page} (hp : p.store.WellFormed) :
    (s.keep .full p).IsSaved := by
  obtain ⟨home, hhome, hload⟩ := h.home
  refine ⟨hp, home.save .full p, ?_, Home.load_save hload hp .full⟩
  rw [Session.keep, hhome]
  rfl

theorem IsSaved.dispatch {s : Session} (h : s.IsSaved) (line : String) :
    (s.dispatch .full line).1.IsSaved := by
  unfold Session.dispatch
  split
  · exact h
  · next verb args _ => exact h.keep (Page.wellFormed_runWords h.wellFormed verb args)

theorem IsSaved.execute {s : Session} (h : s.IsSaved) (path : String) (words : List String) :
    (s.execute .full path words).1.IsSaved :=
  h.keep (Page.wellFormed_execute h.wellFormed path words)

theorem IsSaved.restore {s : Session} (h : s.IsSaved) (backup : String) :
    (s.settle (s.restore .full backup)).1.IsSaved := by
  cases hrestore : s.restore .full backup with
  | error f => exact h
  | ok s' =>
    obtain ⟨p, hp, hrestore⟩ := Fault.bind_eq_ok.1 hrestore
    cases hrestore
    exact h.keep (Page.wellFormed_of_ofBackup hp)

theorem IsSaved.step_reopen {s : Session} (h : s.IsSaved) (access : Access) :
    s.step access .reopen = (s, .done) := by
  rw [Session.step, h.reopen]
  rfl

theorem IsSaved.step {s : Session} (h : s.IsSaved) (step : Step) :
    (s.step .full step).1.IsSaved := by
  cases step with
  | line text => exact h.dispatch text
  | execute path words => exact h.execute path words
  | restore backup => exact h.restore backup
  | reopen =>
    rw [h.step_reopen]
    exact h

/-! ### Runs -/

/-- A run shows the same whether or not the session starts again in between. -/
theorem IsSaved.filter_runSaved {s : Session} (h : s.IsSaved) : ∀ steps : List Step,
    (s.runSaved steps).filter (!·.step.isReopen) = s.runSaved (steps.filter (!·.isReopen))
  | [] => rfl
  | step :: steps => by
    have hrest := (h.step step).filter_runSaved steps
    have hevent : (s.event .full step).step = step := rfl
    rw [runSaved_cons]
    cases hstep : step.isReopen with
    | false =>
      rw [List.filter_cons_of_pos (by simp [hevent, hstep]),
        List.filter_cons_of_pos (by simp [hstep]), runSaved_cons, hrest]
    | true =>
      rw [List.filter_cons_of_neg (by simp [hevent, hstep]),
        List.filter_cons_of_neg (by simp [hstep]), hrest]
      cases step with
      | reopen => rw [h.step_reopen]
      | line text => cases hstep
      | execute path words => cases hstep
      | restore backup => cases hstep

/-- Starting again succeeds and changes nothing. -/
theorem IsSaved.of_mem_runSaved {s : Session} (h : s.IsSaved) : ∀ {steps : List Step} {e : Event},
    e ∈ s.runSaved steps → e.step = .reopen → e.after = e.before ∧ e.outcome = .done
  | [], _, he, _ => absurd he List.not_mem_nil
  | step :: steps, e, he, hreopen => by
    rcases List.mem_cons.1 he with rfl | he
    · cases hreopen
      exact ⟨congrArg Prod.fst (h.step_reopen .full), congrArg Prod.snd (h.step_reopen .full)⟩
    · exact (h.step step).of_mem_runSaved he hreopen

/-- Where every write succeeds, a session on a home that can be opened may start again between any
    two steps: this always succeeds and changes nothing, and every other step has the outcome, and
    leaves the page and the home, that it has in the run without. -/
theorem restart_unnoticed {h : Home} {s : Session} (opened : ofHome h = .ok s)
    (steps : List Step) :
    (s.runSaved steps).filter (!·.step.isReopen) = s.runSaved (steps.filter (!·.isReopen)) ∧
      ∀ e ∈ s.runSaved steps, e.step = .reopen → e.after = e.before ∧ e.outcome = .done :=
  have hsaved := isSaved_of_ofHome opened
  ⟨hsaved.filter_runSaved steps, fun _ => hsaved.of_mem_runSaved⟩

/-- A home in an older form: a folder as the list of its fields, and settings of which most are
    missing. -/
def olderHome : Home where
  isUsable := true
  folders := .text "[[\"a\", null, null, 7, []]]"
  config := .text "\x7b\"showGUI\": false\x7d"

def olderSession : Session where
  page :=
    { store := ⟨[{ Folder.empty "a" with position := 1 }]⟩
      config := { Config.initial with showGui := false } }
  home := some olderHome

theorem restart_unnoticed_older :
    ofHome olderHome = .ok olderSession ∧
      (olderSession.runSaved [.reopen, .line "touch a/x x.org", .reopen, .line " ", .restore "[",
          .reopen, .execute "a/x.lnk" [], .reopen]).filter (!·.step.isReopen) =
        olderSession.runSaved
          [.line "touch a/x x.org", .line " ", .restore "[", .execute "a/x.lnk" []] :=
  have opened : ofHome olderHome = .ok olderSession :=
    Fault.eq_ok_of_toOption (by decide +kernel)
  ⟨opened, (restart_unnoticed opened _).1⟩

end Session
end StartPage
