import StartPage.Proofs.Restart

/-!
    Saves that fail. A file that cannot be written keeps what it held and the other file is written
    all the same; the session goes on as if there were no files. When the home is opened later, folders
    and settings are each those of the last save that could write their file.

        step              mkdir a        toggle-commands       mkdir b
        folders.json      a              ✗  a                  ✗  a
        config.json       ✗  hidden      shown                 ✗  shown      -/

namespace StartPage

/-! ### Homes -/

/-- What a save makes of a home whose files can or cannot be written. Each file takes its part of the
    page if it can be written, whatever becomes of the other. -/
structure Home.Takes (access : Access) (p : Page) (before after : Home) : Prop where
  folders : after.folders = if access.folders then .text (foldersText p.store) else before.folders
  config : after.config = if access.config then .text p.config.fileText else before.config
  isUsable : after.isUsable = before.isUsable

theorem Home.takes_save {h : Home} {q : Page} (hload : h.load = .ok q) (access : Access)
    (p : Page) : Takes access p h (h.save access p) := by
  obtain ⟨husable, hfolders, hconfig⟩ := load_eq_ok.1 hload
  refine ⟨?_, ?_, rfl⟩
  · rw [save, husable, Bool.true_and]
    exact Cell.write_of_read hfolders access.folders _
  · rw [save, husable, Bool.true_and]
    exact Cell.write_of_read hconfig access.config _

/-! ### Steps -/

/-- The steps that are followed by a save. A blank line is not, nor is a backup that cannot be
    read. -/
def Step.saves : Step → Bool
  | .line text => !(Page.wordsOf text).isEmpty
  | .execute _ _ => true
  | .restore backup => (Page.ofBackup backup).isOk
  | .reopen => false

/-- What is seen of a step without a look at the home. -/
def Event.seen (e : Event) : Page × Outcome := (e.after.page, e.outcome)

namespace Session

/-- A step that does not read the home does the same with any home. -/
theorem seen_event {s t : Session} (h : s.page = t.page) (a b : Access) {step : Step}
    (stays : step.isReopen = false) : (s.event a step).seen = (t.event b step).seen := by
  obtain ⟨p, home⟩ := s
  obtain ⟨_, home'⟩ := t
  obtain rfl : p = _ := h
  cases step with
  | line text =>
    simp only [Event.seen, event, step, dispatch]
    split
    · rfl
    · rfl
  | execute path words => rfl
  | restore backup =>
    simp only [Event.seen, event, step, restore]
    cases Page.ofBackup backup with
    | ok q => rfl
    | error f => rfl
  | reopen => cases stays

theorem seen_run {steps : List (Access × Step)} (stays : ∀ step ∈ steps, step.2.isReopen = false)
    {s t : Session} (h : s.page = t.page) :
    (s.run steps).map Event.seen = (t.runSaved (steps.map Prod.snd)).map Event.seen := by
  induction steps generalizing s t with
  | nil => rfl
  | cons first steps ih =>
    obtain ⟨access, step⟩ := first
    have hseen := seen_event h access .full (stays _ List.mem_cons_self)
    have hrest := ih (fun step hstep => stays step (List.mem_cons_of_mem _ hstep))
      (congrArg Prod.fst hseen)
    rw [List.map_cons, runSaved_cons, run, List.map_cons, List.map_cons, hseen, hrest]
    rfl

theorem step_restore (s : Session) (access : Access) (backup : String) :
    s.step access (.restore backup) =
      match Page.ofBackup backup with
      | .ok p => (s.keep access p, .done)
      | .error f => (s, .failed f) := by
  rw [step, restore]
  cases Page.ofBackup backup with
  | ok p => rfl
  | error f => rfl

/-- A session that starts again stays where it is. -/
theorem home_reopen (s : Session) (access : Access) :
    (s.step access .reopen).1.home = s.home := by
  obtain ⟨p, home⟩ := s
  cases home with
  | none => rfl
  | some h =>
    rw [step, reopen]
    dsimp only
    rw [ofHome]
    cases h.load with
    | ok q => rfl
    | error f => rfl

/-- A home is changed by saves and nothing else. -/
theorem home_step (s : Session) (access : Access) (step : Step) :
    (s.step access step).1.home = s.home.map fun h =>
      if step.saves then h.save access (s.step access step).1.page else h := by
  cases step with
  | line text =>
    simp only [Session.step, dispatch, Step.saves]
    split
    · next hwords => simp [hwords]
    · next hwords => simp [hwords, keep]
  | execute path words => rfl
  | restore backup =>
    rw [step_restore, Step.saves]
    cases Page.ofBackup backup with
    | ok p => rfl
    | error f => exact Option.map_id'.symm
  | reopen =>
    rw [home_reopen]
    exact Option.map_id'.symm

/-- The home of a session can be opened at all times. -/
theorem IsReached.exists_load {s : Session} (reached : s.IsReached) {h : Home}
    (backed : s.home = some h) : ∃ p, h.load = .ok p := by
  induction reached generalizing h with
  | start starts =>
    cases starts with
    | empty c => cases backed
    | document c read => cases backed
    | home opened =>
      obtain ⟨p, hload, opened⟩ := Fault.bind_eq_ok.1 opened
      cases opened
      cases backed
      exact ⟨p, hload⟩
  | @step s reached access step ih =>
    rw [home_step] at backed
    obtain ⟨h₀, hhome, rfl⟩ := Option.map_eq_some_iff.1 backed
    obtain ⟨p, hload⟩ := ih hhome
    split
    · exact ⟨_, Home.load_save hload (reached.step access step).wellFormed access⟩
    · exact ⟨p, hload⟩

/-! ### Runs -/

/-- The pages whose part a run writes into a file, one after the other. -/
def pagesWritten (file : Access → Bool) (s : Session) : List (Access × Step) → List Page
  | [] => []
  | (access, step) :: steps =>
    let later := (s.step access step).1.pagesWritten file steps
    if step.saves && file access then (s.step access step).1.page :: later else later

/-- A part of the last page hangs on that part of the page before, where none was written since. -/
theorem getLastD_written {α : Type} {part : Page → α} {p q held : Page} {isNew : Bool}
    (h : part held = if isNew then part p else part q) (later : List Page) :
    part (later.getLastD held) = part ((if isNew then p :: later else later).getLastD q) := by
  cases isNew with
  | true =>
    cases later with
    | nil => exact h
    | cons r rs => rfl
  | false =>
    cases later with
    | nil => exact h
    | cons r rs => rfl

/-- After a run the home is opened with the folders and the settings that were written last, each to
    its own file. -/
theorem load_runTo (steps : List (Access × Step)) {s : Session} {h : Home} {q : Page}
    (wellFormed : s.page.store.WellFormed) (backed : s.home = some h) (hload : h.load = .ok q) :
    ∃ h', (s.runTo steps).home = some h' ∧
      h'.load = .ok ⟨((s.pagesWritten Access.folders steps).getLastD q).store,
        ((s.pagesWritten Access.config steps).getLastD q).config⟩ := by
  induction steps generalizing s h q with
  | nil => exact ⟨h, backed, hload⟩
  | cons first steps ih =>
    obtain ⟨access, step⟩ := first
    have hstep := wellFormed_step s access step wellFormed
    have hhome := home_step s access step
    rw [backed, Option.map_some] at hhome
    cases hsaves : step.saves with
    | false =>
      rw [hsaves] at hhome
      obtain ⟨h', hend, hlast⟩ := ih hstep hhome hload
      refine ⟨h', hend, ?_⟩
      rw [hlast, pagesWritten, pagesWritten, hsaves]
      rfl
    | true =>
      rw [hsaves, if_pos rfl] at hhome
      obtain ⟨h', hend, hlast⟩ := ih hstep hhome (Home.load_save hload hstep access)
      refine ⟨h', hend, ?_⟩
      rw [hlast, pagesWritten, pagesWritten, hsaves, Bool.true_and, Bool.true_and]
      exact congrArg Except.ok
        (congr (congrArg Page.mk (getLastD_written rfl _)) (getLastD_written rfl _))

/-- Whichever writes fail, a session with a home shows what one in memory shows, and holds the same
    page. After each step that saves, a file holds its part of the page if it could be written and
    otherwise what it held before, whatever happened to the other file; other steps leave both
    alone. So if the home is opened after any steps, folders and settings are each those of the last
    page written to their file, or those found at the start. -/
theorem failed_saves_unnoticed {s : Session} {h : Home} (reached : s.IsReached)
    (backed : s.home = some h) (steps : List (Access × Step)) :
    ((∀ step ∈ steps, step.2.isReopen = false) →
      (s.run steps).map Event.seen =
        ((ofPage s.page).runSaved (steps.map Prod.snd)).map Event.seen) ∧
    (∀ access step, ∃ before after, (s.runTo steps).home = some before ∧
      ((s.runTo steps).step access step).1.home = some after ∧
      (step.saves = true →
        before.Takes access ((s.runTo steps).step access step).1.page after) ∧
      (step.saves = false → after = before)) ∧
    ∃ p h', h.load = .ok p ∧ (s.runTo steps).home = some h' ∧
      ofHome h' = .ok
        ⟨⟨((s.pagesWritten Access.folders steps).getLastD p).store,
          ((s.pagesWritten Access.config steps).getLastD p).config⟩, some h'⟩ := by
  obtain ⟨p, hload⟩ := reached.exists_load backed
  obtain ⟨h', hend, hlast⟩ := load_runTo steps reached.wellFormed backed hload
  refine ⟨fun stays => seen_run stays rfl, fun access step => ?_, p, h', hload, hend, ?_⟩
  · have hhome := home_step (s.runTo steps) access step
    rw [hend, Option.map_some] at hhome
    refine ⟨h', _, hend, hhome, fun hsaves => ?_, fun hsaves => ?_⟩
    · rw [if_pos hsaves]
      exact Home.takes_save hlast access _
    · rw [if_neg (by simp [hsaves])]
  · rw [ofHome, hlast]
    rfl

/-- A session on a home where nothing was saved yet. -/
def freshlyOpened : Session := ⟨Page.empty, some .fresh⟩

/-- Only the folders can be written at first, then only the settings, then neither. -/
def unsteady : List (Access × Step) :=
  [(⟨true, false⟩, .line "mkdir a"), (⟨false, true⟩, .line "toggle-commands"), (.full, .line " "),
    (⟨false, false⟩, .line "mkdir b"), (.full, .restore "[")]

theorem failed_saves_unnoticed_unsteady :
    freshlyOpened.IsReached ∧ freshlyOpened.home = some .fresh ∧
      (freshlyOpened.run unsteady).map Event.seen =
        ((ofPage Page.empty).runSaved (unsteady.map Prod.snd)).map Event.seen ∧
      (freshlyOpened.runTo unsteady).page.store.folderNames = ["a", "b"] ∧
      ∃ h', (freshlyOpened.runTo unsteady).home = some h' ∧
        ofHome h' = .ok
          ⟨⟨⟨[{ Folder.empty "a" with position := 1 }]⟩,
            { Config.initial with showCommands := true }⟩, some h'⟩ := by
  have reached : freshlyOpened.IsReached := .start (.home (h := .fresh) rfl)
  obtain ⟨hseen, -, p, h', hload, hend, hlast⟩ := failed_saves_unnoticed reached rfl unsteady
  obtain rfl : p = Page.empty := (Except.ok.inj hload).symm
  refine ⟨reached, rfl, hseen (by decide), by decide +kernel, h', hend, ?_⟩
  rw [hlast]
  have hfolders : (freshlyOpened.pagesWritten Access.folders unsteady).getLastD Page.empty =
      ⟨⟨[{ Folder.empty "a" with position := 1 }]⟩, Config.initial⟩ := by decide +kernel
  have hconfig : ((freshlyOpened.pagesWritten Access.config unsteady).getLastD Page.empty).config =
      { Config.initial with showCommands := true } := by decide +kernel
  rw [hfolders, hconfig]

end Session
end StartPage
