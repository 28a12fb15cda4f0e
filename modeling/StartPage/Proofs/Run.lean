import StartPage.Session

/-!
    Runs of a session: steps taken one after the other, each with files that can be written or
    cannot, and what is seen of the session at each of them.

        s ──step──▶ s₁ ──step──▶ s₂ ──step──▶ … -/

namespace StartPage

/-- Starting again is told apart from all other steps. -/
def Step.isReopen : Step → Bool
  | .reopen => true
  | _ => false

/-- A step that was taken: the session before and after it, and what came of it. -/
structure Event where
  before : Session
  step : Step
  after : Session
  outcome : Outcome

namespace Session

/-- Takes a step and notes it down. -/
def event (s : Session) (access : Access) (step : Step) : Event where
  before := s
  step := step
  after := (s.step access step).1
  outcome := (s.step access step).2

/-- Takes steps one after the other. -/
def run (s : Session) : List (Access × Step) → List Event
  | [] => []
  | (access, step) :: steps => s.event access step :: run (s.event access step).after steps

/-- Takes steps with files that can always be written. -/
def runSaved (s : Session) (steps : List Step) : List Event := s.run (steps.map (Access.full, ·))

theorem runSaved_cons (s : Session) (step : Step) (steps : List Step) :
    s.runSaved (step :: steps) =
      s.event .full step :: (s.step .full step).1.runSaved steps := rfl

/-- The session that a run leads to. -/
def runTo (s : Session) : List (Access × Step) → Session
  | [] => s
  | (access, step) :: steps => (s.step access step).1.runTo steps

/-- What steps of a kind keep holds after each step of a run of them. -/
theorem of_mem_run_of {P : Session → Prop} {Q : Step → Prop}
    (keeps : ∀ (s : Session) (access : Access) (step : Step), Q step → P s →
      P (s.step access step).1) :
    ∀ {s : Session} {steps : List (Access × Step)} {e : Event}, P s →
      (∀ step ∈ steps, Q step.2) → e ∈ s.run steps → P e.after
  | _, [], _, _, _, he => absurd he List.not_mem_nil
  | s, (access, step) :: steps, e, h, hsteps, he => by
    have hstep := keeps s access step (hsteps _ List.mem_cons_self) h
    rcases List.mem_cons.1 he with rfl | he
    · exact hstep
    · exact of_mem_run_of keeps hstep (fun t ht => hsteps t (List.mem_cons_of_mem _ ht)) he

/-- What every step keeps holds after each step of a run. -/
theorem of_mem_run {P : Session → Prop}
    (keeps : ∀ (s : Session) (access : Access) (step : Step), P s → P (s.step access step).1)
    {s : Session} {steps : List (Access × Step)} {e : Event} (h : P s) (he : e ∈ s.run steps) :
    P e.after :=
  of_mem_run_of (Q := fun _ => True) (fun s access step _ => keeps s access step) h
    (fun _ _ => trivial) he

end Session
end StartPage
