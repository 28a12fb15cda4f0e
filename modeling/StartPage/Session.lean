import StartPage.Home
import StartPage.Page.Dispatch

/-!
    A session: a page in memory and the home it is saved to after every step that may have changed
    it. A page without a home is never saved, and a save that fails is passed over. -/

namespace StartPage

structure Session where
  page : Page
  home : Option Home
  deriving DecidableEq

/-- What can be asked of a session. -/
inductive Step where
  | line (text : String)
  | execute (path : String) (words : List String)
  | restore (backup : String)
  | reopen

/-- What comes of a step. -/
inductive Outcome where
  | response (r : Response)
  | done
  | failed (f : Fault)

namespace Session

/-- A session in memory. -/
def ofPage (p : Page) : Session := ⟨p, none⟩

/-- A session on the page of a home. -/
def ofHome (h : Home) : Except Fault Session := do
  .ok ⟨← h.load, some h⟩

/-- Takes over a page and saves it. -/
def keep (s : Session) (access : Access) (p : Page) : Session :=
  ⟨p, s.home.map (·.save access p)⟩

/-- Runs a line of input. A blank one is not followed by a save. -/
def dispatch (s : Session) (access : Access) (line : String) : Session × Response :=
  match Page.wordsOf line with
  | [] => (s, .silent)
  | verb :: args =>
    let (p, response) := s.page.runWords verb args
    (s.keep access p, response)

/-- Runs the entry with a path. -/
def execute (s : Session) (access : Access) (path : String) (words : List String) :
    Session × Response :=
  let (p, response) := s.page.execute path words
  (s.keep access p, response)

/-- Puts the page of a backup in the place of the session's. -/
def restore (s : Session) (access : Access) (backup : String) : Except Fault Session := do
  .ok (s.keep access (← Page.ofBackup backup))

/-- Starts again from the home, if there is one. -/
def reopen (s : Session) : Except Fault Session :=
  match s.home with
  | some h => ofHome h
  | none => .ok s

/-- Takes over a session that came of a step; a fault leaves the session as it was. -/
def settle (s : Session) : Except Fault Session → Session × Outcome
  | .ok s' => (s', .done)
  | .error f => (s, .failed f)

/-- Takes a step. -/
def step (s : Session) (access : Access) : Step → Session × Outcome
  | .line text =>
    let (s', r) := s.dispatch access text
    (s', .response r)
  | .execute path words =>
    let (s', r) := s.execute access path words
    (s', .response r)
  | .restore backup => s.settle (s.restore access backup)
  | .reopen => s.settle s.reopen

end Session
end StartPage
