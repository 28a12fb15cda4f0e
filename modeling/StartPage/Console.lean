import StartPage.Session

/-!
    The start page on a terminal: what is printed for a response, and what becomes of the words on
    the command line.

        [Success] Navigating to: https://example.com/
        -> https://example.com/ (current tab) -/

namespace StartPage.Console

/-- The lines printed for a response. -/
def linesOf (r : Response) : List String :=
  (if r.message.isEmpty then [] else ["[" ++ r.kind.name ++ "] " ++ r.message]) ++
  r.navigation.toList.map fun n =>
    "-> " ++ n.url ++ " (" ++ (if n.newContext then "new tab" else "current tab") ++ ")"

/-- The text printed for a response. -/
def textOf (r : Response) : String := String.join ((linesOf r).map (· ++ "\n"))

/-- The exit code after a single line: 1 after an error. -/
def exitCode (r : Response) : UInt32 := if r.kind = .error then 1 else 0

/-- The exit code when the page cannot be read. -/
def failureCode : UInt32 := 1

/-! ### Input -/

/-- The lines of a text. -/
def inputLines (text : String) : List String :=
  (Text.fields '\n' text.toList).map String.ofList

/-- Runs lines one after the other and joins what they print. -/
def runLines (s : Session) : List String → Session × String
  | [] => (s, "")
  | line :: lines =>
    let (s, r) := s.dispatch .full line
    let (s, rest) := runLines s lines
    (s, textOf r ++ rest)

/-- Runs the words of the command line as one line, or the lines of the input if there are none. -/
def runSession (s : Session) (words : List String) (input : String) : Session × String × UInt32 :=
  if words.isEmpty then
    let (s, output) := runLines s (inputLines input)
    (s, output, 0)
  else
    let (s, r) := s.dispatch .full (" ".intercalate words)
    (s, textOf r, exitCode r)

/-- A run on a home: the home afterwards, the output, and the exit code. -/
def run (h : Home) (words : List String) (input : String) : Home × String × UInt32 :=
  match Session.ofHome h with
  | .error _ => (h, "", failureCode)
  | .ok s =>
    let (s, output, code) := runSession s words input
    (s.home.getD h, output, code)

/-! ### The command line -/

/-- The words of a command line: where the page lives, if that is said, and the line to run. -/
structure Options where
  directory : Option String
  words : List String
  deriving DecidableEq

/-- Reads a command line. The option for the directory stands first; the first other word starts
    the line, and all words after it belong to that. -/
def Options.ofArgs? (args : List String) : Option Options :=
  match args with
  | [] => some ⟨none, []⟩
  | arg :: rest =>
    match Text.after? "--data-dir".toList arg.toList, rest with
    | some [], directory :: rest => some ⟨some directory, lineOf rest⟩
    | some [], [] => none
    | some ('=' :: directory), rest => some ⟨some (String.ofList directory), lineOf rest⟩
    | _, _ => some ⟨none, lineOf args⟩
where
  /-- The words of the line; two hyphens may mark its start. -/
  lineOf : List String → List String
    | "--" :: rest => rest
    | words => words

/-- The directory of a page that none is named for, below the one for a user's data. -/
def defaultDirectory (dataHome home : Option String) : Option String :=
  match dataHome.filter (·.startsWith "/") with
  | some d => some (d ++ "/vaunch")
  | none => home.map (· ++ "/.local/share/vaunch")

end StartPage.Console
