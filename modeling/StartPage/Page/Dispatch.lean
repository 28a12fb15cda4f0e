import StartPage.Command.Run
import StartPage.Text.Blank

/-!
    What a line of input does to a page. Its first word picks a command; failing that it is tried as
    the operator of a query, then as the path of an entry, and in the end the whole line goes to
    the default query.

        mkdir sites          d: blue whale         d:whale         sites/example.lnk _blank -/

namespace StartPage.Page

/-- Runs the entry with a path. -/
def execute (p : Page) (path : String) (words : List String) : Page × Response :=
  match p.store.entry? path with
  | none => (p, .ofFault (.noFile path))
  | some e =>
    let (e', response) := e.execute words
    ({ p with store := p.store.modifyEntry (Path.ofText path) fun _ => e' }, response)

/-- The words of a line. -/
def wordsOf (line : String) : List String := (Text.words line.toList).map String.ofList

/-- The first word of a query may follow the colon of its operator at once. -/
def wordInOperator (operator : String) : List String :=
  match Text.cutAt? ':' operator.toList with
  | some (_, c :: r) => [String.ofList (c :: r)]
  | _ => []

/-- A path that leads to an entry. -/
def isEntry (p : Page) (path : String) : Bool := (p.store.entry? path).isSome

/-- A path that leads to a query. -/
def isQuery (p : Page) (path : String) : Bool := (p.store.entry? path).any (·.isQuery)

/-- Runs a line whose first word names no command. -/
def fallBack (p : Page) (verb : String) (args : List String) : Page × Response :=
  match p.store.findQuery verb true with
  | some (folder, name) => p.execute (Path.text folder name) (wordInOperator verb ++ args)
  | none =>
    if p.isEntry verb then p.execute verb args
    else if p.isQuery p.config.defaultFile then p.execute p.config.defaultFile (verb :: args)
    else (p, .error ("Unknown command: " ++ verb))

/-- Runs the words of a line. -/
def runWords (p : Page) (verb : String) (args : List String) : Page × Response :=
  match Command.ofVerb? verb with
  | some c => c.run args p
  | none => p.fallBack verb args

/-- Runs a line of input. A blank one does nothing. -/
def dispatch (p : Page) (line : String) : Page × Response :=
  match wordsOf line with
  | [] => (p, .silent)
  | verb :: args => p.runWords verb args

end StartPage.Page
