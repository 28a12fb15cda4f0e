import StartPage.Json.Shape

/-!
    What can go wrong, by cause, with the kind each cause belongs to and its wording. -/

namespace StartPage

/-- The kinds of fault that callers tell apart. -/
inductive FaultKind where
  | notFound | conflict | invalidArgument | invalidUrl | storage
  deriving DecidableEq

/-- What can be read: the two files in which a start page is kept, and a backup of both. -/
inductive Source where
  | folders | config | backup
  deriving DecidableEq

/-- What can go wrong with what is kept. -/
inductive StorageFault where
  | noDirectory
  | unreadable (source : Source)
  | notJson (source : Source)
  | badShape (fault : ShapeFault)

/-- A fault, by its cause. -/
inductive Fault where
  | noFolder (name : String)
  | noFile (path : String)
  | nameTaken (name folder : String)
  | noFileInPath (path : String)
  | noPattern (expression : String)
  | badFlag (flag : Char) (expression : String)
  | badPattern (expression : String)
  | unresolvable (address : String)
  | storage (fault : StorageFault)

/-- What stands for a diagnosis that is not spelled out. -/
def undisclosed : String := "<detail>"

/-- What a source is called in a message. -/
def Source.text : Source → String
  | .folders => "folders file"
  | .config => "config"
  | .backup => "import"

/-- The wording of a fault with what is kept. -/
def StorageFault.message : StorageFault → String
  | .noDirectory => "Failed to create base directory: " ++ undisclosed
  | .unreadable .config => "Failed to read config file: " ++ undisclosed
  | .unreadable source => "Failed to read " ++ source.text ++ ": " ++ undisclosed
  | .notJson source => "Failed to parse " ++ source.text ++ ": " ++ undisclosed
  | .badShape fault => "Failed to parse folders: " ++ fault.message

def Fault.kind : Fault → FaultKind
  | .noFolder _ | .noFile _ => .notFound
  | .nameTaken _ _ => .conflict
  | .noFileInPath _ | .noPattern _ | .badFlag _ _ | .badPattern _ => .invalidArgument
  | .unresolvable _ => .invalidUrl
  | .storage _ => .storage

/-- The wording of a fault. -/
def Fault.message : Fault → String
  | .noFolder name => "The folder " ++ name ++ " does not exist"
  | .noFile path => "The file " ++ path ++ " does not exist"
  | .nameTaken name folder => "A file with the name " ++ name ++ " already exists in " ++ folder
  | .noFileInPath path => "No file given in path " ++ path
  | .noPattern e => "Invalid expression '" ++ e ++ "': expected /pattern/flags"
  | .badFlag c e => "Invalid flag '" ++ String.singleton c ++ "' in expression '" ++ e ++ "'"
  | .badPattern e => "Invalid expression '" ++ e ++ "': " ++ undisclosed
  | .unresolvable address => "Failed to execute file. Attempted URL was: " ++ address
  | .storage fault => "storage error: " ++ fault.message

/-- What is done in two parts is free of faults if each of them is. -/
theorem Fault.bind_eq_ok {α β : Type} {x : Except Fault α} {f : α → Except Fault β} {b : β} :
    x >>= f = .ok b ↔ ∃ a, x = .ok a ∧ f a = .ok b := by
  cases x with
  | error e => exact ⟨nofun, nofun⟩
  | ok a => exact ⟨fun h => ⟨a, rfl, h⟩, fun ⟨_, rfl, h⟩ => h⟩

theorem Fault.eq_ok_of_toOption {α : Type} {x : Except Fault α} {a : α}
    (h : x.toOption = some a) : x = .ok a := by
  cases x with
  | error e => cases h
  | ok b => cases h; rfl

end StartPage
