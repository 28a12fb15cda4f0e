import StartPage.Entry
import StartPage.Sequence

/-!
    Folders: ordered entries with names of their own. Every entry knows its folder's name and its
    place, counted from 1.

        sites  ┬  1  example.lnk
               └  2  search.qry -/

namespace StartPage

structure Folder where
  name : String
  icon : String
  iconClass : String
  position : Nat
  entries : List Entry
  deriving DecidableEq

namespace Folder

/-- A new folder. -/
def empty (name : String) : Folder := ⟨name, "folder", defaultIconClass, 0, []⟩

/-- The entry with a name. -/
def entry? (f : Folder) (name : String) : Option Entry := f.entries.find? (·.name == name)

/-- The form in which the name is shown. -/
def title (f : Folder) : String := Name.title f.name

/-- Gives a folder entries in their order, and numbers them anew. -/
def renumber (f : Folder) (entries : List Entry) : Folder :=
  { f with entries := Sequence.number Entry.setPosition 1 entries }

/-- Adds an entry at the end; nothing if its name is taken. -/
def add? (f : Folder) (e : Entry) : Option Folder :=
  if (f.entry? e.name).isSome then none
  else
    let e := { e with position := f.entries.length + 1, parent := some f.name }
    some { f with entries := f.entries ++ [e] }

/-- Adds entries one after the other, leaving out those whose name is taken. -/
def addAll (f : Folder) (entries : List Entry) : Folder :=
  entries.foldl (fun f e => (f.add? e).getD f) f

/-- Takes an entry out, which then has no parent; nothing if there is none with the name. -/
def take? (f : Folder) (name : String) : Option (Entry × Folder) := do
  let e ← f.entry? name
  let rest := f.entries.eraseP (·.name == name)
  some ({ e with parent := none }, f.renumber rest)

/-- Changes the entry with a name. -/
def modify (f : Folder) (name : String) (change : Entry → Entry) : Folder :=
  { f with entries := Sequence.modifyFirst (·.name == name) change f.entries }

/-- Moves an entry to a rank. -/
def place (f : Folder) (name : String) (rank : Int) : Except Fault Folder :=
  match f.entries.findIdx? (·.name == name) with
  | none => .error (.noFile (Path.text f.name name))
  | some i => .ok (f.renumber (Sequence.reposition f.entries i rank))

/-- Gives an entry a new name by the rules, unless another entry has it; with the folder comes the
    name that the entry got. -/
def renameEntry (f : Folder) (name new : String) : Except Fault (String × Folder) :=
  match f.entry? name with
  | none => .error (.noFile (Path.text f.name name))
  | some e =>
    let renamed := e.rename new
    if renamed.name ≠ name ∧ (f.entry? renamed.name).isSome then
      .error (.nameTaken renamed.name f.name)
    else .ok (renamed.name, f.modify name (·.rename new))

/-- Gives the folder a new name, and tells its entries. -/
def rename (f : Folder) (name : String) : Folder :=
  { f with
    name := name
    entries := f.entries.map fun e => { e with parent := some name } }

def setPosition (f : Folder) (position : Nat) : Folder := { f with position := position }

def setIcon (f : Folder) (icon : String) (iconClass : Option String) : Folder :=
  { f with icon := icon, iconClass := iconClass.getD defaultIconClass }

/-- An entry that a search for a text finds: its name contains the text, or a name of it starts
    with the text. A search may ask for entries of some types only. -/
def isFound (s : String) (types : List EntryType) (e : Entry) : Bool :=
  (Text.occursIn s.toList e.name.toList || e.namesStartWith s) &&
  (types.isEmpty || types.contains e.type)

/-- The entries that a search finds. -/
def search (f : Folder) (s : String) (types : List EntryType) : List Entry :=
  f.entries.filter (isFound s types)

/-- The queries of a folder. -/
def queries (f : Folder) : List Entry := f.entries.filter (·.isQuery)

end Folder
end StartPage
