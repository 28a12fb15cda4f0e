import StartPage.Folder

/-!
    The folders of a start page, in the order in which they are shown. Folders are found by name
    and entries by path; where a name occurs twice the first counts.

        sites/search.qry  ──▶  the entry search.qry of the folder sites -/

namespace StartPage

structure Store where
  folders : List Folder
  deriving DecidableEq

namespace Store

def empty : Store := ⟨[]⟩

/-- The folder with a name. -/
def folder? (s : Store) (name : String) : Option Folder := s.folders.find? (·.name == name)

def folderNames (s : Store) : List String := s.folders.map (·.name)

/-- The store of folders in their order, numbered anew. -/
def renumber (folders : List Folder) : Store := ⟨Sequence.number Folder.setPosition 1 folders⟩

/-- Adds a folder at the end; nothing if its name is taken. -/
def insert? (s : Store) (f : Folder) : Option Store :=
  if (s.folder? f.name).isSome then none
  else some ⟨s.folders ++ [f.setPosition (s.folders.length + 1)]⟩

/-- Adds folders one after the other, leaving out those whose name is taken. -/
def insertAll (s : Store) (folders : List Folder) : Store :=
  folders.foldl (fun s f => (s.insert? f).getD s) s

/-- Adds an empty folder. -/
def addFolder? (s : Store) (name : String) : Option Store := s.insert? (Folder.empty name)

/-- Removes the folders with a name; nothing if there are none. -/
def removeFolder? (s : Store) (name : String) : Option Store :=
  if s.folders.any (·.name == name) then some (renumber (s.folders.filter (·.name != name)))
  else none

/-- Moves a folder to a rank. -/
def placeFolder (s : Store) (name : String) (rank : Int) : Except Fault Store :=
  match s.folders.findIdx? (·.name == name) with
  | none => .error (.noFolder name)
  | some i => .ok (renumber (Sequence.reposition s.folders i rank))

/-- Changes the folder with a name. -/
def modifyFolder (s : Store) (name : String) (change : Folder → Folder) : Store :=
  ⟨Sequence.modifyFirst (·.name == name) change s.folders⟩

/-- Puts a folder in the place of the one with a name. -/
def setFolder (s : Store) (name : String) (f : Folder) : Store := s.modifyFolder name fun _ => f

/-- The entry that a path leads to. -/
def entryAt? (s : Store) (path : Path) : Option Entry := do
  let folder ← s.folder? path.folder
  folder.entry? (← path.entry?)

/-- The entry with a path. -/
def entry? (s : Store) (path : String) : Option Entry := s.entryAt? (Path.ofText path)

/-- Changes the entry that a path leads to. -/
def modifyEntry (s : Store) (path : Path) (change : Entry → Entry) : Store :=
  match path.entry? with
  | none => s
  | some name => s.modifyFolder path.folder (·.modify name change)

/-! ### Searches -/

/-- The word before the first colon of an operator. -/
def keywordOf (operator : String) : String :=
  String.ofList (operator.toList.takeWhile (· != ':'))

/-- The first query that answers to the word before an operator's colon, by its folder and name.
    Where a colon is required there is none without it. -/
def findQuery (s : Store) (operator : String) (requireColon : Bool) : Option (String × String) :=
  if requireColon && !operator.toList.contains ':' then none
  else
    let keyword := keywordOf operator
    s.folders.findSome? fun f =>
      (f.queries.find? (·.names.contains keyword)).map fun e => (f.name, e.name)

/-- All entries with the names of their folders. -/
def flatten (s : Store) : List (String × Entry) :=
  s.folders.flatMap fun f => f.entries.map fun e => (f.name, e)

/-- The entries that a search finds, with the names of their folders. -/
def search (s : Store) (text : String) (types : List EntryType) : List (String × Entry) :=
  s.folders.flatMap fun f => (f.search text types).map fun e => (f.name, e)

end Store
end StartPage
