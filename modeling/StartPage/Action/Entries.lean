import StartPage.Action.Folders

/-!
    The commands that make, remove and move entries.

        touch sites/example example.com        rm sites/example.lnk
        mv sites/example.lnk other/            mv sites/ pages/ -/

namespace StartPage.Action

/-! ### Making -/

/-- The entry that words after a path ask for, and the words that are left. A name with the
    extension of queries takes a keyword and a content, any other a content. -/
def newEntry? (name : String) (words : List String) : Option (Entry × List String) :=
  if Name.endsIn Name.queryExtension name then
    match words with
    | keyword :: content :: rest => some (Entry.query name keyword content, rest)
    | _ => none
  else
    match words with
    | content :: rest => some (Entry.link name content, rest)
    | [] => none

/-- Gives an entry the icon that words name, if they name one. -/
def withIcon (e : Entry) : List String → Entry
  | [] => e
  | icon :: rest => e.setIcon icon rest.head?

/-- The store with a new entry, and the path of that; nothing unless the folder exists, the words
    suffice and the name is free. -/
def madeEntry? (words : List String) (s : Store) : Option (Store × String) := do
  let path :: rest := words | none
  let ⟨folderName, some name⟩ := Path.ofText path | none
  let folder ← s.folder? folderName
  let (e, rest) ← newEntry? name rest
  let folder ← folder.add? (withIcon e rest)
  some (s.setFolder folderName folder, Path.text folderName e.name)

/-- Makes an entry, or says nothing. -/
def makeEntry (words : List String) (s : Store) : Store × Response :=
  match madeEntry? words s with
  | some (s', path) => (s', .success ("Created file " ++ path))
  | none => (s, .silent)

/-! ### Removing -/

/-- Removes the entry with a path; nothing if there is none. -/
def removeEntry? (s : Store) (path : String) : Option Store := do
  let ⟨folderName, some name⟩ := Path.ofText path | none
  let folder ← s.folder? folderName
  let (_, folder) ← folder.take? name
  some (s.setFolder folderName folder)

/-- Removes the entries with the given paths. -/
def removeEntries (words : List String) (s : Store) : Store × Response :=
  if words.isEmpty then (s, .error "No file given")
  else
    let (s', r) := removeAll removeEntry? s words
    if r.missing.isEmpty then
      (s', .success ("Deleted file(s): " ++ ", ".intercalate r.removed))
    else (s', .error ("File(s) not found: " ++ ", ".intercalate r.missing))

/-! ### Moving -/

/-- Gives a folder the name of the destination, which must be free. -/
def moveFolder (s : Store) (source dest : String) : Store × Response :=
  if dest.isEmpty then (s, .error "No destination folder given")
  else if (s.folder? dest).isSome then
    (s, .error ("Destination folder '" ++ dest ++ "' already exists"))
  else
    (s.modifyFolder source (·.rename dest),
      .success ("Renamed folder " ++ source ++ " to " ++ dest))

/-- Gives an entry a new name within its folder. -/
def renameWithin (s : Store) (source : String) (folder : Folder) (name new : String) :
    Store × Response :=
  match folder.renameEntry name new with
  | .ok (name, folder') =>
    (s.setFolder folder.name folder',
      .success ("Renamed " ++ source ++ " to " ++ Path.text folder.name name))
  | .error f => (s, .ofFault f)

/-- Moves an entry into another folder, under a new name. -/
def carryOver (s : Store) (source dest : String) (folder : Folder) (destFolder name new : String) :
    Store × Response :=
  match folder.take? name with
  | none => (s, .error ("The file " ++ name ++ " does not exist"))
  | some (e, rest) =>
    let s' := s.setFolder folder.name rest
    match (s'.folder? destFolder).bind (·.add? (e.rename new)) with
    | some filled =>
      (s'.setFolder destFolder filled, .success ("Moved file " ++ source ++ " to " ++ dest))
    | none => (s', .error ("Failed to move " ++ source ++ " to " ++ dest))

/-- Moves the entry of a folder to where a path leads; it keeps its name if the path has none, and
    must not meet an entry with the name it gets. -/
def moveEntry (s : Store) (source dest : String) (folder : Folder) (e : Entry) (target : Path) :
    Store × Response :=
  let new := Name.normalize (target.entry?.getD e.name) e.extension
  match s.folder? target.folder with
  | none => (s, .error ("The folder " ++ target.folder ++ " does not exist"))
  | some destination =>
    if (destination.entry? new).isSome then
      (s, .info ("A file with the name " ++ new ++
        " already exists in the destination folder. " ++ source ++ " was not moved."))
    else if folder.name = target.folder then renameWithin s source folder e.name new
    else carryOver s source dest folder target.folder e.name new

/-- Moves or renames what the first path leads to. -/
def move (words : List String) (s : Store) : Store × Response :=
  match words with
  | [source, dest] =>
    let path := Path.ofText source
    let target := Path.ofText dest
    match s.folder? path.folder with
    | none => (s, .error ("Source folder '" ++ path.folder ++ "' does not exist"))
    | some folder =>
      match path.entry? with
      | none => moveFolder s path.folder target.folder
      | some name =>
        match folder.entry? name with
        | none => (s, .error ("The file " ++ name ++ " does not exist"))
        | some e => moveEntry s source dest folder e target
  | _ => (s, .error "mv takes exactly two arguments: <sourcePath> <destinationPath>")

end StartPage.Action
