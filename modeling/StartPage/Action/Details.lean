import StartPage.Response
import StartPage.Store.Basic

/-!
    The commands that change one thing about an entry or a folder: its content, its rule, its
    description, its icon or its place.

        edit sites/example.lnk example.org        set-position sites/ 2 -/

namespace StartPage.Action

/-- The entry that a path leads to, or why there is none. -/
def findEntry (s : Store) (path : String) : Except Fault Entry :=
  let p := Path.ofText path
  match s.folder? p.folder with
  | none => .error (.noFolder p.folder)
  | some folder =>
    match p.entry? with
    | none => .error (.noFileInPath path)
    | some name =>
      match folder.entry? name with
      | none => .error (.noFile path)
      | some e => .ok e

/-- Changes the entry that a path leads to, and says so. -/
def changeEntry (s : Store) (path : String) (change : Entry → Entry) (message : String) :
    Store × Response :=
  match findEntry s path with
  | .ok _ => (s.modifyEntry (Path.ofText path) change, .success message)
  | .error f => (s, .ofFault f)

/-- Changes the content of an entry, and the keyword of a query. -/
def edit (words : List String) (s : Store) : Store × Response :=
  match words with
  | [] => (s, .error "No file given")
  | path :: values => changeEntry s path (·.edit values) ("Edited " ++ path)

/-- Sets the rule of a query; missing words leave it empty. -/
def setRule (words : List String) (s : Store) : Store × Response :=
  match words with
  | [] => (s, .error "No file given")
  | path :: rest =>
    match findEntry s path with
    | .error f => (s, .ofFault f)
    | .ok e =>
      if e.isQuery then
        let rule : Rule := ⟨rest[0]?.getD "", rest[1]?.getD ""⟩
        changeEntry s path (·.setRule rule) ("Successfully set the sed expression for " ++ path)
      else (s, .error ("The file at " ++ path ++ " is not a Query File"))

/-- Describes an entry in words. -/
def setDescription (words : List String) (s : Store) : Store × Response :=
  match words with
  | [] => (s, .error "No file given")
  | path :: rest =>
    changeEntry s path (fun e => { e with description := " ".intercalate rest })
      ("Set the description of " ++ path)

/-- Sets the icon of an entry or a folder. -/
def setIcon (words : List String) (s : Store) : Store × Response :=
  match words with
  | path :: icon :: rest =>
    let p := Path.ofText path
    if p.entry?.isSome then
      changeEntry s path (·.setIcon icon rest.head?) ("Changed the icon of " ++ path)
    else if (s.folder? p.folder).isSome then
      (s.modifyFolder p.folder (·.setIcon icon rest.head?),
        .success ("Changed the icon of " ++ p.folder))
    else (s, .ofFault (.noFolder p.folder))
  | _ => (s, .error "set-icon takes a path and an icon name")

/-- Moves what a path leads to, an entry within its folder or a folder among the others. -/
def placeAt (s : Store) (path : String) (rank : Int) : Except Fault Store :=
  let p := Path.ofText path
  match p.entry? with
  | none => s.placeFolder p.folder rank
  | some name =>
    match s.folder? p.folder with
    | none => .error (.noFolder p.folder)
    | some folder => (folder.place name rank).map (s.setFolder p.folder)

/-- Changes the place of an entry or a folder. -/
def setPosition (words : List String) (s : Store) : Store × Response :=
  match words with
  | path :: rank :: _ =>
    match Sequence.parseRank? rank with
    | none => (s, .error ("Invalid position '" ++ rank ++ "'"))
    | some rank =>
      match placeAt s path rank with
      | .ok s' => (s', .success ("Changed the position of " ++ path))
      | .error f => (s, .ofFault f)
  | _ => (s, .error "set-position takes a path and a position")

end StartPage.Action
