import StartPage.Response
import StartPage.Store.Basic

/-!
    The commands that make and remove folders. Names may come with the slash that paths of folders
    end in.

        mkdir sites tools/        rmdir sites/ -/

namespace StartPage.Action

/-- A name without the slashes at its end. -/
def trimSlashes (name : String) : String :=
  String.ofList (name.toList.reverse.dropWhile (· == '/')).reverse

/-- A name that would lie inside another folder. -/
def isNested (name : String) : Bool := name.toList.contains '/'

/-- Adds folders one after the other and collects the names of those that were new. -/
def addFolders (s : Store) : List String → Store × List String
  | [] => (s, [])
  | name :: names =>
    match s.addFolder? name with
    | some s' =>
      let (s'', made) := addFolders s' names
      (s'', name :: made)
    | none => addFolders s names

/-- Makes a folder for every name; a nested name among them stops all. -/
def makeFolders (words : List String) (s : Store) : Store × Response :=
  if words.isEmpty then (s, .error "No folder name given")
  else
    let names := (words.map trimSlashes).filter (· != "")
    match names.find? isNested with
    | some name => (s, .error ("Folder names cannot contain '/': " ++ name))
    | none =>
      let (s', made) := addFolders s names
      if made.isEmpty then (s', .info "No new folders were created")
      else (s', .success ("Created folder(s): " ++ ", ".intercalate made))

/-- What became of the words of a command that removes: those it removed something for, and those
    that found nothing. -/
structure Removal where
  removed : List String
  missing : List String

/-- Removes for one word after the other. -/
def removeAll (remove? : Store → String → Option Store) (s : Store) :
    List String → Store × Removal
  | [] => (s, ⟨[], []⟩)
  | word :: words =>
    match remove? s word with
    | some s' =>
      let (s'', r) := removeAll remove? s' words
      (s'', { r with removed := word :: r.removed })
    | none =>
      let (s', r) := removeAll remove? s words
      (s', { r with missing := word :: r.missing })

/-- Removes the folders with the given names, read without their slashes. -/
def removeFolders (words : List String) (s : Store) : Store × Response :=
  if words.isEmpty then (s, .error "No folder name given")
  else
    let (s', r) := removeAll Store.removeFolder? s (words.map (Text.without '/'))
    if r.missing.isEmpty then
      (s', .success ("Deleted folder(s): " ++ ", ".intercalate r.removed))
    else (s', .error ("Folder(s) not found: " ++ ", ".intercalate r.missing))

end StartPage.Action
