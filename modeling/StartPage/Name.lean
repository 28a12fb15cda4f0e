import StartPage.Text.Basic
import StartPage.Unicode.Case

/-!
    Names of entries and folders, the form in which they are shown, and paths.

        "my file", ".lnk"   ──▶  "my_file.lnk"        normalize
        "dev_tools.lnk"     ──▶  "Dev Tools"          title
        "sites/a/b.lnk"     ──▶  sites, a/b.lnk       Path.ofText -/

namespace StartPage

namespace Name

/-- The ending of a link's name. -/
def linkExtension : String := ".lnk"

/-- The ending of a query's name. -/
def queryExtension : String := ".qry"

/-- What stands before an ending, in a text that has it. -/
def before? (ending s : String) : Option (List Char) :=
  (Text.after? ending.toList.reverse s.toList.reverse).map List.reverse

/-- A text ends in another. -/
def endsIn (ending s : String) : Bool := ending.toList.isSuffixOf s.toList

/-- A name by the rules for names: underscores for spaces, and the extension at the end. -/
def normalize (name extension : String) : String :=
  let name := Text.recolour ' ' '_' name
  if endsIn extension name then name else name ++ extension

/-- A name without its extension. -/
def stem (name : String) : List Char :=
  (before? linkExtension name <|> before? queryExtension name).getD name.toList

/-- A word with its first letter in upper case. -/
def capitalize : List Char → List Char
  | [] => []
  | c :: r => Unicode.upperChar c ++ r

/-- The form in which a name is shown: no extension, hyphens and underscores as spaces, and words
    in lower case that start with a capital. -/
def title (name : String) : String :=
  let spaced := (stem name).map fun c => if c = '-' ∨ c = '_' then ' ' else c
  let words := Text.fields ' ' (Unicode.lower spaced)
  String.ofList ([' '].intercalate (words.map capitalize))

end Name

/-- A path: the name of a folder, and of an entry in it unless the path is that of the folder. -/
structure Path where
  folder : String
  entry? : Option String
  deriving DecidableEq

namespace Path

/-- Reads a path: the folder's name ends at the first slash, and what follows names the entry if
    there is anything. -/
def ofText (s : String) : Path :=
  match Text.cutAt? '/' s.toList with
  | none => ⟨s, none⟩
  | some (folder, []) => ⟨String.ofList folder, none⟩
  | some (folder, c :: r) => ⟨String.ofList folder, some (String.ofList (c :: r))⟩

/-- The text of an entry's path. -/
def text (folder entry : String) : String := folder ++ "/" ++ entry

end Path
end StartPage
