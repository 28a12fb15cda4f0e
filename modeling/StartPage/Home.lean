import StartPage.Page.Basic

/-!
    The home of a start page on disk: one file for the folders and one for the settings.

        folders.json        config.json

    A missing file counts as an empty one. Each file is written by itself, so one that cannot be
    written keeps what it held and the other is not held up. -/

namespace StartPage

/-- What is at the place of a file. A file that holds no text is `garbled`. -/
inductive Cell where
  | missing
  | text (s : String)
  | garbled
  | directory
  deriving DecidableEq

/-- Which of the files can be written. -/
structure Access where
  folders : Bool
  config : Bool

/-- Both files can be written. -/
def Access.full : Access := ⟨true, true⟩

/-- A home. It is of no use when something else is in the place of its directory. -/
structure Home where
  isUsable : Bool
  folders : Cell
  config : Cell
  deriving DecidableEq

namespace Cell

/-- Reads what a file holds, given what a missing one counts as. -/
def read {α : Type} (source : Source) (absent : α) (parse : String → Except Fault α) :
    Cell → Except Fault α
  | missing => .ok absent
  | text s => parse s
  | garbled | directory => .error (.storage (.unreadable source))

/-- Writes a file, if that can be written; a directory never can. -/
def write (allowed : Bool) (s : String) : Cell → Cell
  | directory => directory
  | c => if allowed then text s else c

end Cell

namespace Home

/-- A home that does not exist yet. -/
def fresh : Home := ⟨true, .missing, .missing⟩

/-- Reads folders from the text of their file. -/
def readFolders (text : String) : Except Fault Store :=
  match Json.read? text with
  | some v => Store.ofJson v
  | none => .error (.storage (.notJson .folders))

/-- The text of the file that keeps folders. -/
def foldersText (s : Store) : String := Json.pretty s.toJson

/-- Reads the page that lives in a home. -/
def load (h : Home) : Except Fault Page :=
  if h.isUsable then do
    let store ← h.folders.read .folders Store.empty readFolders
    let config ← h.config.read .config Config.initial Config.ofText
    .ok ⟨store, config⟩
  else .error (.storage .noDirectory)

/-- Writes a page into a home, as far as its files can be written. -/
def save (h : Home) (access : Access) (p : Page) : Home :=
  { h with
    folders := h.folders.write (h.isUsable && access.folders) (foldersText p.store)
    config := h.config.write (h.isUsable && access.config) p.config.fileText }

end Home
end StartPage
