import StartPage.Fault
import StartPage.Json.Parser
import StartPage.Json.Printer
import StartPage.Text.Blank

/-!
    Settings of a start page. They are read from JSON field by field: a setting that is missing or
    has the wrong type keeps its default, and most settings also go by the key that older documents
    give them.

        show_commands, showCommands        prefix_icon, prefix.name -/

namespace StartPage

/-- The settings. `defaultFile` is the path of the query that takes input nothing else claims, and
    the prompt is the sign in front of the input line. -/
structure Config where
  showCommands : Bool
  showGui : Bool
  titleCase : Bool
  fuzzy : Bool
  defaultFile : String
  background : String
  promptIcon : String
  promptIconClass : String
  deriving DecidableEq

namespace Config

/-- The settings of a new start page. -/
def initial : Config where
  showCommands := false
  showGui := true
  titleCase := true
  fuzzy := false
  defaultFile := ""
  background := ""
  promptIcon := "chevron-right"
  promptIconClass := "solid"

/-- The settings with their keys, in the order in which they are written. -/
def fields (c : Config) : List (String × Json) :=
  [("show_commands", .bool c.showCommands), ("show_gui", .bool c.showGui),
    ("title_case", .bool c.titleCase), ("fuzzy", .bool c.fuzzy),
    ("default_file", .str c.defaultFile), ("background", .str c.background),
    ("prefix_icon", .str c.promptIcon), ("prefix_icon_class", .str c.promptIconClass)]

/-- The settings as a JSON value, with the keys in order. -/
def toJson (c : Config) : Json := Json.ofFields c.fields

/-- The text of the file that keeps the settings. -/
def fileText (c : Config) : String := Json.pretty (.obj c.fields)

/-- The value of a setting under its key or, if that is missing, under its older key. -/
def setting? {α : Type} (v : Json) (key older : String) (read : Json → Option α) : Option α :=
  (v.field? key <|> v.field? older).bind read

/-- The value of a setting of the prompt: its place inside an object goes before its own key. -/
def promptSetting? (v : Json) (key inner : String) : Option String :=
  ((v.field? "prefix").bind (·.field? inner)).bind Json.str? <|> (v.field? key).bind Json.str?

/-- Reads settings from a JSON value. -/
def ofJson (v : Json) : Config where
  showCommands := (setting? v "show_commands" "showCommands" Json.bool?).getD initial.showCommands
  showGui := (setting? v "show_gui" "showGUI" Json.bool?).getD initial.showGui
  titleCase := (setting? v "title_case" "titleCase" Json.bool?).getD initial.titleCase
  fuzzy := (setting? v "fuzzy" "fuzzy" Json.bool?).getD initial.fuzzy
  defaultFile := (setting? v "default_file" "defaultFile" Json.str?).getD initial.defaultFile
  background := (setting? v "background" "background" Json.str?).getD initial.background
  promptIcon := (promptSetting? v "prefix_icon" "name").getD initial.promptIcon
  promptIconClass := (promptSetting? v "prefix_icon_class" "class").getD initial.promptIconClass

/-- Reads settings from the text of a file. A blank text leaves all at their defaults. -/
def ofText (text : String) : Except Fault Config :=
  if Text.isAllBlank text.toList then .ok initial
  else match Json.read? text with
    | some v => .ok (ofJson v)
    | none => .error (.storage (.notJson .config))

end Config
end StartPage
