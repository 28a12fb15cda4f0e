/-!
    The commands of a start page and their manual: names, parameters and examples of each.

        mv <sourcePath> <destinationPath>     <required>  [optional]  <repeatable>... -/

namespace StartPage

/-- The commands, in the order in which they are listed. -/
inductive Command where
  | makeFolder | makeEntry | edit | move | removeEntry | removeFolder | setPosition | setRule
  | setDescription | setIcon | toggleCommands | help
  deriving DecidableEq

/-- A parameter of a command. -/
structure Parameter where
  name : String
  isOptional : Bool
  isRepeatable : Bool

/-- A documented use of a command: the words after its name, and what they do. -/
structure Usage where
  words : List String
  effect : String

/-- What is said about a command. -/
structure Manual where
  name : String
  aliases : List String
  summary : String
  details : List String
  parameters : List Parameter
  examples : List Usage

namespace Parameter

def required (name : String) : Parameter := ⟨name, false, false⟩

def optional (name : String) : Parameter := ⟨name, true, false⟩

def repeatable (name : String) : Parameter := ⟨name, false, true⟩

/-- A parameter in a line of usage. -/
def text (p : Parameter) : String :=
  (if p.isOptional then "[" ++ p.name ++ "]" else "<" ++ p.name ++ ">") ++
    (if p.isRepeatable then "..." else "")

end Parameter

namespace Manual

/-- The name of the command with its parameters. -/
def usage (m : Manual) : String := " ".intercalate (m.name :: m.parameters.map Parameter.text)

/-- An example, on two lines. -/
def exampleText (m : Manual) (u : Usage) : String :=
  "  " ++ " ".intercalate (m.name :: u.words) ++ "\n      " ++ u.effect

/-- The page of the manual. -/
def text (m : Manual) : String :=
  "\n".intercalate <|
    [m.name ++ " - " ++ m.summary, "Usage: " ++ m.usage] ++
      (if m.aliases.isEmpty then [] else ["Aliases: " ++ ", ".intercalate m.aliases]) ++
      m.details ++ m.examples.map m.exampleText

/-- A line of the list of commands. -/
def line (m : Manual) : String := m.usage ++ " - " ++ m.summary

end Manual

namespace Command

def all : List Command :=
  [.makeFolder, .makeEntry, .edit, .move, .removeEntry, .removeFolder, .setPosition, .setRule,
    .setDescription, .setIcon, .toggleCommands, .help]

def manual : Command → Manual
  | .makeFolder =>
    { name := "mkdir"
      aliases := ["make-folder"]
      summary := "Creates new folders"
      details := ["Creates one folder per name given. Names that already exist are skipped."]
      parameters := [.repeatable "folderName"]
      examples := [⟨["sites", "tools"], "Creates the folders 'sites' and 'tools'"⟩] }
  | .makeEntry =>
    { name := "touch"
      aliases := ["make-file"]
      summary := "Creates new files"
      details :=
        ["Creates a file within an existing folder, unless a file with that name already exists.",
          "Link files (.lnk) navigate to their content. Query files (.qry) replace '$\x7b\x7d' in " ++
            "their content with the arguments they are run with.",
          "Query files run by their full path or by their prefix followed by a colon.",
          "Without an extension a link file is created."]
      parameters :=
        [.required "filepath", .optional "prefix", .required "content", .optional "icon",
          .optional "iconClass"]
      examples :=
        [⟨["sites/example", "example.com"],
            "Creates a link file in 'sites' that navigates to https://example.com"⟩,
          ⟨["sites/example.qry", "ex", "example.com/search?q=$\x7b\x7d"],
            "Creates a query file in 'sites', run with 'sites/example.qry foo' or 'ex: foo'"⟩] }
  | .edit =>
    { name := "edit"
      aliases := ["edit-file"]
      summary := "Edits the content of an existing file"
      details :=
        ["Link files take the new content. Query files take a new prefix, then new content.",
          "Pass '*' to keep a value unchanged."]
      parameters := [.required "filepath", .repeatable "values"]
      examples :=
        [⟨["sites/example.lnk", "example.org"], "Points 'example.lnk' at example.org"⟩,
          ⟨["sites/example.qry", "*", "example.org/?q=$\x7b\x7d"],
            "Keeps the prefix of 'example.qry' and replaces its content"⟩] }
  | .move =>
    { name := "mv"
      aliases := ["move", "move-file", "move-folder"]
      summary := "Moves or renames files and folders"
      details :=
        ["Moves files and folders to new locations. Can also be used to rename files and folders.",
          "A file keeps its name when the destination has no file segment, and keeps its extension " ++
            "when the new name omits it."]
      parameters := [.required "sourcePath", .required "destinationPath"]
      examples :=
        [⟨["sites/example.lnk", "other/"],
            "Moves 'example.lnk' from 'sites' to 'other', keeping its name"⟩,
          ⟨["sites/exmaple.lnk", "sites/example.lnk"],
            "Renames 'exmaple.lnk' to 'example.lnk' within 'sites'"⟩,
          ⟨["sites/", "other/"], "Renames the folder 'sites' to 'other'"⟩] }
  | .removeEntry =>
    { name := "rm"
      aliases := ["remove-file", "delete-file"]
      summary := "Deletes files"
      details := []
      parameters := [.repeatable "filepath"]
      examples :=
        [⟨["sites/example.lnk"], "Deletes 'example.lnk' from the 'sites' folder"⟩] }
  | .removeFolder =>
    { name := "rmdir"
      aliases := ["remove-folder", "delete-folder"]
      summary := "Deletes folders and their files"
      details :=
        ["Removes each named folder along with every file inside it. This cannot be undone."]
      parameters := [.repeatable "folderName"]
      examples := [⟨["sites/"], "Deletes the folder 'sites'"⟩] }
  | .setPosition =>
    { name := "set-position"
      aliases := []
      summary := "Changes the position of a file or folder"
      details := ["Positions start at 1. Positions past the end place the entry last."]
      parameters := [.required "filepath", .required "position"]
      examples :=
        [⟨["sites/example.lnk", "1"], "Moves 'sites/example.lnk' to the first position"⟩,
          ⟨["sites/", "2"], "Makes 'sites' the second folder"⟩] }
  | .setRule =>
    { name := "sed"
      aliases := []
      summary := "Changes the sed expression of an existing Query File"
      details :=
        ["Rewrites a Query File's arguments with a regex-like expression before they are placed " ++
            "in its URL.",
          "Only the first match is replaced unless the expression carries the g flag.",
          "Without a replaceString every match is removed. Without an expression the rule is " ++
            "cleared.",
          "The target file must be a Query File."]
      parameters := [.required "filepath", .optional "expression", .optional "replaceString"]
      examples :=
        [⟨["terraform/azurerm_resource.qry", "/azurerm_/"],
            "Removes 'azurerm_', so 'azurerm_resource_group' becomes 'resource_group'"⟩,
          ⟨["sites/example.qry", "/ /g", "/"], "Replaces every space with a forward slash"⟩] }
  | .setDescription =>
    { name := "set-description"
      aliases := ["set-desc"]
      summary := "Sets the description of a file's tooltip"
      details :=
        ["The file extension must be supplied. An empty description restores the default."]
      parameters := [.required "filepath", .repeatable "description"]
      examples :=
        [⟨["sites/example.lnk", "Goes", "to", "an", "example", "site"],
            "Changes the description of 'example.lnk' in 'sites'"⟩] }
  | .setIcon =>
    { name := "set-icon"
      aliases := []
      summary := "Changes the icon of an existing file or folder"
      details := []
      parameters := [.required "path", .required "icon", .optional "iconClass"]
      examples :=
        [⟨["sites/example.lnk", "github", "brands"],
            "Gives 'example.lnk' the brands 'github' icon"⟩,
          ⟨["sites/", "globe"], "Gives the folder 'sites' the solid 'globe' icon"⟩] }
  | .toggleCommands =>
    { name := "toggle-commands"
      aliases := []
      summary := "Toggles the visibility of the commands list"
      details := []
      parameters := []
      examples := [] }
  | .help =>
    { name := "help"
      aliases := ["man"]
      summary := "Shows how to use commands"
      details :=
        ["Without a command name every available command is listed with its usage."]
      parameters := [.optional "command"]
      examples := [] }

/-- The name of a command and its other names. -/
def verbs (c : Command) : List String := c.manual.name :: c.manual.aliases

/-- The command that a word names. -/
def ofVerb? (verb : String) : Option Command := all.find? (·.verbs.contains verb)

end Command
end StartPage
