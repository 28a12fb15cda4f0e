import StartPage.Action.Details
import StartPage.Action.Entries
import StartPage.Command.Basic
import StartPage.Page.Basic

/-!
    Running commands: what each makes of the words after its name, and of the page. -/

namespace StartPage.Command

/-- Shows the manual of a command, or the list of all. -/
def showHelp (words : List String) : Response :=
  match words with
  | [] => .info ("\n".intercalate (all.map (·.manual.line)))
  | verb :: _ =>
    match ofVerb? verb with
    | some c => .info c.manual.text
    | none => .error ("No manual entry for " ++ verb)

/-- Shows or hides the list of commands. -/
def switchList (p : Page) : Page × Response :=
  let shown := !p.config.showCommands
  ({ p with config := { p.config with showCommands := shown } },
    .success (if shown then "Commands are now shown" else "Commands are now hidden"))

/-- Lets an action change the folders of a page. -/
def onStore (act : Store → Store × Response) (p : Page) : Page × Response :=
  let (store, response) := act p.store
  ({ p with store := store }, response)

/-- Runs a command with the words after its name. -/
def run (c : Command) (words : List String) (p : Page) : Page × Response :=
  match c with
  | .makeFolder => onStore (Action.makeFolders words) p
  | .makeEntry => onStore (Action.makeEntry words) p
  | .edit => onStore (Action.edit words) p
  | .move => onStore (Action.move words) p
  | .removeEntry => onStore (Action.removeEntries words) p
  | .removeFolder => onStore (Action.removeFolders words) p
  | .setPosition => onStore (Action.setPosition words) p
  | .setRule => onStore (Action.setRule words) p
  | .setDescription => onStore (Action.setDescription words) p
  | .setIcon => onStore (Action.setIcon words) p
  | .toggleCommands => switchList p
  | .help => (p, showHelp words)

end StartPage.Command
