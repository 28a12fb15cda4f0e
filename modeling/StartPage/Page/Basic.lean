import StartPage.Config
import StartPage.Store.Document

/-!
    A start page: its folders and its settings, and a backup of both as one text.

        {"config": {…}, "folders": […]} -/

namespace StartPage

structure Page where
  store : Store
  config : Config
  deriving DecidableEq

namespace Page

/-- A page with nothing on it. -/
def empty : Page := ⟨Store.empty, Config.initial⟩

/-- The backup of a page. -/
def backup (p : Page) : String :=
  Json.pretty (Json.ofFields [("folders", p.store.toJson), ("config", p.config.toJson)])

/-- The page that a backup describes. Without folders it has none, and without settings they are as
    on a new page. -/
def ofBackup (text : String) : Except Fault Page :=
  match Json.read? text with
  | none => .error (.storage (.notJson .backup))
  | some v => do
    let store ← match v.field? "folders" with
      | some folders => Store.ofJson folders
      | none => .ok Store.empty
    .ok ⟨store, ((v.field? "config").map Config.ofJson).getD Config.initial⟩

end Page
end StartPage
