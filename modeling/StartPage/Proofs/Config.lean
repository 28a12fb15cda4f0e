import StartPage.Config
import StartPage.Proofs.Json.RoundTrip

/-!
    Settings that are written can be read back, as a JSON value and as the text of their file. Every
    setting is written under the key under which it is looked for first, so no default and no older
    key comes in. -/

namespace StartPage

namespace Json

theorem field?_ofFields (fields : List (String × Json)) (k : String) :
    (ofFields fields).field? k = lookup k fields.reverse := by
  rw [ofFields_eq, field?, lookup_insertFields, lookup, Option.or_none]

/-- A printed object starts with its brace, so its text is not blank. -/
theorem not_isAllBlank_pretty_obj (fields : List (String × Json)) :
    Text.isAllBlank (pretty (.obj fields)).toList = false := by
  have hbrace : Text.isBlank '\x7b' = false := by decide
  rw [pretty, String.toList_ofList, Text.isAllBlank]
  cases fields with
  | nil => simp [prettyAt, atom, hbrace]
  | cons f r => simp [prettyAt, hbrace]

end Json

namespace Config

theorem ofJson_toJson (c : Config) : ofJson c.toJson = c := by
  simp [ofJson, toJson, setting?, promptSetting?, Json.field?_ofFields, fields, Json.lookup,
    Json.bool?, Json.str?]

theorem exact_fields (c : Config) {d : Nat} : ∀ f ∈ c.fields, Json.Exact d f.2 := by
  simp [fields, Json.Exact.bool, Json.Exact.str]

theorem ofText_fileText (c : Config) : ofText c.fileText = .ok c := by
  have hread : Json.read? c.fileText = some c.toJson :=
    Json.read?_pretty_obj (d := 0) (by decide) c.exact_fields
  have hblank := Json.not_isAllBlank_pretty_obj c.fields
  rw [ofText, fileText, hblank, ← fileText, hread]
  simp [ofJson_toJson]

end Config
end StartPage
