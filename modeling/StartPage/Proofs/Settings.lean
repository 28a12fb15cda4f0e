import Mathlib.Data.Finset.Insert
import StartPage.Config

/-!
    Settings under either of their keys. A document that has every setting at one of its places, and
    anything else besides, is read as these settings. A setting that stands at no place or has the
    wrong type gets its default, and no other setting notices.

        {"showGUI": false, "prefix": {"name": "star", "size": 2}, "title_case": 1, "color": []}

    is read as a page without buttons and with a star for its sign, and is otherwise like a new one. -/

namespace StartPage

/-- What stands in a value where a list of keys leads, from the outermost object on. -/
def Json.at? : Json → List String → Option Json
  | v, [] => some v
  | v, k :: ks => (v.field? k).bind (·.at? ks)

/-- The settings, one by one. -/
inductive Setting where
  | showCommands | showGui | titleCase | fuzzy
  | defaultFile | background | promptIcon | promptIconClass
  deriving DecidableEq

namespace Setting

/-- The places of a setting: that of its key, and where older documents have it. -/
def places : Setting → List (List String)
  | .showCommands => [["show_commands"], ["showCommands"]]
  | .showGui => [["show_gui"], ["showGUI"]]
  | .titleCase => [["title_case"], ["titleCase"]]
  | .fuzzy => [["fuzzy"]]
  | .defaultFile => [["default_file"], ["defaultFile"]]
  | .background => [["background"]]
  | .promptIcon => [["prefix_icon"], ["prefix", "name"]]
  | .promptIconClass => [["prefix_icon_class"], ["prefix", "class"]]

/-- What a document has at the places of a setting. -/
def found (s : Setting) (v : Json) : List Json := s.places.filterMap v.at?

/-- The type of a setting: some are switches, and others are texts. -/
def fits : Setting → Json → Bool
  | .showCommands, v | .showGui, v | .titleCase, v | .fuzzy, v => v.bool?.isSome
  | .defaultFile, v | .background, v | .promptIcon, v | .promptIconClass, v => v.str?.isSome

end Setting

namespace Config

/-- One of the settings, as a JSON value. -/
def value (c : Config) : Setting → Json
  | .showCommands => .bool c.showCommands
  | .showGui => .bool c.showGui
  | .titleCase => .bool c.titleCase
  | .fuzzy => .bool c.fuzzy
  | .defaultFile => .str c.defaultFile
  | .background => .str c.background
  | .promptIcon => .str c.promptIcon
  | .promptIconClass => .str c.promptIconClass

/-- The settings with some of them put back to their defaults. -/
def reset (c : Config) (D : Finset Setting) : Config where
  showCommands := if .showCommands ∈ D then initial.showCommands else c.showCommands
  showGui := if .showGui ∈ D then initial.showGui else c.showGui
  titleCase := if .titleCase ∈ D then initial.titleCase else c.titleCase
  fuzzy := if .fuzzy ∈ D then initial.fuzzy else c.fuzzy
  defaultFile := if .defaultFile ∈ D then initial.defaultFile else c.defaultFile
  background := if .background ∈ D then initial.background else c.background
  promptIcon := if .promptIcon ∈ D then initial.promptIcon else c.promptIcon
  promptIconClass := if .promptIconClass ∈ D then initial.promptIconClass else c.promptIconClass

/-- A document of the settings, without those in `D`. Each of the others stands at one of its
    places, and no setting stands at two; a setting in `D` stands nowhere, or at one place with a
    value of the wrong type. Nothing is said of other keys. -/
structure IsWritten (c : Config) (D : Finset Setting) (v : Json) : Prop where
  given : ∀ s ∉ D, s.found v = [c.value s]
  lacking : ∀ s ∈ D, s.found v = [] ∨ ∃ j, s.found v = [j] ∧ s.fits j = false

/-- Settings that are the same one by one are the same. -/
theorem eq_of_value {c c' : Config} (h : ∀ s, c.value s = c'.value s) : c = c' := by
  obtain ⟨⟩ := c
  obtain ⟨⟩ := c'
  have showCommands := h .showCommands
  have showGui := h .showGui
  have titleCase := h .titleCase
  have fuzzy := h .fuzzy
  have defaultFile := h .defaultFile
  have background := h .background
  have promptIcon := h .promptIcon
  have promptIconClass := h .promptIconClass
  simp_all [value]

theorem value_reset (c : Config) (D : Finset Setting) (s : Setting) :
    (c.reset D).value s = if s ∈ D then initial.value s else c.value s := by
  cases s <;> exact apply_ite _ _ _ _

theorem fits_value (c : Config) (s : Setting) : s.fits (c.value s) = true := by
  cases s <;> rfl

/-! ### Reading one setting -/

section Reading

variable {α : Type} (v : Json)

/-- The key of a setting goes before the older one. -/
theorem setting?_eq (key older : String) (read : Json → Option α) :
    setting? v key older read = ([[key], [older]].filterMap v.at?).head?.bind read := by
  cases hkey : v.field? key with
  | some j => simp [setting?, Json.at?, hkey]
  | none =>
    cases holder : v.field? older with
    | some j => simp [setting?, Json.at?, hkey, holder]
    | none => simp [setting?, Json.at?, hkey, holder]

theorem setting?_self (key : String) (read : Json → Option α) :
    setting? v key key read = ([[key]].filterMap v.at?).head?.bind read := by
  cases hkey : v.field? key with
  | some j => simp [setting?, Json.at?, hkey]
  | none => simp [setting?, Json.at?, hkey]

/-- Of a setting of the prompt, only one place may have a value: otherwise the inner one goes first,
    and a value of the wrong type there makes way for the other. -/
theorem promptSetting?_eq {key inner : String}
    (h : ([[key], ["prefix", inner]].filterMap v.at?).length ≤ 1) :
    promptSetting? v key inner =
      ([[key], ["prefix", inner]].filterMap v.at?).head?.bind Json.str? := by
  cases hkey : v.field? key with
  | none =>
    cases hplace : (v.field? "prefix").bind (·.field? inner) with
    | some j => simp [promptSetting?, Json.at?, hkey, hplace]
    | none => simp [promptSetting?, Json.at?, hkey, hplace]
  | some j =>
    cases hplace : (v.field? "prefix").bind (·.field? inner) with
    | some j' => simp [Json.at?, hkey, hplace] at h
    | none => simp [promptSetting?, Json.at?, hkey, hplace]

end Reading

theorem bool_getD {o : Option Json} {b? : Option Bool} (h : b? = o.bind Json.bool?) (b : Bool) :
    Json.bool (b?.getD b) = (o.filter (·.bool?.isSome)).getD (.bool b) := by
  subst h
  cases o with
  | none => rfl
  | some j => cases j <;> rfl

theorem str_getD {o : Option Json} {s? : Option String} (h : s? = o.bind Json.str?) (s : String) :
    Json.str (s?.getD s) = (o.filter (·.str?.isSome)).getD (.str s) := by
  subst h
  cases o with
  | none => rfl
  | some j => cases j <;> rfl

/-- A setting is read from its places alone: what fits is taken over, and its default stands in for
    anything else. -/
theorem value_ofJson {v : Json} {s : Setting} (h : (s.found v).length ≤ 1) :
    (ofJson v).value s = ((s.found v).head?.filter s.fits).getD (initial.value s) := by
  cases s with
  | showCommands => exact bool_getD (setting?_eq v _ _ _) _
  | showGui => exact bool_getD (setting?_eq v _ _ _) _
  | titleCase => exact bool_getD (setting?_eq v _ _ _) _
  | fuzzy => exact bool_getD (setting?_self v _ _) _
  | defaultFile => exact str_getD (setting?_eq v _ _ _) _
  | background => exact str_getD (setting?_self v _ _) _
  | promptIcon => exact str_getD (promptSetting?_eq v h) _
  | promptIconClass => exact str_getD (promptSetting?_eq v h) _

/-- The settings are read back from any document of them, and those that it lacks get their
    defaults. -/
theorem ofJson_of_isWritten {c : Config} {D : Finset Setting} {v : Json} (h : c.IsWritten D v) :
    ofJson v = c.reset D := by
  refine eq_of_value fun s => ?_
  rw [value_reset]
  by_cases hs : s ∈ D
  · rw [if_pos hs]
    rcases h.lacking s hs with hfound | ⟨j, hfound, hfits⟩
    · rw [value_ofJson (by simp [hfound]), hfound]
      rfl
    · rw [value_ofJson (by simp [hfound]), hfound]
      simp [Option.filter, hfits]
  · have hfound := h.given s hs
    rw [if_neg hs, value_ofJson (by simp [hfound]), hfound]
    simp [Option.filter, fits_value]

/-- Settings that are none of the defaults. -/
def chosen : Config := ⟨true, false, false, true, "web/ddg.qry", "a\nb", "terminal", "regular"⟩

/-- A document of them with keys of both kinds, and others besides. The inner object has a key that
    means something outside of it, and has only one of the two settings that it may have. -/
def mixedDocument : Json :=
  .obj [("color", .obj [("text", .str "white")]), ("defaultFile", .str "web/ddg.qry"),
    ("fuzzy", .int 1), ("name", .str "x"),
    ("prefix", .obj [("fuzzy", .bool true), ("name", .str "terminal")]),
    ("prefix_icon_class", .str "regular"), ("showCommands", .bool true), ("showGUI", .bool false),
    ("titleCase", .null)]

theorem ofJson_of_isWritten_mixed :
    chosen.IsWritten {.titleCase, .fuzzy, .background} mixedDocument ∧
      ofJson mixedDocument = chosen.reset {.titleCase, .fuzzy, .background} ∧
      chosen.reset {.titleCase, .fuzzy, .background} =
        ⟨true, false, true, false, "web/ddg.qry", "", "terminal", "regular"⟩ := by
  have hwritten : chosen.IsWritten {.titleCase, .fuzzy, .background} mixedDocument := by
    refine ⟨fun s hs => ?_, fun s hs => ?_⟩
    · cases s with
      | titleCase | fuzzy | background => exact absurd hs (by decide)
      | _ => rfl
    · cases s with
      | titleCase => exact .inr ⟨.null, rfl, rfl⟩
      | fuzzy => exact .inr ⟨.int 1, rfl, rfl⟩
      | background => exact .inl rfl
      | _ => exact absurd hs (by decide)
  exact ⟨hwritten, ofJson_of_isWritten hwritten, by decide⟩

end Config
end StartPage
