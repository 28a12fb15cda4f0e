import Mathlib.Data.List.Forall2
import StartPage.Json.Shape

/-!
    What readers give. A value that is read in parts is read if each part is, and a list if each item
    is, into as many items in the same order. -/

namespace StartPage

/-- One item of a list is replaced by one to which it is related. -/
inductive Json.OneItem (R : Json → Json → Prop) : Json → Json → Prop
  | mk {v v' : Json} (before after : List Json) :
    R v v' → OneItem R (.arr (before ++ v :: after)) (.arr (before ++ v' :: after))

namespace Shape

variable {α β : Type} {read : Json → Result α} {v : Json} {items : List α}

theorem bind_eq_ok {x : Result α} {f : α → Result β} {b : β} :
    x >>= f = .ok b ↔ ∃ a, x = .ok a ∧ f a = .ok b := by
  cases x with
  | error e => exact ⟨nofun, nofun⟩
  | ok a => exact ⟨fun h => ⟨a, rfl, h⟩, fun ⟨_, rfl, h⟩ => h⟩

theorem map_eq_ok {x : Result α} {f : α → β} {b : β} :
    x.map f = .ok b ↔ ∃ a, x = .ok a ∧ f a = b := by
  cases x with
  | error e => exact ⟨nofun, nofun⟩
  | ok a => exact ⟨fun h => ⟨a, rfl, Except.ok.inj h⟩, fun ⟨_, rfl, h⟩ => congrArg _ h⟩

theorem require_eq_ok {name : String} {o : Option α} {a : α} :
    require name o = .ok a ↔ o = some a := by
  cases o with
  | none => exact ⟨nofun, nofun⟩
  | some b => exact ⟨fun h => congrArg some (Except.ok.inj h), fun h => by cases h; rfl⟩

theorem atEnd_eq_ok {length : Nat} {vs : List Json} : atEnd length vs = .ok () ↔ vs = [] := by
  cases vs with
  | nil => exact ⟨fun _ => rfl, fun _ => rfl⟩
  | cons v vs => exact ⟨nofun, nofun⟩

/-- A field is read if it is there. -/
theorem field?_eq_mapM (fields : List (String × Json)) (key : String) (read : Json → Result α) :
    field? fields key read = (Json.lookup key fields).mapM read := by
  rw [field?]
  cases Json.lookup key fields with
  | none => rfl
  | some v => rfl

theorem mapM_some_getD_eq_ok {a d : α} :
    ((some v).mapM read).map (·.getD d) = .ok a ↔ read v = .ok a := by
  rw [Option.mapM_some]
  cases read v with
  | error e => exact ⟨nofun, nofun⟩
  | ok b => exact ⟨id, id⟩

theorem field?_congr {fields fields' : List (String × Json)} {key : String}
    (read : Json → Result α) (h : Json.lookup key fields' = Json.lookup key fields) :
    field? fields' key read = field? fields key read := by
  rw [field?, field?, h]

/-! ### Lists -/

theorem mapM_eq_ok {vs : List Json} :
    vs.mapM read = .ok items ↔ List.Forall₂ (fun u a => read u = .ok a) vs items := by
  induction vs generalizing items with
  | nil =>
    rw [List.mapM_nil, List.forall₂_nil_left_iff]
    exact ⟨fun h => (Except.ok.inj h).symm, fun h => congrArg Except.ok h.symm⟩
  | cons u us ih =>
    rw [List.mapM_cons, List.forall₂_cons_left_iff, bind_eq_ok]
    constructor
    · rintro ⟨a, ha, h⟩
      obtain ⟨as, has, h⟩ := bind_eq_ok.1 h
      exact ⟨a, as, ha, ih.1 has, (Except.ok.inj h).symm⟩
    · rintro ⟨a, as, ha, has, rfl⟩
      exact ⟨a, ha, bind_eq_ok.2 ⟨as, ih.2 has, rfl⟩⟩

theorem list_eq_ok : list read v = .ok items ↔
    ∃ vs, v = .arr vs ∧ List.Forall₂ (fun u a => read u = .ok a) vs items := by
  cases v with
  | arr vs =>
    rw [list, mapM_eq_ok]
    exact ⟨fun h => ⟨vs, rfl, h⟩, fun ⟨_, hvs, h⟩ => by cases hvs; exact h⟩
  | null | bool _ | int _ | float _ | str _ | obj _ => exact ⟨nofun, fun ⟨_, h, _⟩ => by cases h⟩

/-- Every item of a list was read from some value. -/
theorem exists_of_mem_list {a : α} (h : list read v = .ok items) (ha : a ∈ items) :
    ∃ u, read u = .ok a := by
  obtain ⟨vs, -, hvs⟩ := list_eq_ok.1 h
  clear h
  induction hvs with
  | nil => cases ha
  | @cons u b us bs hu _ ih =>
    rcases List.mem_cons.1 ha with rfl | ha
    · exact ⟨u, hu⟩
    · exact ih ha

/-- A list is read the same if one item is replaced by one that is read the same. -/
theorem list_oneItem {R : Json → Json → Prop} {v' : Json}
    (same : ∀ u u', R u u' → ∀ a, read u' = .ok a ↔ read u = .ok a) (h : Json.OneItem R v v')
    (items : List α) : list read v' = .ok items ↔ list read v = .ok items := by
  obtain ⟨before, after, huu'⟩ := h
  rw [list, list, mapM_eq_ok, mapM_eq_ok]
  induction before generalizing items with
  | nil => simp only [List.nil_append, List.forall₂_cons_left_iff, same _ _ huu']
  | cons u us ih => simp only [List.cons_append, List.forall₂_cons_left_iff, ih]

end Shape
end StartPage
