import Mathlib.Data.List.Perm.Basic
import StartPage.Sequence

/-!
    What the changes to a list keep: changing the first item with a property touches no other item,
    moving an item to a rank only reorders, and numbering gives positions that count from 1.

        positions   1 2 3   ──take out 2──▶   1 3   ──number──▶   1 2 -/

namespace StartPage.Sequence

variable {α β : Type} {p : α → Bool} {f : α → α}

/-! ### Changing the first item with a property -/

theorem mem_modifyFirst {b : α} : ∀ {items : List α}, b ∈ modifyFirst p f items →
    b ∈ items ∨ ∃ a, items.find? p = some a ∧ b = f a
  | [], h => .inl h
  | a :: r, h => by
    unfold modifyFirst at h
    cases hp : p a with
    | true =>
      rw [if_pos hp] at h
      rcases List.mem_cons.1 h with rfl | hb
      · exact .inr ⟨a, by rw [List.find?_cons_of_pos hp], rfl⟩
      · exact .inl (List.mem_cons_of_mem a hb)
    | false =>
      rw [hp, if_neg Bool.false_ne_true] at h
      rcases List.mem_cons.1 h with rfl | hb
      · exact .inl List.mem_cons_self
      · rcases mem_modifyFirst hb with hb | ⟨c, hc, rfl⟩
        · exact .inl (List.mem_cons_of_mem a hb)
        · exact .inr ⟨c, by rw [List.find?_cons_of_neg (by simp [hp]), hc], rfl⟩

/-- What the change keeps of the item that it is made to stays for all items. -/
theorem map_modifyFirst {g : α → β} : ∀ {items : List α},
    (∀ a, items.find? p = some a → g (f a) = g a) → (modifyFirst p f items).map g = items.map g
  | [], _ => rfl
  | a :: r, h => by
    unfold modifyFirst
    cases hp : p a with
    | true => rw [if_pos rfl, List.map_cons, h a (by rw [List.find?_cons_of_pos hp]), List.map_cons]
    | false =>
      have hr := map_modifyFirst fun c hc => h c (by rw [List.find?_cons_of_neg (by simp [hp]), hc])
      rw [if_neg Bool.false_ne_true, List.map_cons, hr, List.map_cons]

/-- Keys stay distinct if the new key of the changed item is its old one or nobody's. -/
theorem nodup_map_modifyFirst {g : α → β} : ∀ {items : List α}, (items.map g).Nodup →
    (∀ a, items.find? p = some a → ∀ b ∈ items, g b = g (f a) → g b = g a) →
    ((modifyFirst p f items).map g).Nodup
  | [], h, _ => h
  | a :: r, h, own => by
    obtain ⟨ha, hr⟩ := List.nodup_cons.1 h
    have other : ∀ b ∈ r, g b ≠ g a := fun b hb heq => ha (heq ▸ List.mem_map_of_mem hb)
    unfold modifyFirst
    cases hp : p a with
    | true =>
      have hfind : (a :: r).find? p = some a := by rw [List.find?_cons_of_pos hp]
      rw [if_pos rfl, List.map_cons, List.nodup_cons]
      refine ⟨fun hmem => ?_, hr⟩
      obtain ⟨b, hb, heq⟩ := List.mem_map.1 hmem
      exact other b hb (own a hfind b (List.mem_cons_of_mem a hb) heq)
    | false =>
      have hfind : (a :: r).find? p = r.find? p := List.find?_cons_of_neg (by simp [hp])
      rw [if_neg Bool.false_ne_true, List.map_cons, List.nodup_cons]
      refine ⟨fun hmem => ?_, nodup_map_modifyFirst hr fun c hc b hb =>
        own c (hfind.trans hc) b (List.mem_cons_of_mem a hb)⟩
      obtain ⟨b, hb, heq⟩ := List.mem_map.1 hmem
      rcases mem_modifyFirst hb with hb | ⟨c, hc, rfl⟩
      · exact other b hb heq
      · have hkey := own c (hfind.trans hc) a List.mem_cons_self heq.symm
        exact other c (List.mem_of_find?_eq_some hc) hkey.symm

theorem modifyFirst_append_cons {a : α} (ha : p a = true) (after : List α) :
    ∀ {before : List α}, (∀ b ∈ before, p b = false) →
      modifyFirst p f (before ++ a :: after) = before ++ f a :: after
  | [], _ => by rw [List.nil_append, modifyFirst, if_pos ha, List.nil_append]
  | b :: r, h => by
    have hr := modifyFirst_append_cons ha after fun c hc => h c (List.mem_cons_of_mem b hc)
    rw [List.cons_append, modifyFirst, if_neg (by simp [h b]), hr, List.cons_append]

/-- The change is made to one item, between those before and those after it. -/
theorem modifyFirst_split {items : List α} {a : α} (h : items.find? p = some a) :
    ∃ before after, items = before ++ a :: after ∧
      modifyFirst p f items = before ++ f a :: after := by
  obtain ⟨ha, before, after, rfl, hbefore⟩ := List.find?_eq_some_iff_append.1 h
  exact ⟨before, after, rfl, modifyFirst_append_cons ha after (by simpa using hbefore)⟩

/-- What the change makes of other items does not matter. -/
theorem modifyFirst_congr {g : α → α} : ∀ {items : List α},
    (∀ a, items.find? p = some a → f a = g a) → modifyFirst p f items = modifyFirst p g items
  | [], _ => rfl
  | a :: r, h => by
    rw [modifyFirst, modifyFirst]
    cases hp : p a with
    | true => rw [if_pos rfl, if_pos rfl, h a (by rw [List.find?_cons_of_pos hp])]
    | false =>
      have hr := modifyFirst_congr fun c hc => h c (by rw [List.find?_cons_of_neg (by simp [hp]), hc])
      rw [if_neg Bool.false_ne_true, if_neg Bool.false_ne_true, hr]

/-- A search for other items than the changed one finds what it found before. -/
theorem find?_modifyFirst_of_not {q : α → Bool} (other : ∀ a, p a = true → q a = false)
    (changed : ∀ a, p a = true → q (f a) = false) :
    ∀ items : List α, (modifyFirst p f items).find? q = items.find? q
  | [] => rfl
  | a :: r => by
    rw [modifyFirst]
    cases hp : p a with
    | true => simp [other a hp, changed a hp]
    | false => simp [List.find?_cons, find?_modifyFirst_of_not other changed r]

/-! ### Moving an item to a rank -/

/-- An item is there where an index is found for it. -/
theorem exists_of_findIdx? {items : List α} {i : Nat} (h : items.findIdx? p = some i) :
    ∃ a, items.find? p = some a := by
  obtain ⟨hi, ha, -⟩ := List.findIdx?_eq_some_iff_getElem.1 h
  exact Option.isSome_iff_exists.1 (List.find?_isSome.2 ⟨items[i], List.getElem_mem hi, ha⟩)

theorem reposition_perm (items : List α) (index : Nat) (rank : Int) :
    (reposition items index rank).Perm items := by
  unfold reposition
  cases h : items[index]? with
  | none => exact .refl items
  | some a =>
    obtain ⟨hi, rfl⟩ := List.getElem?_eq_some_iff.1 h
    exact (List.perm_insertIdx _ _ (indexOfRank_le ..)).trans (List.getElem_cons_eraseIdx_perm hi)

/-! ### Positions -/

/-- Items whose positions are 1, 2, 3 and so on. -/
def IsNumbered (position : α → Nat) (items : List α) : Prop :=
  items.map position = List.range' 1 items.length

instance (position : α → Nat) (items : List α) : Decidable (IsNumbered position items) :=
  inferInstanceAs (Decidable (items.map position = List.range' 1 items.length))

section Numbering

variable {place : α → Nat → α}

theorem length_number (place : α → Nat → α) :
    ∀ (n : Nat) (items : List α), (number place n items).length = items.length
  | _, [] => rfl
  | n, _ :: r => by rw [number, List.length_cons, length_number place (n + 1) r, List.length_cons]

/-- Numbering touches nothing but the positions. -/
theorem map_number {g : α → β} (place : α → Nat → α) (keeps : ∀ a n, g (place a n) = g a) :
    ∀ (n : Nat) (items : List α), (number place n items).map g = items.map g
  | _, [] => rfl
  | n, a :: r => by
    rw [number, List.map_cons, keeps, map_number place keeps (n + 1) r, List.map_cons]

theorem positions_number {position : α → Nat} (gives : ∀ a n, position (place a n) = n) :
    ∀ (n : Nat) (items : List α),
      (number place n items).map position = List.range' n items.length
  | _, [] => rfl
  | n, a :: r => by
    rw [number, List.map_cons, gives, positions_number gives (n + 1) r, List.length_cons,
      List.range'_succ]

theorem number_eq_mapIdx (place : α → Nat → α) : ∀ (n : Nat) (items : List α),
    number place n items = items.mapIdx fun i a => place a (n + i)
  | _, [] => rfl
  | n, a :: r => by
    rw [number, number_eq_mapIdx place (n + 1) r, List.mapIdx_cons]
    simp [Nat.add_assoc, Nat.add_comm 1]

theorem isNumbered_number {position : α → Nat} (gives : ∀ a n, position (place a n) = n)
    (items : List α) : IsNumbered position (number place 1 items) := by
  rw [IsNumbered, positions_number gives, length_number]

theorem mem_number {b : α} : ∀ {n : Nat} {items : List α}, b ∈ number place n items →
    ∃ a ∈ items, ∃ n, b = place a n
  | _, [], h => absurd h List.not_mem_nil
  | n, a :: r, h => by
    rcases List.mem_cons.1 h with rfl | h
    · exact ⟨a, List.mem_cons_self, n, rfl⟩
    · obtain ⟨c, hc, hnumber⟩ := mem_number h
      exact ⟨c, List.mem_cons_of_mem a hc, hnumber⟩

end Numbering

section Positions

variable {position : α → Nat} {items : List α} {a : α}

/-- A new item at the end gets the next position. -/
theorem IsNumbered.concat (h : IsNumbered position items)
    (ha : position a = items.length + 1) : IsNumbered position (items ++ [a]) := by
  rw [IsNumbered, List.map_append, h, List.map_singleton, ha, List.length_append,
    List.length_singleton, List.range'_concat]
  simp [Nat.add_comm]

theorem IsNumbered.modifyFirst (h : IsNumbered position items)
    (keeps : ∀ a, items.find? p = some a → position (f a) = position a) :
    IsNumbered position (Sequence.modifyFirst p f items) := by
  rw [IsNumbered, map_modifyFirst keeps, length_modifyFirst]
  exact h

theorem IsNumbered.map {g : α → α} (h : IsNumbered position items)
    (keeps : ∀ a, position (g a) = position a) : IsNumbered position (items.map g) := by
  rw [IsNumbered, List.map_map, List.length_map, ← h]
  exact List.map_congr_left fun a _ => keeps a

/-- A position is one more than the number of items before it. -/
theorem IsNumbered.position_eq {before after : List α} (h : IsNumbered position items)
    (hsplit : items = before ++ a :: after) : position a = before.length + 1 := by
  have hget := congrArg (·[before.length]?) h
  rw [hsplit] at hget
  simp at hget
  omega

theorem IsNumbered.pos (h : IsNumbered position items) (ha : a ∈ items) : 0 < position a := by
  have hmem : position a ∈ List.range' 1 items.length := h ▸ List.mem_map_of_mem ha
  have hle := (List.mem_range'_1.1 hmem).1
  omega

theorem IsNumbered.ascending (h : IsNumbered position items) :
    items.Pairwise fun a b => position a < position b := by
  have hrange : (items.map position).Pairwise (· < ·) := h ▸ List.pairwise_lt_range'
  exact List.pairwise_map.1 hrange

end Positions

/-! ### Keys -/

section Distinct

variable [DecidableEq β] {key : α → β} {items : List α}

/-- Where keys are distinct, an item is found by its key. -/
theorem find?_of_mem : ∀ {items : List α}, (items.map key).Nodup → ∀ {a : α}, a ∈ items →
    items.find? (key · == key a) = some a
  | b :: r, h, a, ha => by
    obtain ⟨hb, hr⟩ := List.nodup_cons.1 h
    rcases List.mem_cons.1 ha with rfl | ha
    · rw [List.find?_cons_of_pos (by simp)]
    · have hne : key b ≠ key a := fun heq => hb (heq ▸ List.mem_map_of_mem ha)
      rw [List.find?_cons_of_neg (by simpa using hne), find?_of_mem hr ha]

/-- Where keys are distinct, one item is changed and no other has its key. -/
theorem modifyFirst_eq_map (h : (items.map key).Nodup) (k : β) :
    modifyFirst (key · == k) f items = items.map fun a => if key a = k then f a else a := by
  induction items with
  | nil => rfl
  | cons a r ih =>
    obtain ⟨ha, hr⟩ := List.nodup_cons.1 h
    rw [modifyFirst, List.map_cons]
    by_cases hk : key a = k
    · have hrest : r.map (fun b => if key b = k then f b else b) = r.map id := by
        refine List.map_congr_left fun b hb => if_neg fun hbk => ?_
        exact ha (hk.trans hbk.symm ▸ List.mem_map_of_mem hb)
      simp [hk, hrest]
    · simp [hk, ih hr]

/-- Where keys are distinct, one item is taken out and no other has its key. -/
theorem eraseP_eq_filter (h : (items.map key).Nodup) (k : β) :
    items.eraseP (key · == k) = items.filter (key · != k) := by
  induction items with
  | nil => rfl
  | cons a r ih =>
    obtain ⟨ha, hr⟩ := List.nodup_cons.1 h
    by_cases hk : key a = k
    · have hrest : r.filter (key · != k) = r := by
        refine List.filter_eq_self.2 fun b hb => ?_
        have hne : key b ≠ k := fun hbk => ha (hk.trans hbk.symm ▸ List.mem_map_of_mem hb)
        simpa using hne
      simp [hk, hrest]
    · simp [hk, ih hr]

end Distinct

/-- Where keys are distinct, none of the items before an item has its key. -/
theorem key_ne_of_split {key : α → β} {items before after : List α} {a : α}
    (h : (items.map key).Nodup) (hsplit : items = before ++ a :: after) :
    ∀ b ∈ before, key b ≠ key a := by
  intro b hb
  rw [hsplit, List.map_append, List.map_cons, List.nodup_append] at h
  exact h.2.2 _ (List.mem_map_of_mem hb) _ List.mem_cons_self

theorem nodup_map_concat {key : α → β} {items : List α} {a : α} (h : (items.map key).Nodup)
    (free : ∀ b ∈ items, key b ≠ key a) : ((items ++ [a]).map key).Nodup := by
  rw [List.map_append, List.map_singleton, List.nodup_append]
  refine ⟨h, List.pairwise_singleton .., fun k hk k' hk' => ?_⟩
  obtain ⟨b, hb, rfl⟩ := List.mem_map.1 hk
  rw [List.mem_singleton.1 hk']
  exact free b hb

end StartPage.Sequence
