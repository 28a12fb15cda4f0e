import Mathlib.Data.List.Basic
import StartPage.Text.Basic

/-!
    Texts that are cut at separators. Pieces without separators, written with one between any two,
    are the pieces of the whole, and a text is its pieces so written.

        ["a", "b", "", "c"]   ⇄   "a/b//c"      -/

namespace StartPage.Text

variable {p : Char → Bool} {sep : Char} {cs : List Char}

theorem splitBy_of_none {p : Char → Bool} {cs : List Char} (h : ∀ c ∈ cs, p c = false) :
    splitBy p cs = [cs] := by
  induction cs with
  | nil => rfl
  | cons c r ih =>
    have hr := ih fun d hd => h d (List.mem_cons_of_mem c hd)
    rw [splitBy, if_neg (by simp [h c List.mem_cons_self]), hr]

/-- The first piece ends at the first character that satisfies `p`. -/
theorem splitBy_append_cons {p : Char → Bool} {sep : Char} {cs : List Char} (hsep : p sep = true)
    (rest : List Char) (h : ∀ c ∈ cs, p c = false) :
    splitBy p (cs ++ sep :: rest) = cs :: splitBy p rest := by
  induction cs with
  | nil => rw [List.nil_append, splitBy, if_pos hsep]
  | cons c r ih =>
    have hr := ih fun d hd => h d (List.mem_cons_of_mem c hd)
    rw [List.cons_append, splitBy, if_neg (by simp [h c List.mem_cons_self]), hr]

/-- What stands before the first separator has none. -/
theorem cutAt?_append_cons {sep : Char} {cs : List Char} (rest : List Char) (h : sep ∉ cs) :
    cutAt? sep (cs ++ sep :: rest) = some (cs, rest) := by
  induction cs with
  | nil => rw [List.nil_append, cutAt?, if_pos rfl]
  | cons c r ih =>
    obtain ⟨hc, hr⟩ := not_or.1 (mt List.mem_cons.2 h)
    rw [List.cons_append, cutAt?, if_neg (Ne.symm hc), ih hr, Option.map_some]

/-- What comes after a separator that is not there. -/
theorem cutAt?_of_not_mem {sep : Char} {cs : List Char} (h : sep ∉ cs) :
    cutAt? sep cs = none := by
  induction cs with
  | nil => rfl
  | cons c r ih =>
    obtain ⟨hc, hr⟩ := not_or.1 (mt List.mem_cons.2 h)
    rw [cutAt?, if_neg (Ne.symm hc), ih hr, Option.map_none]

theorem not_mem_of_cutAt?_eq_none {sep : Char} {cs : List Char} (h : cutAt? sep cs = none) :
    sep ∉ cs := by
  induction cs with
  | nil => exact List.not_mem_nil
  | cons c r ih =>
    rw [cutAt?] at h
    split at h
    · cases h
    · next hc =>
      rw [List.mem_cons, not_or]
      exact ⟨Ne.symm hc, ih (Option.map_eq_none_iff.1 h)⟩

theorem not_mem_of_cutAt?_eq_some {sep : Char} {cs before after : List Char}
    (h : cutAt? sep cs = some (before, after)) : sep ∉ before := by
  induction cs generalizing before with
  | nil => cases h
  | cons c r ih =>
    rw [cutAt?] at h
    split at h
    · cases h
      exact List.not_mem_nil
    · next hc =>
      obtain ⟨⟨before', after'⟩, hr, hpair⟩ := Option.map_eq_some_iff.1 h
      cases hpair
      rw [List.mem_cons, not_or]
      exact ⟨Ne.symm hc, ih hr⟩

/-- The pieces consist of the characters between the separators. -/
theorem mem_of_mem_splitBy {piece : List Char} {c : Char} (h : piece ∈ splitBy p cs)
    (hc : c ∈ piece) : c ∈ cs ∧ p c = false := by
  induction cs generalizing piece with
  | nil =>
    rw [splitBy, List.mem_singleton] at h
    rw [h] at hc
    cases hc
  | cons d r ih =>
    rw [splitBy] at h
    split at h
    · rcases List.mem_cons.1 h with rfl | h
      · cases hc
      · obtain ⟨hmem, hp⟩ := ih h hc
        exact ⟨List.mem_cons_of_mem d hmem, hp⟩
    · next hd =>
      cases hr : splitBy p r with
      | nil => exact absurd hr (splitBy_ne_nil p r)
      | cons w ws =>
        rw [hr] at h ih
        have hsplit : (piece = d :: w ∨ piece ∈ ws) := List.mem_cons.1 h
        rcases hsplit with rfl | h
        · rcases List.mem_cons.1 hc with rfl | hc
          · exact ⟨List.mem_cons_self, by simpa using hd⟩
          · obtain ⟨hmem, hp⟩ := ih List.mem_cons_self hc
            exact ⟨List.mem_cons_of_mem d hmem, hp⟩
        · obtain ⟨hmem, hp⟩ := ih (List.mem_cons_of_mem w h) hc
          exact ⟨List.mem_cons_of_mem d hmem, hp⟩

/-- Pieces with a separator between any two are cut apart again. -/
theorem splitBy_intercalate (hsep : p sep = true) {pieces : List (List Char)} (nonempty : pieces ≠ [])
    (h : ∀ piece ∈ pieces, ∀ c ∈ piece, p c = false) :
    splitBy p ([sep].intercalate pieces) = pieces := by
  induction pieces with
  | nil => exact absurd rfl nonempty
  | cons w ws ih =>
    have hw := h w List.mem_cons_self
    cases ws with
    | nil => simpa using splitBy_of_none hw
    | cons v vs =>
      have hrest := ih (List.cons_ne_nil v vs) fun piece hpiece => h piece (List.mem_cons_of_mem w hpiece)
      rw [List.intercalate_cons_cons, List.append_assoc, List.singleton_append,
        splitBy_append_cons hsep _ hw, hrest]

theorem mem_intercalate {pieces : List (List Char)} {c : Char} (h : c ∈ [sep].intercalate pieces) :
    c = sep ∨ ∃ piece ∈ pieces, c ∈ piece := by
  induction pieces with
  | nil => cases h
  | cons w ws ih =>
    cases ws with
    | nil => exact .inr ⟨w, List.mem_cons_self, by simpa using h⟩
    | cons v vs =>
      rw [List.intercalate_cons_cons] at h
      rcases List.mem_append.1 h with h | h
      · rcases List.mem_append.1 h with h | h
        · exact .inr ⟨w, List.mem_cons_self, h⟩
        · exact .inl (List.mem_singleton.1 h)
      · exact (ih h).imp_right fun ⟨piece, hpiece, hc⟩ => ⟨piece, List.mem_cons_of_mem w hpiece, hc⟩

/-- A text is its fields with the separator between any two. -/
theorem intercalate_fields (sep : Char) (cs : List Char) : [sep].intercalate (fields sep cs) = cs := by
  unfold fields
  induction cs with
  | nil => rfl
  | cons c r ih =>
    rw [splitBy]
    cases hr : splitBy (· == sep) r with
    | nil => exact absurd hr (splitBy_ne_nil _ r)
    | cons w ws =>
      rw [hr] at ih
      split
      · next hc =>
        rw [List.intercalate_cons_cons, ih, List.nil_append, List.singleton_append, eq_of_beq hc]
      · cases ws with
        | nil => simpa using ih
        | cons v vs =>
          rw [List.intercalate_cons_cons] at ih ⊢
          rw [← ih]
          rfl

/-- A text occurs in another where that starts with it or further on. -/
theorem occursIn_iff {pat : List Char} : occursIn pat cs = true ↔ pat <:+: cs := by
  induction cs with
  | nil => rw [occursIn, List.isEmpty_iff, List.infix_nil]
  | cons c r ih =>
    rw [occursIn, Bool.or_eq_true, ih, List.isPrefixOf_iff_prefix, List.infix_cons_iff]

section

variable {α β : Type} {f : α → Option β} {as : List α} {bs : List β}

theorem map_of_mapM (h : as.mapM f = some bs) : as.map f = bs.map some := by
  induction as generalizing bs with
  | nil =>
    obtain rfl := Option.some.inj h
    rfl
  | cons a as ih =>
    rw [List.mapM_cons] at h
    obtain ⟨b, ha, h⟩ := Option.bind_eq_some_iff.1 h
    obtain ⟨cs, has, h⟩ := Option.bind_eq_some_iff.1 h
    obtain rfl := Option.some.inj h
    rw [List.map_cons, ha, ih has, List.map_cons]

theorem mapM_of_map (h : as.map f = bs.map some) : as.mapM f = some bs := by
  induction as generalizing bs with
  | nil =>
    cases bs with
    | nil => rfl
    | cons b bs => cases h
  | cons a as ih =>
    cases bs with
    | nil => cases h
    | cons b bs =>
      obtain ⟨ha, has⟩ := List.cons.inj h
      rw [List.mapM_cons, ha, ih has]
      rfl

/-- The members of a list are read one by one if every one of them can be read. -/
theorem mapM_eq_some_iff : as.mapM f = some bs ↔ as.map f = bs.map some :=
  ⟨map_of_mapM, mapM_of_map⟩

end

end StartPage.Text
