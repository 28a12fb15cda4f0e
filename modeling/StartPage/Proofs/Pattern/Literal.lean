import StartPage.Pattern.Parser
import StartPage.Proofs.Pattern.Spans

/-!
    Patterns that stand for one text. Characters that mean nothing in patterns are read one by one, and
    what they stand for together matches where they stand one after the other.

        ab    ──▶   a, then b    matches in   c a b   from 1 to 3 -/

namespace StartPage.Pattern

variable {f : Flags} {text w : List Char} {c : Char} {i j : Nat}

/-- The pattern of a text. -/
def literal (w : List Char) : Pattern := sequence (w.map fun c => .one (CharSet.single c))

/-! ### Reading -/

/-- The character means nothing in patterns. -/
def IsOrdinary (c : Char) : Prop := c ∉ "\\.+*?()|[]\x7b\x7d^$".toList

/-- The flags under which a character stands for itself alone. -/
structure Flags.IsLiteral (f : Flags) : Prop where
  cased : f.ignoreCase = false
  terse : f.verbose = false

theorem Flags.IsLiteral.skip (hf : f.IsLiteral) (cs : List Char) : f.skip cs = cs := by
  rw [Flags.skip, hf.terse]
  exact if_neg Bool.false_ne_true

theorem Flags.IsLiteral.atom (hf : f.IsLiteral) (c : Char) :
    f.atom (.char c) = .one (CharSet.single c) := by
  rw [Flags.atom, Flags.close, hf.cased]
  rfl

/-- A character that means nothing is added as it is. -/
theorem step_ordinary {p : Progress} (hf : p.flags.IsLiteral) (hc : IsOrdinary c) (r : List Char) :
    p.step c r = some (p.add (.one (CharSet.single c)) 0, r) := by
  rw [Progress.step]
  · rw [hf.atom]
  all_goals
    rintro rfl
    exact hc (by decide)

/-- The pieces of a text, the last first. -/
def pieces (w : List Char) : List (Option Piece) :=
  (w.map fun c => some ⟨.one (CharSet.single c), 0⟩).reverse

/-- All characters are added in their order. -/
theorem run_ordinary {p : Progress} (hf : p.flags.IsLiteral) (closed : p.open' = [])
    (ordinary : ∀ c ∈ w, IsOrdinary c) :
    p.run (w.length + 1) w =
      some { p with here := { p.here with current := pieces w ++ p.here.current } } := by
  induction w generalizing p with
  | nil =>
    have hclosed : p.open'.isEmpty = true := by rw [closed, List.isEmpty_nil]
    rw [Progress.run, hf.skip]
    exact if_pos hclosed
  | cons c r ih =>
    obtain ⟨hc, hr⟩ := List.forall_mem_cons.1 ordinary
    rw [List.length_cons, Progress.run, hf.skip]
    dsimp only
    rw [step_ordinary hf hc]
    dsimp only
    rw [ih (p := p.add (.one (CharSet.single c)) 0) hf closed hr]
    simp [Progress.add, Branches.add, pieces]

/-! ### Size -/

theorem maxDepthOf_flat {ps : List Piece} (flat : ∀ p ∈ ps, p.depth = 0) : maxDepthOf ps = 0 := by
  rw [maxDepthOf]
  induction ps with
  | nil => rfl
  | cons p ps ih =>
    obtain ⟨hp, hps⟩ := List.forall_mem_cons.1 flat
    rw [List.foldl_cons, hp, Nat.max_self, ih hps]

/-- Nesting is flat: one level, if there are several characters. -/
theorem whole_pieces (w : List Char) :
    (⟨[], pieces w⟩ : Branches).whole = ⟨literal w, if 1 < w.length then 1 else 0⟩ := by
  have hclose : (⟨[], pieces w⟩ : Branches).close = ⟨literal w, if 1 < w.length then 1 else 0⟩ := by
    have hflat : maxDepthOf (w.map fun c => ⟨.one (CharSet.single c), 0⟩) = 0 :=
      maxDepthOf_flat (by simp)
    have hpieces : ((pieces w).filterMap id).reverse = w.map fun c => ⟨.one (CharSet.single c), 0⟩ := by
      simp [pieces]
    rw [Branches.close]
    dsimp only
    rw [hpieces, nest, hflat, Nat.zero_add, List.map_map, literal]
    simp [pieces, Function.comp_def]
  rw [Branches.whole, hclose]
  simp [nest, maxDepthOf, choice]

theorem isPlainText_sequence {ps : List Pattern} (plain : ∀ p ∈ ps, p.isPlainText = true) :
    (sequence ps).isPlainText = true := by
  induction ps with
  | nil => rfl
  | cons p ps ih =>
    obtain ⟨hp, hps⟩ := List.forall_mem_cons.1 plain
    cases ps with
    | nil => exact hp
    | cons q qs =>
      rw [sequence, isPlainText, hp, ih hps, Bool.and_true]
      exact List.cons_ne_nil q qs

theorem tooLarge_literal (w : List Char) : (literal w).tooLarge = false := by
  have hplain : (literal w).isPlainText = true :=
    isPlainText_sequence (by simp [isPlainText, CharSet.isSingle_single])
  rw [tooLarge, hplain]
  rfl

/-- A text of characters that mean nothing is read as itself. -/
theorem parse?_ordinary (hf : f.IsLiteral) (ordinary : ∀ c ∈ w, IsOrdinary c) :
    parse? f w = some (literal w) := by
  have hrun := run_ordinary (p := ⟨f, 0, [], [], Branches.none⟩) hf rfl ordinary
  have hshallow : ¬ maxNesting < if 1 < w.length then 1 else 0 := by
    rw [maxNesting]
    split <;> omega
  rw [parse?, hrun]
  simp [Branches.none, whole_pieces, tooLarge_literal, hshallow]

/-! ### Matches -/

theorem spans_sequence_cons {p : Pattern} {ps : List Pattern} :
    (sequence (p :: ps)).Spans text i j ↔ ∃ k, p.Spans text i k ∧ (sequence ps).Spans text k j := by
  cases ps with
  | nil =>
    refine ⟨fun h => ⟨j, h, rfl⟩, ?_⟩
    rintro ⟨k, h, rfl⟩
    exact h
  | cons q qs => rfl

theorem cons_prefix_drop : c :: w <+: text.drop i ↔ text[i]? = some c ∧ w <+: text.drop (i + 1) := by
  rw [← List.head?_drop, ← List.tail_drop]
  cases text.drop i with
  | nil => simp
  | cons d r => simp [List.cons_prefix_cons, eq_comm]

/-- A text matches where it stands. -/
theorem spans_literal : (literal w).Spans text i j ↔ w <+: text.drop i ∧ j = i + w.length := by
  induction w generalizing i with
  | nil =>
    constructor
    · intro h
      exact ⟨List.nil_prefix, h.symm⟩
    · rintro ⟨-, h⟩
      exact h.symm
  | cons c r ih =>
    rw [literal, List.map_cons, spans_sequence_cons, ← literal, cons_prefix_drop, List.length_cons]
    constructor
    · rintro ⟨k, ⟨⟨d, hd, hset⟩, rfl⟩, hrest⟩
      rw [CharSet.contains_single, beq_iff_eq] at hset
      obtain ⟨hstart, rfl⟩ := ih.1 hrest
      exact ⟨⟨hset ▸ hd, hstart⟩, by omega⟩
    · rintro ⟨⟨hc, hstart⟩, rfl⟩
      refine ⟨i + 1, ⟨⟨c, hc, ?_⟩, rfl⟩, ih.2 ⟨hstart, by omega⟩⟩
      rw [CharSet.contains_single, beq_self_eq_true]

end StartPage.Pattern
