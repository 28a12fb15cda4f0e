import StartPage.Pattern.Matcher

/-!
    What a pattern matches, said without a program: from which place of a text to which. Places are
    numbered by the characters before them. Which of several ways is preferred is left aside, and
    so is what groups save.

        a*b   in   x a a b      spans 1–4, 2–4 and 3–4 -/

namespace StartPage.Pattern

variable {text : List Char} {p : Pattern} {R : Nat → Nat → Prop} {i j k n : Nat}

/-- So many rounds, one after the other. -/
def Rounds (R : Nat → Nat → Prop) : Nat → Nat → Nat → Prop
  | 0, i, j => i = j
  | n + 1, i, j => ∃ k, R i k ∧ Rounds R n k j

/-- The place of a text with a number. -/
def placeAt (text : List Char) (i : Nat) : Place := ⟨i, (text.take i).getLast?, text[i]?⟩

/-- The pattern matches from one place of the text to another. -/
def Spans (text : List Char) : Pattern → Nat → Nat → Prop
  | .empty, i, j => i = j
  | .one s, i, j => (∃ c, text[i]? = some c ∧ s.contains c = true) ∧ i + 1 = j
  | .anchor a, i, j => a.holds (placeAt text i).before (placeAt text i).after = true ∧ i = j
  | .group _ p, i, j => p.Spans text i j
  | .seq p q, i, j => ∃ k, p.Spans text i k ∧ q.Spans text k j
  | .either p q, i, j => p.Spans text i j ∨ q.Spans text i j
  | .loop p least most _, i, j =>
    ∃ n, (least ≤ n ∧ ∀ m, most = some m → n ≤ max least m) ∧ Rounds (p.Spans text) n i j

theorem rounds_append {m : Nat} (hm : Rounds R m i k) (hn : Rounds R n k j) :
    Rounds R (m + n) i j := by
  induction m generalizing i with
  | zero =>
    cases hm
    rwa [Nat.zero_add]
  | succ m ih =>
    obtain ⟨l, hl, hrest⟩ := hm
    rw [Nat.succ_add]
    exact ⟨l, hl, ih hrest⟩

theorem rounds_split {m : Nat} (h : Rounds R (m + n) i j) : ∃ k, Rounds R m i k ∧ Rounds R n k j := by
  induction m generalizing i with
  | zero =>
    rw [Nat.zero_add] at h
    exact ⟨i, rfl, h⟩
  | succ m ih =>
    rw [Nat.succ_add] at h
    obtain ⟨l, hl, hrest⟩ := h
    obtain ⟨k, hm, hn⟩ := ih hrest
    exact ⟨k, ⟨l, hl, hm⟩, hn⟩

theorem rounds_one : Rounds R 1 i j ↔ R i j := by
  constructor
  · rintro ⟨k, hk, rfl⟩
    exact hk
  · exact fun h => ⟨j, h, rfl⟩

/-- A relation that goes forward within the text does so in any number of rounds. -/
theorem Rounds.forward {bound : Nat} (hR : ∀ i j, R i j → i ≤ bound → i ≤ j ∧ j ≤ bound)
    (h : Rounds R n i j) (hi : i ≤ bound) : i ≤ j ∧ j ≤ bound := by
  induction n generalizing i with
  | zero => exact ⟨Nat.le_of_eq h, h ▸ hi⟩
  | succ n ih =>
    obtain ⟨k, hk, hrest⟩ := h
    obtain ⟨hik, hkb⟩ := hR i k hk hi
    obtain ⟨hkj, hjb⟩ := ih hrest hkb
    exact ⟨Nat.le_trans hik hkj, hjb⟩

/-- Matches end at a later place of the text, or where they start. -/
theorem Spans.forward (h : p.Spans text i j) (hi : i ≤ text.length) : i ≤ j ∧ j ≤ text.length := by
  induction p generalizing i j with
  | empty => exact ⟨Nat.le_of_eq h, h ▸ hi⟩
  | one s =>
    obtain ⟨⟨c, hc, -⟩, rfl⟩ := h
    obtain ⟨hlt, -⟩ := List.getElem?_eq_some_iff.1 hc
    exact ⟨Nat.le_succ i, hlt⟩
  | anchor a =>
    obtain ⟨-, rfl⟩ := h
    exact ⟨Nat.le_refl i, hi⟩
  | group _ p ih => exact ih h hi
  | seq p q ihp ihq =>
    obtain ⟨k, hp, hq⟩ := h
    obtain ⟨hik, hk⟩ := ihp hp hi
    obtain ⟨hkj, hj⟩ := ihq hq hk
    exact ⟨Nat.le_trans hik hkj, hj⟩
  | either p q ihp ihq => exact h.elim (ihp · hi) (ihq · hi)
  | loop p least most greedy ih =>
    obtain ⟨n, -, hrounds⟩ := h
    exact hrounds.forward (fun i j => ih) hi

end StartPage.Pattern
