import Mathlib.Computability.Language
import StartPage.Proofs.Pattern.Follow
import StartPage.Proofs.Pattern.Literal

/-!
    What patterns without anchors match, said without places: the words of a language, wherever they
    stand in the text.

        ab          takes   ab
        (www\.)?    takes   nothing, and www.
        [a-z]{2,6}  takes   two to six lower-case letters

    Where a whole pattern is found follows from the words that its parts take. -/

namespace StartPage.Pattern

variable {text u v w : List Char} {p : Pattern} {ps qs : List Pattern} {L M : Language Char}
variable {s : CharSet} {i j k : Nat}

/-! ### Words that stand in a text -/

/-- The word stands in the text from one place to another. -/
def Stands (text w : List Char) (i j : Nat) : Prop := w <+: text.drop i ∧ j = i + w.length

theorem stands_nil : Stands text [] i j ↔ i = j := by
  simp [Stands, eq_comm]

theorem stands_singleton {c : Char} : Stands text [c] i j ↔ text[i]? = some c ∧ i + 1 = j := by
  simp [Stands, cons_prefix_drop, eq_comm]

theorem stands_append : Stands text (u ++ v) i j ↔ ∃ k, Stands text u i k ∧ Stands text v k j := by
  constructor
  · rintro ⟨⟨rest, hrest⟩, rfl⟩
    refine ⟨i + u.length, ⟨⟨v ++ rest, ?_⟩, rfl⟩, ⟨rest, ?_⟩, ?_⟩
    · rw [← hrest, List.append_assoc]
    · rw [← List.drop_drop, ← hrest, List.append_assoc, List.drop_left]
    · rw [List.length_append, Nat.add_assoc]
  · rintro ⟨_, ⟨⟨rest, hrest⟩, rfl⟩, ⟨⟨rest', hrest'⟩, rfl⟩⟩
    refine ⟨⟨rest', ?_⟩, ?_⟩
    · rw [← List.drop_drop, ← hrest, List.drop_left] at hrest'
      rw [List.append_assoc, hrest', hrest]
    · rw [List.length_append, Nat.add_assoc]

/-- A word that stands in the text from its start to its end is the text. -/
theorem stands_whole : Stands text w 0 text.length ↔ w = text := by
  constructor
  · rintro ⟨hw, hlength⟩
    rw [List.drop_zero] at hw
    exact hw.eq_of_length (by omega)
  · rintro rfl
    exact ⟨List.prefix_rfl, by omega⟩

/-! ### The words that patterns take -/

/-- From place to place of the text, the pattern matches the words of the language. -/
def Takes (text : List Char) (p : Pattern) (L : Language Char) : Prop :=
  ∀ i j, p.Spans text i j ↔ ∃ w ∈ L, Stands text w i j

theorem takes_literal (w : List Char) : Takes text (literal w) {w} := by
  intro i j
  rw [spans_literal]
  exact ⟨fun h => ⟨w, rfl, h⟩, fun ⟨v, hv, h⟩ => hv ▸ h⟩

/-- The words of one character from a set. -/
def oneOf (s : CharSet) : Language Char := {w | ∃ c, s.contains c = true ∧ w = [c]}

theorem takes_one (s : CharSet) : Takes text (.one s) (oneOf s) := by
  intro i j
  constructor
  · rintro ⟨⟨c, hc, hs⟩, hj⟩
    exact ⟨[c], ⟨c, hs, rfl⟩, stands_singleton.2 ⟨hc, hj⟩⟩
  · rintro ⟨_, ⟨c, hs, rfl⟩, hstands⟩
    obtain ⟨hc, hj⟩ := stands_singleton.1 hstands
    exact ⟨⟨c, hc, hs⟩, hj⟩

/-- The words of so many characters from a set. -/
def someOf (s : CharSet) (least : Nat) (most : Option Nat) : Language Char :=
  {w | least ≤ w.length ∧ (∀ m, most = some m → w.length ≤ max least m) ∧
    ∀ c ∈ w, s.contains c = true}

theorem rounds_one_iff {n : Nat} : Rounds ((one s).Spans text) n i j ↔
    ∃ w, (w.length = n ∧ ∀ c ∈ w, s.contains c = true) ∧ Stands text w i j := by
  induction n generalizing i with
  | zero =>
    constructor
    · intro h
      exact ⟨[], ⟨rfl, nofun⟩, stands_nil.2 h⟩
    · rintro ⟨w, ⟨hlength, -⟩, hstands⟩
      rw [List.length_eq_zero_iff.1 hlength] at hstands
      exact stands_nil.1 hstands
  | succ n ih =>
    constructor
    · rintro ⟨k, hone, hrest⟩
      obtain ⟨_, ⟨c, hc, rfl⟩, hfirst⟩ := (takes_one s i k).1 hone
      obtain ⟨w, ⟨hlength, hw⟩, hstands⟩ := ih.1 hrest
      refine ⟨c :: w, ⟨by simp [hlength], List.forall_mem_cons.2 ⟨hc, hw⟩⟩, ?_⟩
      exact stands_append.2 ⟨k, hfirst, hstands⟩
    · rintro ⟨_ | ⟨c, w⟩, ⟨hlength, hw⟩, hstands⟩
      · cases hlength
      obtain ⟨hc, hw⟩ := List.forall_mem_cons.1 hw
      obtain ⟨k, hfirst, hrest⟩ := (stands_append (u := [c])).1 hstands
      refine ⟨k, (takes_one s i k).2 ⟨[c], ⟨c, hc, rfl⟩, hfirst⟩, ih.2 ⟨w, ⟨?_, hw⟩, hrest⟩⟩
      simpa using hlength

/-- A loop over a set takes words of characters from the set. -/
theorem takes_loop_one (s : CharSet) (least : Nat) (most : Option Nat) (greedy : Bool) :
    Takes text (.loop (.one s) least most greedy) (someOf s least most) := by
  intro i j
  constructor
  · rintro ⟨n, ⟨hleast, hmost⟩, hrounds⟩
    obtain ⟨w, ⟨rfl, hw⟩, hstands⟩ := rounds_one_iff.1 hrounds
    exact ⟨w, ⟨hleast, hmost, hw⟩, hstands⟩
  · rintro ⟨w, ⟨hleast, hmost, hw⟩, hstands⟩
    exact ⟨w.length, ⟨hleast, hmost⟩, rounds_one_iff.2 ⟨w, ⟨rfl, hw⟩, hstands⟩⟩

theorem Takes.group (h : Takes text p L) (n : Nat) : Takes text (.group n p) L := h

/-- What may be left out takes the empty word as well. -/
theorem Takes.optional (h : Takes text p L) (greedy : Bool) :
    Takes text (.loop p 0 (some 1) greedy) {w | w = [] ∨ w ∈ L} := by
  intro i j
  constructor
  · rintro ⟨n, ⟨-, hmost⟩, hrounds⟩
    have hn : n = 0 ∨ n = 1 := by
      have hle := hmost 1 rfl
      omega
    rcases hn with rfl | rfl
    · exact ⟨[], .inl rfl, stands_nil.2 hrounds⟩
    · obtain ⟨w, hw, hstands⟩ := (h i j).1 (rounds_one.1 hrounds)
      exact ⟨w, .inr hw, hstands⟩
  · rintro ⟨w, rfl | hw, hstands⟩
    · exact ⟨0, ⟨Nat.le_refl 0, by simp⟩, stands_nil.1 hstands⟩
    · exact ⟨1, ⟨by simp, by simp⟩, rounds_one.2 ((h i j).2 ⟨w, hw, hstands⟩)⟩

theorem spans_sequence_append :
    (sequence (ps ++ qs)).Spans text i j ↔
      ∃ k, (sequence ps).Spans text i k ∧ (sequence qs).Spans text k j := by
  induction ps generalizing i with
  | nil =>
    constructor
    · intro h
      exact ⟨i, rfl, h⟩
    · rintro ⟨k, rfl, h⟩
      exact h
  | cons p ps ih =>
    simp only [List.cons_append, spans_sequence_cons, ih]
    constructor
    · rintro ⟨l, hp, k, hps, hqs⟩
      exact ⟨k, ⟨l, hp, hps⟩, hqs⟩
    · rintro ⟨k, ⟨l, hp, hps⟩, hqs⟩
      exact ⟨l, hp, k, hps, hqs⟩

/-- One after the other, patterns take the words of the one followed by those of the other. -/
theorem Takes.append (hp : Takes text (sequence ps) L) (hq : Takes text (sequence qs) M) :
    Takes text (sequence (ps ++ qs)) (L * M) := by
  intro i j
  rw [spans_sequence_append]
  constructor
  · rintro ⟨k, hleft, hright⟩
    obtain ⟨u, hu, hfirst⟩ := (hp i k).1 hleft
    obtain ⟨v, hv, hsecond⟩ := (hq k j).1 hright
    exact ⟨u ++ v, Language.append_mem_mul hu hv, stands_append.2 ⟨k, hfirst, hsecond⟩⟩
  · rintro ⟨w, hw, hstands⟩
    obtain ⟨u, hu, v, hv, rfl⟩ := Language.mem_mul.1 hw
    obtain ⟨k, hfirst, hsecond⟩ := stands_append.1 hstands
    exact ⟨k, (hp i k).2 ⟨u, hu, hfirst⟩, (hq k j).2 ⟨v, hv, hsecond⟩⟩

/-! ### Anchors and searches -/

theorem spans_textStart (hi : i ≤ text.length) :
    (anchor .textStart).Spans text i j ↔ i = 0 ∧ i = j := by
  have hbefore : (text.take i).getLast?.isNone = true ↔ i = 0 := by
    rw [Option.isNone_iff_eq_none, List.getLast?_eq_none_iff, List.take_eq_nil_iff]
    constructor
    · rintro (h | rfl)
      · exact h
      · exact Nat.le_zero.1 hi
    · exact .inl
  exact and_congr_left fun _ => hbefore

theorem spans_textEnd (hi : i ≤ text.length) :
    (anchor .textEnd).Spans text i j ↔ i = text.length ∧ i = j := by
  have hafter : text[i]?.isNone = true ↔ i = text.length := by
    rw [Option.isNone_iff_eq_none, List.getElem?_eq_none_iff]
    omega
  exact and_congr_left fun _ => hafter

/-- The program matches somewhere in the text. -/
def Program.Finds (p : Program) (text : List Char) : Prop :=
  ∃ passed rest, text = passed ++ rest ∧
    (p.hitAt passed.length passed.getLast? rest).isSome = true

theorem finds_iff : p.program.Finds text ↔ ∃ i ≤ text.length, ∃ j, p.Spans text i j := by
  constructor
  · rintro ⟨passed, rest, rfl, hfound⟩
    obtain ⟨h, hh⟩ := Option.isSome_iff_exists.1 hfound
    exact ⟨passed.length, by simp, h.stop, spans_of_hitAt hh⟩
  · rintro ⟨i, hi, j, hspans⟩
    have hlength : (text.take i).length = i := List.length_take_of_le hi
    refine ⟨text.take i, text.drop i, (List.take_append_drop i text).symm, isSome_hitAt (j := j) ?_⟩
    rwa [List.take_append_drop, hlength]

end StartPage.Pattern
