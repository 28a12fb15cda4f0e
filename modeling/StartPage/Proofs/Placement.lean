import Mathlib.Data.List.Nodup
import StartPage.Proofs.Sequence

/-!
    Ranks as they are typed, and what it means to put an item at one: it comes behind so many of the
    others, as far as there are any. An item may also be put in the place of the one of its key.

        "+3"  ──▶  3               a at 3 :   a b c d  ──▶  b c a d
                                   a at 9 :   a b c d  ──▶  b c d a   -/

namespace StartPage.Sequence

/-! ### Ranks as they are typed -/

/-- The whole number that a text spells: a sign or none, and then at least one digit. -/
inductive Spells : List Char → Int → Prop
  | unsigned {digits : List Char} (ne_nil : digits ≠ []) (all : ∀ c ∈ digits, c.isDigit) :
      Spells digits (Nat.ofDigitChars 10 digits 0)
  | plus {digits : List Char} (ne_nil : digits ≠ []) (all : ∀ c ∈ digits, c.isDigit) :
      Spells ('+' :: digits) (Nat.ofDigitChars 10 digits 0)
  | minus {digits : List Char} (ne_nil : digits ≠ []) (all : ∀ c ∈ digits, c.isDigit) :
      Spells ('-' :: digits) (-Nat.ofDigitChars 10 digits 0)

/-- A text spells a rank, which is a number of 64 bits. -/
structure IsRank (text : String) (rank : Int) : Prop where
  spelled : Spells text.toList rank
  least : -0x8000_0000_0000_0000 ≤ rank
  most : rank < 0x8000_0000_0000_0000

/-- Tells whether a text has a minus, and what follows its sign. -/
def cutSign : List Char → Bool × List Char
  | '-' :: r => (true, r)
  | '+' :: r => (false, r)
  | cs => (false, cs)

/-- The number that digits give, or its negative. -/
def signed (negative : Bool) (digits : List Char) : Int :=
  if negative then -Nat.ofDigitChars 10 digits 0 else Nat.ofDigitChars 10 digits 0

theorem cutSign_of_digits {digits : List Char} (h : ∀ c ∈ digits, c.isDigit) :
    cutSign digits = (false, digits) := by
  unfold cutSign
  split
  · exact absurd (h '-' List.mem_cons_self) (by decide)
  · exact absurd (h '+' List.mem_cons_self) (by decide)
  · rfl

theorem spells_iff {cs : List Char} {n : Int} : Spells cs n ↔
    (cutSign cs).2 ≠ [] ∧ (∀ c ∈ (cutSign cs).2, c.isDigit) ∧
      n = signed (cutSign cs).1 (cutSign cs).2 := by
  constructor
  · intro h
    cases h with
    | unsigned ne_nil all =>
      rw [cutSign_of_digits all]
      exact ⟨ne_nil, all, rfl⟩
    | plus ne_nil all => exact ⟨ne_nil, all, rfl⟩
    | minus ne_nil all => exact ⟨ne_nil, all, rfl⟩
  · rintro ⟨ne_nil, all, rfl⟩
    revert ne_nil all
    unfold cutSign
    split
    · exact fun ne_nil all => .minus ne_nil all
    · exact fun ne_nil all => .plus ne_nil all
    · exact fun ne_nil all => .unsigned ne_nil all

theorem parseRank?_eq (text : String) : parseRank? text =
    let (negative, digits) := cutSign text.toList
    if digits.isEmpty || !digits.all Char.isDigit then none
    else if -0x8000_0000_0000_0000 ≤ signed negative digits ∧
        signed negative digits < 0x8000_0000_0000_0000 then some (signed negative digits)
    else none := by
  have hvalue : ∀ digits : List Char, digits.foldl (fun n c => n * 10 + (c.toNat - '0'.toNat)) 0 =
      Nat.ofDigitChars 10 digits 0 := by
    intro digits
    simp only [Nat.ofDigitChars, Nat.mul_comm 10]
  unfold parseRank?
  simp only [hvalue]
  rfl

/-- A rank is read from the texts that spell one, and from no others. -/
theorem parseRank?_eq_some {text : String} {rank : Int} :
    parseRank? text = some rank ↔ IsRank text rank := by
  rw [parseRank?_eq]
  dsimp only
  constructor
  · intro h
    split at h
    · cases h
    next hdigits =>
    split at h
    · next hrange =>
      cases h
      simp only [Bool.or_eq_true, List.isEmpty_iff, Bool.not_eq_true', List.all_eq_false,
        not_or, not_exists, not_and, not_not] at hdigits
      exact ⟨spells_iff.2 ⟨hdigits.1, hdigits.2, rfl⟩, hrange.1, hrange.2⟩
    · cases h
  · rintro ⟨hspelled, hleast, hmost⟩
    obtain ⟨hsome, hall, rfl⟩ := spells_iff.1 hspelled
    have hdigits : ((cutSign text.toList).2.isEmpty ||
        !(cutSign text.toList).2.all Char.isDigit) = false := by simpa using ⟨hsome, hall⟩
    rw [hdigits, if_neg Bool.false_ne_true, if_pos ⟨hleast, hmost⟩]

/-! ### Items in the place of others, and at a rank -/

section Placed

variable {α β γ : Type} [DecidableEq β] {key : α → β} {items : List α} {a : α}

/-- Items with one in the place of the one of its key. -/
def put (key : α → β) (items : List α) (a : α) : List α :=
  items.map fun b => if key b = key a then a else b

/-- Items in their order, but for one: it comes behind one less of the others than its rank says,
    and behind all of them if there are not so many. -/
def withRank (key : α → β) (items : List α) (a : α) (rank : Int) : List α :=
  let others := items.filter (key · != key a)
  others.take (rank - 1).toNat ++ a :: others.drop (rank - 1).toNat

/-- Where keys are distinct, a change that keeps the key of an item puts what comes of it in its
    place. -/
theorem modifyFirst_eq_put {f : α → α} (h : (items.map key).Nodup) (ha : a ∈ items)
    (same : key (f a) = key a) : modifyFirst (key · == key a) f items = put key items (f a) := by
  rw [modifyFirst_eq_map h, put, same]
  refine List.map_congr_left fun b hb => ?_
  split
  · next hkey => rw [List.inj_on_of_nodup_map h hb ha hkey]
  · rfl

/-- What the new item has in common with the old one, the items keep. -/
theorem map_put {a' : α} {g : α → γ} (h : (items.map key).Nodup) (ha : a ∈ items)
    (sameKey : key a' = key a) (same : g a' = g a) : (put key items a').map g = items.map g := by
  rw [put, List.map_map, sameKey]
  refine List.map_congr_left fun b hb => ?_
  dsimp only [Function.comp_apply]
  split
  · next hkey => rw [List.inj_on_of_nodup_map h hb ha hkey, same]
  · rfl

theorem insertIdx_min (items : List α) (n : Nat) (a : α) :
    items.insertIdx (min n items.length) a = items.take n ++ a :: items.drop n := by
  induction items generalizing n with
  | nil => simp
  | cons b r ih =>
    cases n with
    | zero => rfl
    | succ n =>
      rw [List.length_cons, Nat.succ_min_succ, List.insertIdx_succ_cons, ih]
      rfl

/-- Where keys are distinct, an item stands at the index that is found by its key. -/
theorem exists_findIdx? (h : (items.map key).Nodup) (ha : a ∈ items) :
    ∃ i, items.findIdx? (key · == key a) = some i ∧ items[i]? = some a := by
  have hfind := find?_of_mem h ha
  rw [List.find?_eq_bind_findIdx?_getElem?] at hfind
  exact Option.bind_eq_some_iff.1 hfind

/-- The item that is found by its key is the one that comes to the rank. -/
theorem exists_reposition_eq (h : (items.map key).Nodup) (ha : a ∈ items) (rank : Int) :
    ∃ i, items.findIdx? (key · == key a) = some i ∧
      reposition items i rank = withRank key items a rank := by
  obtain ⟨i, hi, hget⟩ := exists_findIdx? h ha
  have hothers : items.eraseIdx i = items.filter (key · != key a) := by
    rw [← eraseP_eq_filter h, List.eraseP_eq_eraseIdx, hi]
  refine ⟨i, hi, ?_⟩
  rw [reposition, hget]
  dsimp only
  rw [hothers, indexOfRank, insertIdx_min, withRank]

theorem withRank_perm (h : (items.map key).Nodup) (ha : a ∈ items) (rank : Int) :
    (withRank key items a rank).Perm items := by
  obtain ⟨i, -, hreposition⟩ := exists_reposition_eq h ha rank
  rw [← hreposition]
  exact reposition_perm items i rank

/-- What numbers do not touch, the items keep when one comes to a rank and all are numbered anew. -/
theorem map_mapIdx_withRank_perm {g : α → γ} {place : Nat → α → α}
    (keeps : ∀ i a, g (place i a) = g a) (h : (items.map key).Nodup) (ha : a ∈ items)
    (rank : Int) : (((withRank key items a rank).mapIdx place).map g).Perm (items.map g) := by
  have hnumber : ((withRank key items a rank).mapIdx place).map g =
      (withRank key items a rank).map g := List.ext_getElem (by simp) (by simp [keeps])
  rw [hnumber]
  exact (withRank_perm h ha rank).map g

end Placed

end StartPage.Sequence
