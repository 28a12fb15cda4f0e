/-!
    Lists whose items are found by a property and have ranks: changing the first item with the
    property, moving an item to a rank, and numbering the items again.

        move 0 ▸ rank 3 :   a b c d  ──▶  b c a d -/

namespace StartPage.Sequence

variable {α : Type}

/-- Changes the first item with a property. -/
def modifyFirst (p : α → Bool) (f : α → α) : List α → List α
  | [] => []
  | a :: r => if p a then f a :: r else a :: modifyFirst p f r

theorem length_modifyFirst (p : α → Bool) (f : α → α) :
    ∀ items, (modifyFirst p f items).length = items.length
  | [] => rfl
  | a :: r => by
    unfold modifyFirst
    split
    · rfl
    · simp [length_modifyFirst p f r]

/-- The index at which an item with the given rank stands among `last` others: ranks start at 1,
    lower ones come first and higher ones last. -/
def indexOfRank (last : Nat) (rank : Int) : Nat := min (rank - 1).toNat last

/-- Moves the item at an index to a rank. An index that no item has moves nothing. -/
def reposition (items : List α) (index : Nat) (rank : Int) : List α :=
  match items[index]? with
  | none => items
  | some a =>
    let others := items.eraseIdx index
    others.insertIdx (indexOfRank others.length rank) a

theorem indexOfRank_le (last : Nat) (rank : Int) : indexOfRank last rank ≤ last :=
  Nat.min_le_right ..

theorem reposition_of_length_le {items : List α} {index : Nat} (rank : Int)
    (h : items.length ≤ index) : reposition items index rank = items := by
  rw [reposition, List.getElem?_eq_none h]

theorem length_reposition (items : List α) (index : Nat) (rank : Int) :
    (reposition items index rank).length = items.length := by
  unfold reposition
  cases h : items[index]? with
  | none => rfl
  | some a =>
    obtain ⟨hi, -⟩ := List.getElem?_eq_some_iff.1 h
    rw [List.length_insertIdx_of_le_length (indexOfRank_le ..), List.length_eraseIdx_of_lt hi]
    omega

/-- Numbers items in their order, from `n` on; `place` gives an item its number. -/
def number (place : α → Nat → α) (n : Nat) : List α → List α
  | [] => []
  | a :: r => place a n :: number place (n + 1) r

/-- A whole number with an optional sign, if it fits into 64 bits. -/
def parseRank? (s : String) : Option Int :=
  let (negative, digits) := match s.toList with
    | '-' :: r => (true, r)
    | '+' :: r => (false, r)
    | cs => (false, cs)
  if digits.isEmpty || !digits.all Char.isDigit then none
  else
    let n : Nat := digits.foldl (fun n c => n * 10 + (c.toNat - '0'.toNat)) 0
    let rank : Int := if negative then -n else n
    if -0x8000_0000_0000_0000 ≤ rank ∧ rank < 0x8000_0000_0000_0000 then some rank else none

end StartPage.Sequence
