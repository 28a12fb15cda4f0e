/-!
    Sets of code points as ascending lists of ranges that neither overlap nor touch.

    Code points that are no characters may be in a set; asking for a character never sees them. -/

namespace StartPage

/-- A set of code points: its ranges, each given by its first and last member. -/
structure CharSet where
  ranges : List (Nat × Nat)
  deriving DecidableEq, Inhabited

namespace CharSet

/-- The greatest code point. -/
def maxCode : Nat := 0x10FFFF

def empty : CharSet := ⟨[]⟩

/-- Every code point. -/
def full : CharSet := ⟨[(0, maxCode)]⟩

def isEmpty (s : CharSet) : Bool := s.ranges.isEmpty

/-- Membership in ascending ranges. -/
def within (n : Nat) : List (Nat × Nat) → Bool
  | [] => false
  | (a, b) :: r => if n < a then false else if n ≤ b then true else within n r

/-- The code point is in the set. -/
def hasCode (s : CharSet) (n : Nat) : Bool := within n s.ranges

/-- The character is in the set. -/
def contains (s : CharSet) (c : Char) : Bool := s.hasCode c.toNat

/-- The set of one character. -/
def single (c : Char) : CharSet := ⟨[(c.toNat, c.toNat)]⟩

theorem contains_single (c d : Char) : (single c).contains d = (d == c) := by
  have h : d = c ↔ d.toNat = c.toNat := Char.toNat_inj.symm
  simp only [contains, hasCode, single, within]
  by_cases hlt : d.toNat < c.toNat
  · have : d ≠ c := fun he => by simp [he] at hlt
    simp [hlt, this]
  · by_cases hle : d.toNat ≤ c.toNat
    · have : d = c := h.2 (by omega)
      simp [this]
    · have : d ≠ c := fun he => by simp [he] at hle
      simp [hlt, hle, this]

/-- Puts a range in front of ascending ranges that start no earlier, joining what overlaps or
    touches. -/
def consRange (a b : Nat) : List (Nat × Nat) → List (Nat × Nat)
  | [] => [(a, b)]
  | (a', b') :: r => if a' ≤ b + 1 then consRange a (max b b') r else (a, b) :: (a', b') :: r

/-- Joins the ranges of a list sorted by first members. -/
def joinSorted : List (Nat × Nat) → List (Nat × Nat)
  | [] => []
  | (a, b) :: r => consRange a b (joinSorted r)

/-- Puts a range in its place among ranges sorted by first members. -/
def insertRange (x : Nat × Nat) : List (Nat × Nat) → List (Nat × Nat)
  | [] => [x]
  | y :: r => if x.1 ≤ y.1 then x :: y :: r else y :: insertRange x r

/-- The set of all code points in some of the given ranges, which may come in any order. -/
def ofRanges (rs : List (Nat × Nat)) : CharSet := ⟨joinSorted (rs.foldr insertRange [])⟩

/-- The range between two characters. -/
def range (a b : Char) : CharSet := ⟨[(a.toNat, b.toNat)]⟩

def union (s t : CharSet) : CharSet := ofRanges (s.ranges ++ t.ranges)

/-- What the ranges leave out, from `start` on. -/
def gaps (start : Nat) : List (Nat × Nat) → List (Nat × Nat)
  | [] => if start ≤ maxCode then [(start, maxCode)] else []
  | (a, b) :: r => if start < a then (start, a - 1) :: gaps (b + 1) r else gaps (b + 1) r

/-- The code points not in the set. -/
def compl (s : CharSet) : CharSet := ⟨gaps 0 s.ranges⟩

def inter (s t : CharSet) : CharSet := (s.compl.union t.compl).compl

def diff (s t : CharSet) : CharSet := s.inter t.compl

/-- The code points in exactly one of two sets. -/
def symmDiff (s t : CharSet) : CharSet := (s.diff t).union (t.diff s)

/-- The members of a list of single code points. -/
def ofCodes (ns : List Nat) : CharSet := ofRanges (ns.map fun n => (n, n))

end CharSet
end StartPage
