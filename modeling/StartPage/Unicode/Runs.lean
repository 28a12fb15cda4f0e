import StartPage.Unicode.CharSet

/-!
    Tables that give every code point one of a few kinds. A table lists the runs of code points of one
    kind from U+0000 upwards: a letter for the kind, and the length of the run where it is not one.
    Line breaks in it mean nothing.

        A3B   the first three code points are of kind A, and the fourth is of kind B -/

namespace StartPage.Unicode

/-- The number of the kind that a letter of a table stands for: capitals first. -/
def kindOfLetter? (c : Char) : Option Nat :=
  if 'A' ≤ c && c ≤ 'Z' then some (c.toNat - 'A'.toNat)
  else if 'a' ≤ c && c ≤ 'z' then some (c.toNat - 'a'.toNat + 26)
  else none

/-- A table read up to some point: the runs so far, back to front, and the run being read. -/
structure TableReader where
  done : List (Nat × Nat × Nat)
  start : Nat
  current : Option Nat
  length : Nat

/-- Ends the run being read. -/
def TableReader.flush (r : TableReader) : TableReader :=
  match r.current with
  | none => r
  | some kind =>
    let n := if r.length = 0 then 1 else r.length
    ⟨(r.start, r.start + n - 1, kind) :: r.done, r.start + n, none, 0⟩

/-- Takes in one character of a table. -/
def TableReader.push (r : TableReader) (c : Char) : TableReader :=
  match kindOfLetter? c with
  | some kind => { r.flush with current := some kind }
  | none => if c.isDigit then { r with length := r.length * 10 + (c.toNat - '0'.toNat) } else r

/-- The runs of a table in ascending order: first and last code point, and kind. -/
def runsOf (table : String) : List (Nat × Nat × Nat) :=
  (table.toList.foldl TableReader.push ⟨[], 0, none, 0⟩).flush.done.reverse

/-- The code points whose kind satisfies `p`. -/
def codesOf (p : Nat → Bool) (runs : List (Nat × Nat × Nat)) : CharSet :=
  CharSet.ofRanges (runs.filterMap fun (a, b, kind) => if p kind then some (a, b) else none)

end StartPage.Unicode
