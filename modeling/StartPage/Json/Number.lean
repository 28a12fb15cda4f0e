import StartPage.Json.Basic

/-!
    Numbers in JSON text.

        -? (0 | [1-9][0-9]*) (. [0-9]+)? ([eE] [+-]? [0-9]+)?

    A number with neither fraction nor exponent is an integer while it fits in 64 bits. All others
    are floating point: the digits are collected into a 64-bit significand, digits beyond its
    capacity only count into the exponent, and the significand is scaled by powers of ten, each
    step rounded. -/

namespace StartPage.Json

/-- The value of a decimal digit. -/
def digit? (c : Char) : Option Nat :=
  if '0' ≤ c && c ≤ '9' then some (c.toNat - '0'.toNat) else none

/-- The digits at the front of a text, as values, and what follows them. -/
def takeDigits : List Char → List Nat × List Char
  | [] => ([], [])
  | c :: r =>
    match digit? c with
    | some d => let (ds, rest) := takeDigits r; (d :: ds, rest)
    | none => ([], c :: r)

/-- The greatest 64-bit significand. -/
def maxSignificand : Nat := 0xffff_ffff_ffff_ffff

/-- A significand with the count of digits that it could not take in. -/
structure Significand where
  value : Nat
  dropped : Nat
  taken : Nat

/-- Takes in one more digit, as long as every digit so far was taken and the result fits. -/
def Significand.push (s : Significand) (d : Nat) : Significand :=
  if s.dropped = 0 && s.value * 10 + d ≤ maxSignificand then
    { s with value := s.value * 10 + d, taken := s.taken + 1 }
  else { s with dropped := s.dropped + 1 }

/-- The significand of a run of digits. -/
def Significand.ofDigits (value : Nat) (ds : List Nat) : Significand :=
  ds.foldl Significand.push ⟨value, 0, 0⟩

/-- Scales by a power of ten of at most 308, the largest that is a finite number. -/
def scaleOnce (f : Float) (e : Int) : Option Float :=
  if 0 ≤ e then
    let g := f * Float.ofScientific 1 false e.toNat
    if g.isInf then none else some g
  else some (f / Float.ofScientific 1 false (-e).toNat)

/-- Scales by any power of ten, in steps; nothing when the result is not finite. Four steps down
    take every significand to zero. -/
def scaleBy : Nat → Float → Int → Option Float
  | 0, _, _ => some 0
  | steps + 1, f, e =>
    if e.natAbs ≤ 308 then scaleOnce f e
    else if f == 0 then some f
    else if 0 < e then none
    else scaleBy steps (f / 1e308) (e + 308)

/-- The floating point number `significand · 10^e`. -/
def floatOf (negative : Bool) (significand : Nat) (e : Int) : Option Json :=
  (scaleBy 5 significand.toUInt64.toFloat e).map fun f => .float (if negative then -f else f)

/-- An exponent too large for 32 bits: zero stays zero, anything else is out of range upwards and
    zero downwards. -/
def floatFar (negative : Bool) (significand : Nat) (up : Bool) : Option Json :=
  if significand ≠ 0 && up then none else some (.float (if negative then -0.0 else 0.0))

/-- Reads the exponent part after its letter. -/
def readExponent (negative : Bool) (significand : Nat) (e : Int) (cs : List Char) : Option Json :=
  let (up, cs) := match cs with
    | '+' :: r => (true, r)
    | '-' :: r => (false, r)
    | _ => (true, cs)
  match takeDigits cs with
  | ([], _) => none
  | (ds, []) =>
    let n : Nat := ds.foldl (fun acc d => acc * 10 + d) 0
    if 0x8000_0000 ≤ n then floatFar negative significand up
    else floatOf negative significand (if up then e + n else e - n)
  | (_, _ :: _) => none

/-- Reads what may follow the digits of a floating point number. -/
def readTail (negative : Bool) (significand : Nat) (e : Int) : List Char → Option Json
  | [] => floatOf negative significand e
  | c :: r => if c = 'e' ∨ c = 'E' then readExponent negative significand e r else none

/-- Reads what follows the whole part `whole` of a number. -/
def readFraction (negative : Bool) (whole : Significand) : List Char → Option Json
  | '.' :: r =>
    match takeDigits r with
    | ([], _) => none
    | (ds, rest) =>
      let s := Significand.ofDigits whole.value ds
      readTail negative s.value ((whole.dropped : Int) - s.taken) rest
  | rest => readTail negative whole.value whole.dropped rest

/-- Reads an unsigned number after its sign. -/
def readUnsigned (negative : Bool) (cs : List Char) : Option Json :=
  match takeDigits cs with
  | ([], _) => none
  | (0 :: _ :: _, _) => none
  | (ds, rest) =>
    let whole := Significand.ofDigits 0 ds
    if rest.isEmpty && whole.dropped = 0 then
      if !negative then some (.int whole.value)
      else if 0 < whole.value && whole.value ≤ 0x8000_0000_0000_0000 then some (.int (-whole.value))
      else some (.float (-whole.value.toUInt64.toFloat))
    else readFraction negative whole rest

/-- Reads a number. -/
def readNumber? : List Char → Option Json
  | '-' :: r => readUnsigned true r
  | cs => readUnsigned false cs

end StartPage.Json
