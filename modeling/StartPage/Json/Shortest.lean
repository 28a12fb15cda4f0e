/-!
    The decimal text of a floating point number: the fewest digits that read back as the same
    number, and of those the nearest to its value.

    A finite number is `m · 2^q`. The reals that round to it form an interval around it whose ends
    lie half way to its neighbours; all bounds are multiples of `2^(q-2)`, so the interval is held
    in exact arithmetic. For one digit, then two, and so on, the two grid points beside the value
    are tried. -/

namespace StartPage.Shortest

/-- A positive number and the reals that round to it, all over the denominator `den`. -/
structure Interval where
  low : Nat
  value : Nat
  high : Nat
  den : Nat
  closed : Bool

/-- The interval of `m · 2^q`; the lower neighbour is nearer where `m` is the least significand of
    its power of two. -/
def Interval.of (m : Nat) (q : Int) (atPower : Bool) : Interval :=
  let scale := 1 <<< (q - 2).toNat
  let den := 1 <<< (2 - q).toNat
  { low := (4 * m - if atPower then 1 else 2) * scale
    value := 4 * m * scale
    high := (4 * m + 2) * scale
    den := den
    closed := m % 2 == 0 }

/-- The number `d · 10^k` rounds to the interval's value. -/
def Interval.holds (i : Interval) (d : Nat) (k : Int) : Bool :=
  let x := d * Nat.pow 10 k.toNat * i.den
  let unit := Nat.pow 10 (-k).toNat
  if i.closed then i.low * unit ≤ x && x ≤ i.high * unit else i.low * unit < x && x < i.high * unit

/-- The grid point nearest to the value among the two beside it, if it rounds to the value; of two
    equally near the even one. -/
def Interval.pick (i : Interval) (k : Int) : Option Nat :=
  let num := i.value * Nat.pow 10 (-k).toNat
  let den := i.den * Nat.pow 10 k.toNat
  let d := num / den
  let r := num % den
  let near := if 2 * r < den || (2 * r == den && d % 2 == 0) then d else d + 1
  let far := if near == d then d + 1 else d
  if i.holds near k then some near else if i.holds far k then some far else none

/-- The least number of digits, from one to seventeen, for which a grid point rounds to the value;
    `e` is the exponent of the value's first digit. -/
def Interval.search (i : Interval) (e : Int) : List Nat → Option (Nat × Int)
  | [] => none
  | n :: rest =>
    let k := e - n + 1
    match i.pick k with
    | some d => some (d, k)
    | none => i.search e rest

/-- The exponent of the first decimal digit of `num / den`, by trying the two candidates that the
    lengths in binary leave. -/
def leadingExponent (num den : Nat) : Int :=
  let guess : Int := (((num.log2 : Int) - (den.log2 : Int)) * 30103).fdiv 100000
  let atLeast (e : Int) : Bool := den * Nat.pow 10 e.toNat ≤ num * Nat.pow 10 (-e).toNat
  if atLeast (guess + 1) then guess + 1 else if atLeast guess then guess else guess - 1

/-- Drops the final zeros of a digit string held as a number, counting them into the exponent. -/
def trimZeros : Nat → Nat → Int → Nat × Int
  | 0, d, k => (d, k)
  | fuel + 1, d, k => if d % 10 == 0 && d != 0 then trimZeros fuel (d / 10) (k + 1) else (d, k)

/-- The digits of a finite positive number given by the fields of its binary form, and the power
    of ten that they count. -/
def digits (bits : UInt64) : Nat × Int :=
  let fraction := (bits &&& 0xFFFFFFFFFFFFF).toNat
  let exponent := ((bits >>> 52) &&& 0x7FF).toNat
  let m := if exponent == 0 then fraction else fraction + 0x10_0000_0000_0000
  let q : Int := if exponent == 0 then -1074 else (exponent : Int) - 1075
  let i := Interval.of m q (fraction == 0 && 1 < exponent)
  match i.search (leadingExponent i.value i.den) ((List.range 17).map (· + 1)) with
  | some (d, k) => trimZeros 20 d k
  | none => (m, q)

/-- An exponent with its sign and at least two digits. -/
def exponentText (e : Int) : String :=
  let ds := toString e.natAbs
  "e" ++ (if e < 0 then "-" else "+") ++ (if ds.length < 2 then "0" else "") ++ ds

/-- Lays out digits: positional from `10⁻⁵` up to below `10¹⁶`, with `.0` kept on whole numbers,
    and with an exponent otherwise. -/
def layOut (d : Nat) (k : Int) : String :=
  let ds := toString d
  let n : Int := ds.length
  let point := n + k
  if 0 ≤ k && point ≤ 16 then
    ds ++ String.ofList (List.replicate k.toNat '0') ++ ".0"
  else if 0 < point && point ≤ 16 then
    String.ofList (ds.toList.take point.toNat) ++ "." ++ String.ofList (ds.toList.drop point.toNat)
  else if -5 < point && point ≤ 0 then
    "0." ++ String.ofList (List.replicate (-point).toNat '0') ++ ds
  else if n == 1 then
    ds ++ exponentText (point - 1)
  else
    String.ofList (ds.toList.take 1) ++ "." ++ String.ofList (ds.toList.drop 1) ++
      exponentText (point - 1)

/-- The text of a finite floating point number. -/
def text (x : Float) : String :=
  let bits := x.toBits
  let sign := if bits >>> 63 == 1 then "-" else ""
  if bits <<< 1 == 0 then sign ++ "0.0"
  else
    let (d, k) := digits bits
    sign ++ layOut d k

end StartPage.Shortest
