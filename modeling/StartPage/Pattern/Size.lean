import StartPage.Pattern.Basic

/-!
    How much room a pattern takes up when it is made ready to match the bytes of UTF-8 text, reckoned
    as bytes: so many for each state of a machine, a few more for each way out of one. A set takes a
    tree of states, as many levels deep as its characters have bytes, and counted loops are written
    out. A pattern that takes too much is refused.

        é{100}                       two states each time                6 432
        \w written out 300 times     over fifty thousand each time       refused   -/

namespace StartPage

namespace CharSet

/-- Exactly one code point. -/
def isSingle (s : CharSet) : Bool :=
  match s.ranges with
  | [(a, b)] => a == b
  | _ => false

theorem isSingle_single (c : Char) : (single c).isSingle = true := beq_self_eq_true c.toNat

end CharSet

namespace Pattern

/-- The bytes that one state takes up. -/
def stateSize : Nat := 32

/-! ### Sets -/

/-- The code points that UTF-8 writes in the same number of bytes, as blocks: the first and the last of
    a block, the number of bytes after the leading one, and the mark that the leading byte carries. -/
def utf8Blocks : List (Nat × Nat × Nat × Nat) :=
  [(0, 0x7F, 0, 0), (0x80, 0x7FF, 1, 0xC0), (0x800, 0xD7FF, 2, 0xE0), (0xE000, 0xFFFF, 2, 0xE0),
   (0x1_0000, 0x10_FFFF, 3, 0xF0)]

/-- How many numbers can be written with so many digits to base 64. -/
def digitSpan : Nat → Nat
  | 0 => 1
  | n + 1 => 64 * digitSpan n

/-- The numbers from `a` to `b`, cut so that each piece takes every combination of digits from its own
    ranges. There are `n` digits to base 64 after the leading one. -/
def digitRanges : Nat → Nat → Nat → List (List (Nat × Nat))
  | 0, a, b => [[(a, b)]]
  | n + 1, a, b =>
    let unit := digitSpan (n + 1)
    let under (digit : Nat) (pieces : List (List (Nat × Nat))) := pieces.map ((digit, digit) :: ·)
    let first := a / unit
    let last := b / unit
    if first = last then under first (digitRanges n (a % unit) (b % unit))
    else
      let opening := if a % unit = 0 then [] else under first (digitRanges n (a % unit) (unit - 1))
      let closing := if (b + 1) % unit = 0 then [] else under last (digitRanges n 0 (b % unit))
      -- Digits whose whole blocks lie between the two ends make one piece.
      let inner := (if opening.isEmpty then first else first + 1,
        if closing.isEmpty then last else last - 1)
      opening ++ (if inner.1 ≤ inner.2 then [inner :: List.replicate (n + 1) (0, 63)] else []) ++
        closing

/-- The ranges of bytes that the members of a set are written with. -/
def byteRanges (s : CharSet) : List (List (Nat × Nat)) :=
  s.ranges.flatMap fun (a, b) =>
    utf8Blocks.flatMap fun (first, last, more, mark) =>
      if max a first ≤ min b last then
        digitRanges more (mark * digitSpan more + max a first) (mark * digitSpan more + min b last)
      else []

/-- What a piece does not share with the beginning of the one before. -/
def unshared {α : Type} [DecidableEq α] : List α → List α → List α
  | x :: xs, y :: ys => if x = y then unshared xs ys else y :: ys
  | _, ys => ys

/-- The bytes that a tree of byte ranges takes up: a state for each node and a way in for each leaf. -/
def treeSize (pieces : List (List (Nat × Nat))) : Nat :=
  let rec add (before : List (Nat × Nat)) : List (List (Nat × Nat)) → Nat
    | [] => 0
    | piece :: rest => stateSize * (unshared before piece).length + 4 + add piece rest
  add [] pieces

/-- The bytes that a set takes up. One character is a chain of states; ASCII characters alone share one
    state. -/
def setSize (s : CharSet) : Nat :=
  if s.isSingle then stateSize * (byteRanges s).flatten.length
  else if s.ranges.all (·.2 < 0x80) then 2 * stateSize + 8 * s.ranges.length
  else 2 * stateSize + treeSize (byteRanges s)

/-! ### Patterns -/

/-- The bytes that a pattern takes up. A loop has all the rounds that it must and may make, and a fork
    for each that it may leave out. -/
def size : Pattern → Nat
  | .empty => stateSize
  | .one s => setSize s
  | .anchor _ => stateSize
  | .group _ p => p.size + 2 * stateSize
  | .seq p q => p.size + q.size
  | .either p q => p.size + q.size + stateSize + 8
  | .loop p least none _ => p.size * max 1 least + stateSize + 8
  | .loop p least (some most) _ =>
    p.size * least + (p.size + stateSize + 8) * (most - least) + stateSize

/-- The most bytes that a pattern may take up. -/
def maxSize : Nat := 10 * 0x10_0000

/-- Nothing but characters one after the other. -/
def isPlainText : Pattern → Bool
  | .empty => true
  | .one s => s.isSingle
  | .seq p q => p.isPlainText && q.isPlainText
  | _ => false

/-- The pattern takes up too much. Plain text does not, however long: it is looked for as it is. -/
def tooLarge (p : Pattern) : Bool := !p.isPlainText && maxSize < p.size

end Pattern
end StartPage
