/-!
    Labels of domain names in ASCII. The ASCII characters of a label come first, then a hyphen, then
    the other characters in ascending order, each as the number of steps a counter has to run from
    the one before: the counter goes through all places of the label for each code point.

        münchen  ──▶  mnchen-3ya        ü at place 1: digits 3 y a

    Numbers are written in base 36, lowest digit first, with a threshold for each place that tells
    the last digit; thresholds adapt to the size of the numbers before. -/

namespace StartPage.Url.Punycode

/-! ### Digits -/

/-- A digit in base 36: the letters first, then the decimal digits. -/
def digitChar (d : Nat) : Char :=
  if d < 26 then Char.ofNat ('a'.toNat + d) else Char.ofNat ('0'.toNat + (d - 26))

/-- The value of a digit. -/
def digit? (c : Char) : Option Nat :=
  if 'a' ≤ c && c ≤ 'z' then some (c.toNat - 'a'.toNat)
  else if 'A' ≤ c && c ≤ 'Z' then some (c.toNat - 'A'.toNat)
  else if c.isDigit then some (c.toNat - '0'.toNat + 26)
  else none

/-- The threshold of a place, which is 36 times its number. A digit below it is the last. -/
def threshold (place bias : Nat) : Nat := max 1 (min 26 (place - bias))

theorem threshold_pos (place bias : Nat) : 1 ≤ threshold place bias := Nat.le_max_left ..

theorem threshold_le (place bias : Nat) : threshold place bias ≤ 26 := by
  unfold threshold; omega

/-- Divides a number by 35 until it is at most 455; adds 36 to the bias each time. -/
def reduce (n bias : Nat) : Nat × Nat :=
  if 455 < n then reduce (n / 35) (bias + 36) else (n, bias)
termination_by n
decreasing_by omega

/-- The bias after a number: `length` characters are in place, the new one among them. -/
def adapt (n length : Nat) (isFirst : Bool) : Nat :=
  let n := if isFirst then n / 700 else n / 2
  let (n, bias) := reduce (n + n / length) 0
  bias + 36 * n / (n + 38)

/-- Characters that stand for themselves. -/
def isBasic (c : Char) : Bool := c.toNat < 0x80

/-! ### Encoding -/

/-- The digits of a number from a place on. -/
def digits (place bias n : Nat) : List Char :=
  let t := threshold place bias
  if n < t then [digitChar n]
  else digitChar (t + (n - t) % (36 - t)) :: digits (place + 36) bias ((n - t) / (36 - t))
termination_by n
decreasing_by
  have := threshold_pos place bias
  have := Nat.div_le_self (n - threshold place bias) (36 - threshold place bias)
  omega

/-- A label encoded up to some point: the text so far, how many characters are in place, the
    steps since the last number, and the bias. -/
structure Encoder where
  text : List Char
  placed : Nat
  steps : Nat
  bias : Nat

/-- Runs the counter past one place of the label; `basics` characters stood there from the
    start. -/
def Encoder.pass (basics code : Nat) (s : Encoder) (c : Char) : Encoder :=
  if c.toNat < code then { s with steps := s.steps + 1 }
  else if c.toNat = code then
    { text := s.text ++ digits 36 s.bias s.steps
      placed := s.placed + 1
      steps := 0
      bias := adapt s.steps (s.placed + 1) (s.placed == basics) }
  else s

/-- Encodes the characters of the given code points, which ascend from `next` on. -/
def Encoder.run (label : List Char) (basics : Nat) (next : Nat) (s : Encoder) :
    List Nat → Encoder
  | [] => s
  | code :: codes =>
    let s := { s with steps := s.steps + (code - next) * (s.placed + 1) }
    let s := label.foldl (pass basics code) s
    run label basics (code + 1) { s with steps := s.steps + 1 } codes

/-- Puts a number in its place among ascending ones. -/
def insertCode (n : Nat) : List Nat → List Nat
  | [] => [n]
  | m :: r => if n < m then n :: m :: r else if n = m then m :: r else m :: insertCode n r

/-- A label in ASCII. -/
def encode (label : List Char) : List Char :=
  let basic := label.filter isBasic
  let codes := (label.filter (!isBasic ·)).foldr (fun c ns => insertCode c.toNat ns) []
  let start := if basic.isEmpty then [] else basic ++ ['-']
  (Encoder.run label basic.length 0x80 ⟨start, basic.length, 0, 72⟩ codes).text

/-! ### Decoding -/

/-- A label decoded up to some point: the label so far; the code point and place the counter stands
    at; the bias; the number being read, with the weight and place of its next digit. -/
structure Decoder where
  label : List Char
  code : Nat
  index : Nat
  bias : Nat
  number : Nat
  weight : Nat
  place : Nat

/-- Ends a number: runs the counter and puts a character in its place. -/
def Decoder.insert? (s : Decoder) (number : Nat) : Option Decoder :=
  let length := s.label.length + 1
  let code := s.code + (s.index + number) / length
  let index := (s.index + number) % length
  if code.isValidChar then
    some
      { label := s.label.take index ++ Char.ofNat code :: s.label.drop index
        code := code
        index := index + 1
        bias := adapt number length (s.index == 0)
        number := 0
        weight := 1
        place := 36 }
  else none

/-- Reads a digit. -/
def Decoder.push? (s : Decoder) (c : Char) : Option Decoder := do
  let d ← digit? c
  let t := threshold s.place s.bias
  let number := s.number + d * s.weight
  if d < t then s.insert? number
  else some { s with number := number, weight := s.weight * (36 - t), place := s.place + 36 }

/-- The label that was read, if no number is unfinished. -/
def Decoder.finish? (s : Decoder) : Option (List Char) :=
  if s.place = 36 then some s.label else none

/-- The ASCII characters in front of the last hyphen, and the digits after it. A hyphen at the very
    start is no separator. -/
def splitBasic (text : List Char) : List Char × List Char :=
  let digits := text.reverse.takeWhile (· != '-')
  let basic := (text.reverse.dropWhile (· != '-')).drop 1
  if basic.isEmpty then ([], text) else (basic.reverse, digits.reverse)

/-- The label that a text in ASCII stands for. -/
def decode? (text : List Char) : Option (List Char) := do
  let (basic, digits) := splitBasic text
  if basic.all isBasic then
    (← digits.foldlM Decoder.push? ⟨basic, 0x80, 0, 72, 0, 1, 36⟩).finish?
  else none

end StartPage.Url.Punycode
