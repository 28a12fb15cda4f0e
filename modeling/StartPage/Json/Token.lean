import StartPage.Json.Number
import StartPage.Text.Basic

/-!
    The tokens of JSON text. One pass over the characters keeps what it is in the middle of: a
    blank stretch, a word, a number, or a string with its escapes.

        plain ──"──▶ string ──\──▶ escape ──u──▶ hex ──▶ string ──"──▶ plain
                                                 └─ high surrogate ──▶ \ ──▶ u ──▶ hex

    Text inside a string may hold any character from the space upwards; a surrogate written with
    an escape must come as a pair. -/

namespace StartPage.Json

/-- One token. `value` stands for a string, a number, or one of the three words. -/
inductive Token where
  | openList | closeList | openObject | closeObject | comma | colon
  | value (v : Json)

/-- What the pass over the characters is in the middle of. Texts are held back to front. -/
inductive Scan where
  | plain
  | word (cs : List Char)
  | number (cs : List Char)
  | string (cs : List Char)
  | escape (cs : List Char)
  | hex (cs : List Char) (high : Option Nat) (left : Nat) (value : Nat)
  | highDone (cs : List Char) (high : Nat)
  | highEscape (cs : List Char) (high : Nat)

/-- The three words. -/
def ofWord? (cs : List Char) : Option Json :=
  if cs = ['n', 'u', 'l', 'l'] then some .null
  else if cs = ['t', 'r', 'u', 'e'] then some (.bool true)
  else if cs = ['f', 'a', 'l', 's', 'e'] then some (.bool false)
  else none

/-- The characters that numbers are written with. -/
def isNumberChar (c : Char) : Bool :=
  c.isDigit || c == '-' || c == '+' || c == '.' || c == 'e' || c == 'E'

/-- The character that a one-letter escape stands for. -/
def unescape? (c : Char) : Option Char :=
  match c with
  | '"' => some '"'
  | '\\' => some '\\'
  | '/' => some '/'
  | 'b' => some '\x08'
  | 'f' => some '\x0c'
  | 'n' => some '\n'
  | 'r' => some '\r'
  | 't' => some '\t'
  | _ => none

/-- Ends a word or number at a character that cannot belong to it. -/
def Scan.finish : Scan → Option (List Token)
  | .plain => some []
  | .word cs => (ofWord? cs.reverse).map ([.value ·])
  | .number cs => (readNumber? cs.reverse).map ([.value ·])
  | _ => none

/-- Starts on a character between tokens; `done` are the tokens that end just before it. -/
def startToken (done : List Token) (c : Char) : Option (List Token × Scan) :=
  if c = '"' then some (done, .string [])
  else if c = ',' then some (done ++ [.comma], .plain)
  else if c = ':' then some (done ++ [.colon], .plain)
  else if c = '[' then some (done ++ [.openList], .plain)
  else if c = ']' then some (done ++ [.closeList], .plain)
  else if c = '\x7b' then some (done ++ [.openObject], .plain)
  else if c = '\x7d' then some (done ++ [.closeObject], .plain)
  else if c = ' ' ∨ c = '\n' ∨ c = '\t' ∨ c = '\r' then some (done, .plain)
  else if c = '-' ∨ c.isDigit then some (done, .number [c])
  else if c.isLower then some (done, .word [c])
  else none

/-- Ends a four-digit escape whose value is `n`. -/
def endHex (cs : List Char) (high : Option Nat) (n : Nat) : Option Scan :=
  match high with
  | some h =>
    if 0xDC00 ≤ n ∧ n < 0xE000 then
      some (.string (Char.ofNat (0x10000 + (h - 0xD800) * 0x400 + (n - 0xDC00)) :: cs))
    else none
  | none =>
    if 0xD800 ≤ n ∧ n < 0xDC00 then some (.highDone cs n)
    else if 0xDC00 ≤ n ∧ n < 0xE000 then none
    else some (.string (Char.ofNat n :: cs))

/-- Takes in one character. -/
def Scan.step (s : Scan) (c : Char) : Option (List Token × Scan) :=
  match s with
  | .plain => startToken [] c
  | .word cs =>
    if c.isLower then some ([], .word (c :: cs))
    else do startToken (← s.finish) c
  | .number cs =>
    if isNumberChar c then some ([], .number (c :: cs))
    else do startToken (← s.finish) c
  | .string cs =>
    if c = '"' then some ([.value (.str (String.ofList cs.reverse))], .plain)
    else if c = '\\' then some ([], .escape cs)
    else if c.toNat < 0x20 then none
    else some ([], .string (c :: cs))
  | .escape cs =>
    if c = 'u' then some ([], .hex cs none 4 0)
    else (unescape? c).map fun d => ([], .string (d :: cs))
  | .hex cs high left value =>
    match Text.hexDigit? c with
    | none => none
    | some d =>
      if left ≤ 1 then (endHex cs high (value * 16 + d)).map ([], ·)
      else some ([], .hex cs high (left - 1) (value * 16 + d))
  | .highDone cs high => if c = '\\' then some ([], .highEscape cs high) else none
  | .highEscape cs high => if c = 'u' then some ([], .hex cs (some high) 4 0) else none

/-- Reads the rest of a text from the state `s`; `done` are the tokens so far, back to front.
    Nothing when the text is not made of tokens. -/
def scanInto (done : List Token) (s : Scan) : List Char → Option (List Token)
  | [] => s.finish.map fun ts => done.reverse ++ ts
  | c :: r =>
    match s.step c with
    | none => none
    | some (ts, s') => scanInto (ts.reverse ++ done) s' r

/-- The tokens of a text. -/
def scan (cs : List Char) : Option (List Token) := scanInto [] .plain cs

end StartPage.Json
