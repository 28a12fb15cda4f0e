import StartPage.Pattern.Class
import StartPage.Text.Blank

/-!
    The parts of pattern text that depend only on the flags in force: blanks and comments, escape
    sequences, and bracketed sets. Every reader takes the text that is left and gives back what it
    read with the rest, or nothing when the text is malformed. -/

namespace StartPage.Pattern

/-- The switches that pattern text is read under. -/
structure Flags where
  ignoreCase : Bool := false
  multiLine : Bool := false
  dotAll : Bool := false
  swapGreed : Bool := false
  unicode : Bool := true
  crlf : Bool := false
  verbose : Bool := false
  deriving DecidableEq

/-- Drops a comment up to the end of its line. -/
def dropComment : List Char → List Char
  | [] => []
  | c :: r => if c = '\n' then r else dropComment r

theorem length_dropComment : ∀ cs, (dropComment cs).length ≤ cs.length
  | [] => Nat.le_refl _
  | c :: r => by
    unfold dropComment
    split
    · simp
    · exact Nat.le_succ_of_le (length_dropComment r)

/-- Drops blanks and comments. -/
def dropSpace (cs : List Char) : List Char :=
  match cs with
  | [] => []
  | c :: r =>
    if Text.isBlank c then dropSpace r
    else if c = '#' then dropSpace (dropComment r)
    else c :: r
termination_by cs.length
decreasing_by
  · simp
  · have := length_dropComment r
    simp only [List.length_cons]
    omega

/-- Drops what verbose patterns pass over. -/
def Flags.skip (f : Flags) (cs : List Char) : List Char := if f.verbose then dropSpace cs else cs

/-- The rule for word characters under the flags. -/
def Flags.wordRule (f : Flags) : WordRule := if f.unicode then .unicode else .ascii

/-- Adds the characters that differ from a member only in case, if case is ignored. -/
def Flags.close (f : Flags) (s : CharSet) : CharSet :=
  if !f.ignoreCase then s
  else if f.unicode then s.closeCase
  else
    let lower := s.inter (CharSet.range 'a' 'z')
    let upper := s.inter (CharSet.range 'A' 'Z')
    (s.union ⟨lower.ranges.map fun (a, b) => (a - 32, b - 32)⟩).union
      ⟨upper.ranges.map fun (a, b) => (a + 32, b + 32)⟩

/-- Completes a set: case first, then negation, which only Unicode patterns have. -/
def Flags.complete (f : Flags) (negated : Bool) (s : CharSet) : Option CharSet :=
  if !negated then some (f.close s)
  else if f.unicode then some (f.close s).compl
  else none

/-- What an escape or a plain character stands for. -/
inductive Atom where
  | char (c : Char)
  | set (s : CharSet)
  | anchor (a : Anchor)

/-- The characters that mean something in patterns. -/
def isMeta (c : Char) : Bool := "\\.+*?()|[]\x7b\x7d^$#&-~".toList.contains c

/-- The characters that a backslash makes plain: every ASCII character but letters, digits and the
    angle brackets. -/
def isEscapable (c : Char) : Bool :=
  isMeta c || (c.toNat < 0x80 && !c.isAlphanum && c != '<' && c != '>')

/-- The character with a code, if the code is a character's. -/
def charOfCode? (n : Nat) : Option Char := if n.isValidChar then some (Char.ofNat n) else none

/-- Reads a set number of hexadecimal digits. -/
def readHexDigits (f : Flags) : Nat → Nat → List Char → Option (Nat × List Char)
  | 0, n, cs => some (n, cs)
  | _ + 1, _, [] => none
  | left + 1, n, c :: r => do readHexDigits f left (n * 16 + (← Text.hexDigit? c)) (f.skip r)

/-- Reads hexadecimal digits up to a closing brace. -/
def readHexBraces (f : Flags) : Nat → Option Nat → List Char → Option (Nat × List Char)
  | 0, _, _ => none
  | _ + 1, _, [] => none
  | fuel + 1, n, c :: r =>
    if c = '\x7d' then n.map (·, f.skip r)
    else do readHexBraces f fuel (some (n.getD 0 * 16 + (← Text.hexDigit? c))) (f.skip r)

/-- Two digits name a byte, which outside Unicode must be ASCII. -/
def Flags.allowsByte (f : Flags) (digits n : Nat) : Bool := f.unicode || digits != 2 || n < 0x80

/-- Reads a hexadecimal escape after its letter. -/
def readHex (f : Flags) (digits : Nat) (cs : List Char) : Option (Atom × List Char) :=
  match f.skip cs with
  | [] => none
  | c :: r => do
    if c = '\x7b' then
      let (n, rest) ← readHexBraces f (r.length + 1) none (f.skip r)
      some (.char (← charOfCode? n), rest)
    else
      let (n, rest) ← readHexDigits f digits 0 (c :: r)
      if f.allowsByte digits n then some (.char (← charOfCode? n), rest) else none

/-- Reads a property name up to a closing brace. -/
def readNameBraces (f : Flags) : Nat → List Char → List Char → Option (List Char × List Char)
  | 0, _, _ => none
  | _ + 1, _, [] => none
  | fuel + 1, name, c :: r =>
    if c = '\x7d' then some (name.reverse, r)
    else readNameBraces f fuel (c :: name) (f.skip r)

/-- The set that the text in the braces of `\p` names: a name, or a name and a value. -/
def bracedProperty? (text : List Char) : Option CharSet :=
  let unequal := fun (a, b) => propertyValue? a b
  match cutNe text with
  | some (a, b) => unequal (a, b)
  | none =>
    match Text.cutAt? ':' text with
    | some p => unequal p
    | none =>
      match Text.cutAt? '=' text with
      | some p => unequal p
      | none => property? text
where
  /-- Cuts at the first `!=`. -/
  cutNe : List Char → Option (List Char × List Char)
    | '!' :: '=' :: r => some ([], r)
    | c :: r => (cutNe r).map fun (a, b) => (c :: a, b)
    | [] => none

/-- Reads a Unicode property after `\p` or `\P`. -/
def readProperty (f : Flags) (negated : Bool) (cs : List Char) : Option (Atom × List Char) :=
  match f.skip cs with
  | [] => none
  | '\\' :: _ => none
  | c :: r => do
    let (set, rest) ←
      if c = '\x7b' then do
        let (name, rest) ← readNameBraces f (r.length + 1) [] (f.skip r)
        some (← bracedProperty? name, rest)
      else some (← property? [c], f.skip r)
    if f.unicode then some (.set (← f.complete negated set), rest) else none

/-- Reads the letters of a special word condition up to a closing brace. -/
def readWordName (f : Flags) : Nat → List Char → List Char → Option (List Char × List Char)
  | 0, _, _ => none
  | _ + 1, _, [] => none
  | fuel + 1, name, c :: r =>
    if c = '\x7d' then some (name.reverse, r)
    else if c.isAlpha || c = '-' then readWordName f fuel (c :: name) (f.skip r)
    else none

/-- Reads what follows `\b`: a brace that opens a letter or hyphen names a special condition, any
    other text is left alone. -/
def readWordEdge (f : Flags) (cs : List Char) : Option (Atom × List Char) :=
  match cs with
  | '\x7b' :: r =>
    match f.skip r with
    | [] => none
    | c :: r' =>
      if c.isAlpha || c = '-' then do
        let (name, rest) ← readWordName f (r'.length + 2) [] (c :: r')
        let edge ← match String.ofList name with
          | "start" => some (Anchor.wordStart f.wordRule)
          | "end" => some (Anchor.wordEnd f.wordRule)
          | "start-half" => some (Anchor.noWordBefore f.wordRule)
          | "end-half" => some (Anchor.noWordAfter f.wordRule)
          | _ => none
        some (.anchor edge, rest)
      else some (.anchor (.wordEdge f.wordRule), cs)
  | _ => some (.anchor (.wordEdge f.wordRule), cs)

/-- Reads an escape after its backslash. -/
def readEscape (f : Flags) : List Char → Option (Atom × List Char)
  | [] => none
  | c :: r =>
    match c with
    | 'x' => readHex f 2 r
    | 'u' => readHex f 4 r
    | 'U' => readHex f 8 r
    | 'p' => readProperty f false r
    | 'P' => readProperty f true r
    | 'd' | 's' | 'w' => some (.set (letterClass f.unicode c), r)
    | 'D' | 'S' | 'W' =>
      if f.unicode then some (.set (letterClass true c.toLower).compl, r) else none
    | 'a' => some (.char '\x07', r)
    | 'f' => some (.char '\x0c', r)
    | 't' => some (.char '\t', r)
    | 'n' => some (.char '\n', r)
    | 'r' => some (.char '\r', r)
    | 'v' => some (.char '\x0b', r)
    | 'A' => some (.anchor .textStart, r)
    | 'z' => some (.anchor .textEnd, r)
    | 'b' => readWordEdge f r
    | 'B' => some (.anchor (.notWordEdge f.wordRule), r)
    | '<' => some (.anchor (.wordStart f.wordRule), r)
    | '>' => some (.anchor (.wordEnd f.wordRule), r)
    | _ => if isEscapable c then some (.char c, r) else none

end StartPage.Pattern
