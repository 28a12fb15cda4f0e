import StartPage.Text.Basic
import StartPage.Unicode.Direction
import StartPage.Unicode.Joining
import StartPage.Unicode.NameForm
import StartPage.Url.Punycode

/-!
    Domain names in any script, and their form in ASCII. A name is read in its plain lower-case form
    and cut into labels at full stops. A label with characters beyond ASCII is encoded and gets
    `xn--` in front; a label that comes so is decoded and held to the same rules.

        MÜNCHEN.example  ──▶  münchen . example  ──▶  xn--mnchen-3ya.example

    A label must be in composed form, start with no mark, and use the two characters that govern
    joining only where they change how the text looks. In a name with text from right to left every
    label must run in one direction. -/

namespace StartPage.Url.Idna

/-- A label in ASCII and in the script it stands for. -/
structure Label where
  ascii : List Char
  text : List Char

/-! ### Labels by themselves -/

/-- The ASCII characters that may not stand in a domain name. -/
def isForbidden (c : Char) : Bool :=
  c.toNat ≤ 0x20 || c.toNat == 0x7F || "#%/:<>?@[\\]^|".toList.contains c

/-- Joins letters that would stand apart. -/
def joiner : Char := Char.ofNat 0x200D

/-- Keeps letters apart that would join. -/
def nonJoiner : Char := Char.ofNat 0x200C

/-- The text before a place, nearest character first, ends in a sign that takes a vowel away. -/
def endsInVirama : List Char → Bool
  | [] => false
  | c :: _ => Unicode.markClass c == 9

/-- Letters on both sides of a place would join across it; the text before it is given nearest
    character first. -/
def parts (before after : List Char) : Bool :=
  ((before.dropWhile Unicode.isTransparent).head?.any fun c =>
    Unicode.joinsBoth.contains c || Unicode.joinsAfter.contains c) &&
  ((after.dropWhile Unicode.isTransparent).head?.any fun c =>
    Unicode.joinsBoth.contains c || Unicode.joinsBefore.contains c)

/-- Joiners stand only after a virama, and non-joiners there or where they part two letters. -/
def joinersInPlace (before : List Char) : List Char → Bool
  | [] => true
  | c :: r =>
    (if c = joiner then endsInVirama before
     else if c = nonJoiner then endsInVirama before || parts before r
     else true) && joinersInPlace (c :: before) r

/-- A character that reads as itself in a domain name. -/
def isPlain (c : Char) : Bool := Unicode.readInName? c == some [c]

/-- A label that may stand for itself: composed, of plain characters, not starting with a mark, and
    not looking like an encoded one. -/
def isValid (text : List Char) : Bool :=
  Unicode.composed text == text &&
  (Unicode.decomposed text).all isPlain &&
  !(text.head?.any fun c => (Unicode.Category.of c).isMark) &&
  joinersInPlace [] text &&
  (Text.after? "xn--".toList text).isNone

/-- The most characters of a label that are encoded. -/
def maxPlain : Nat := 1000

/-- The most characters of an encoded label that are decoded. -/
def maxEncoded : Nat := 2000

/-- A label with its code. -/
def Label.coded (text : List Char) : Label := ⟨"xn--".toList ++ Punycode.encode text, text⟩

/-- A label with characters beyond ASCII. -/
def encodeLabel? (text : List Char) : Option Label :=
  if text.length ≤ maxPlain && isValid text then some (.coded text) else none

/-- A label given in encoded form. It must stand for one that needs encoding. The code of that label is
    the one given, if that is in lower case. -/
def decodeLabel? (code : List Char) : Option Label := do
  let text ← Punycode.decode? code
  if code.length ≤ maxEncoded && !text.all Punycode.isBasic && isValid text then some (.coded text)
  else none

/-- A label of a name in plain form. -/
def label? (text : List Char) : Option Label :=
  match Text.after? "xn--".toList text with
  | some code => decodeLabel? code
  | none =>
    if !text.all Punycode.isBasic then encodeLabel? text
    else if text.all isPlain then some ⟨text, text⟩
    else none

/-! ### Direction -/

/-- Text from right to left, or with numbers as they are written there. -/
def runsLeft (text : List Char) : Bool :=
  text.any fun c => Unicode.Direction.of c ∈ [.rightToLeft, .arabicNumber]

/-- The directions of a label's characters, last first, without the marks at the end. -/
def endDirections (text : List Char) : List Unicode.Direction :=
  (text.reverse.map Unicode.Direction.of).dropWhile (· == .mark)

/-- A label that runs in one direction: from left to right without characters of the other, or from
    right to left with numbers of one kind. -/
def isOneWay (text : List Char) : Bool :=
  let directions := text.map Unicode.Direction.of
  match directions.head? with
  | none => true
  | some .leftToRight =>
    directions.all (· ∈ [.leftToRight, .europeanNumber, .neutral, .mark]) &&
    (endDirections text).head?.any (· ∈ [.leftToRight, .europeanNumber])
  | some .rightToLeft =>
    directions.all (· ≠ .leftToRight) &&
    (endDirections text).head?.any (· ∈ [.rightToLeft, .europeanNumber, .arabicNumber]) &&
    !(directions.contains .europeanNumber && directions.contains .arabicNumber)
  | some _ => false

/-! ### Names -/

/-- The ASCII form of a domain name. -/
def toAscii? (name : List Char) : Option (List Char) := do
  let labels ← (Text.fields '.' (← Unicode.nameForm? name)).mapM label?
  if labels.any (·.text.any isForbidden) then none
  else if labels.any (runsLeft ·.text) && !labels.all (isOneWay ·.text) then none
  else some (['.'].intercalate (labels.map (·.ascii)))

end StartPage.Url.Idna
