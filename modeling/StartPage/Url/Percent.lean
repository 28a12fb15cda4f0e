import StartPage.Text.Basic

/-!
    Percent-encoding: a byte as `%` and two hexadecimal digits.

    Each part of an address has its own set of ASCII characters that must be encoded; controls and
    everything beyond ASCII always are, byte by byte of their UTF-8 form. -/

namespace StartPage.Url

export Text (hexDigit?)

/-- A hexadecimal digit in upper case. -/
def upperHex (n : Nat) : Char :=
  if n < 10 then Char.ofNat ('0'.toNat + n) else Char.ofNat ('A'.toNat + (n - 10))

/-- An encoded byte. -/
def encodeByte (b : UInt8) : List Char :=
  ['%', upperHex (b.toNat / 16), upperHex (b.toNat % 16)]

/-- The UTF-8 form of a character, encoded. -/
def encodeBytes (c : Char) : List Char := (String.utf8EncodeChar c).flatMap encodeByte

/-- Controls and characters beyond ASCII. -/
def alwaysEncoded (c : Char) : Bool := c.toNat < 0x20 || 0x7E < c.toNat

/-- The characters encoded in a fragment. -/
def inFragment (c : Char) : Bool :=
  alwaysEncoded c || c == ' ' || c == '"' || c == '<' || c == '>' || c == '\x60'

/-- The characters encoded in a path. -/
def inPath (c : Char) : Bool :=
  inFragment c || c == '#' || c == '?' || c == '\x7b' || c == '\x7d'

/-- The characters encoded in a user name or password. -/
def inUser (c : Char) : Bool :=
  inPath c || c == '/' || c == ':' || c == ';' || c == '=' || c == '@' || c == '[' || c == '\\' ||
  c == ']' || c == '^' || c == '|'

/-- The characters encoded in a query. -/
def inQuery (c : Char) : Bool :=
  alwaysEncoded c || c == ' ' || c == '"' || c == '#' || c == '<' || c == '>' || c == '\x27'

/-- Encodes the characters of a set and leaves the others. -/
def encode (set : Char → Bool) (cs : List Char) : List Char :=
  cs.flatMap fun c => if set c then encodeBytes c else [c]

/-- The bytes that a text stands for: encoded bytes are decoded, and a percent sign that no two
    hexadecimal digits follow stands for itself. -/
def decode : List Char → List UInt8
  | '%' :: a :: b :: r =>
    match hexDigit? a, hexDigit? b with
    | some x, some y => (x * 16 + y).toUInt8 :: decode r
    | _, _ => String.utf8EncodeChar '%' ++ decode (a :: b :: r)
  | c :: r => String.utf8EncodeChar c ++ decode r
  | [] => []

/-- The text that bytes are the UTF-8 form of. -/
def ofUtf8? (bytes : List UInt8) : Option (List Char) :=
  (String.fromUTF8? ⟨bytes.toArray⟩).map String.toList

end StartPage.Url
