import StartPage.Url.Percent

/-!
    Text encoded as it is in the query of an address: letters, digits and a few marks stand for
    themselves, a plus for a space, and every other byte of the UTF-8 form is written in
    hexadecimal.

        cat's (food)/é  ──▶  cat's+(food)%2F%C3%A9 -/

namespace StartPage.Form

/-- The characters that stand for themselves. -/
def isPlain (c : Char) : Bool := c.isAlphanum || "*-._!'()~".toList.contains c

/-- A character encoded. -/
def encodeChar (c : Char) : List Char :=
  if c = ' ' then ['+'] else if isPlain c then [c] else Url.encodeBytes c

/-- A text encoded. -/
def encode (s : String) : String := String.ofList (s.toList.flatMap encodeChar)

/-- The bytes that an encoded text stands for. -/
def decode (s : String) : List UInt8 :=
  Url.decode (s.toList.map fun c => if c = '+' then ' ' else c)

end StartPage.Form
