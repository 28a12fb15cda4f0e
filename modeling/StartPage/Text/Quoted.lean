import StartPage.Unicode.Property

/-!
    Text quoted for a message: between double quotes, with a backslash in front of what would not
    show or would end the quotes.

        say "hi"⏎   ──▶   "say \"hi\"\n" -/

namespace StartPage.Text

/-- Characters that show: not controls, formats, unassigned or private code points, nor blanks
    other than the space. -/
def isVisible (c : Char) : Bool :=
  c == ' ' || Unicode.Category.of c ∉ [.cc, .cf, .cs, .co, .cn, .zl, .zp, .zs]

/-- A number in hexadecimal. -/
def hex (n : Nat) : List Char := Nat.toDigits 16 n

/-- A character inside quotes. Marks that would combine with the character before are written by
    their code. -/
def quoteChar (c : Char) : List Char :=
  if c == '\x00' then ['\\', '0']
  else if c == '\t' then ['\\', 't']
  else if c == '\r' then ['\\', 'r']
  else if c == '\n' then ['\\', 'n']
  else if c == '\\' then ['\\', '\\']
  else if c == '"' then ['\\', '"']
  else if !Unicode.graphemeExtend.contains c && isVisible c then [c]
  else ['\\', 'u', '\x7b'] ++ hex c.toNat ++ ['\x7d']

/-- A text in quotes. -/
def quoted (s : String) : String :=
  String.ofList ('"' :: s.toList.flatMap quoteChar ++ ['"'])

end StartPage.Text
