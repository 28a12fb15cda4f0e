import StartPage.Json.Basic
import StartPage.Json.Shortest

/-!
    JSON text of values, in two layouts. `pretty` puts every item on a line of its own, indented by
    two spaces a level, with empty containers closed at once; `compact` uses no blanks. Strings are
    written as they are but for the quote, the backslash and the control characters below the
    space. -/

namespace StartPage.Json

/-- A hexadecimal digit in lower case. -/
def hexChar (n : Nat) : Char :=
  if n < 10 then Char.ofNat ('0'.toNat + n) else Char.ofNat ('a'.toNat + (n - 10))

/-- A character inside a string. -/
def escapeChar (c : Char) : List Char :=
  if c = '"' then ['\\', '"']
  else if c = '\\' then ['\\', '\\']
  else if c = '\x08' then ['\\', 'b']
  else if c = '\x0c' then ['\\', 'f']
  else if c = '\n' then ['\\', 'n']
  else if c = '\r' then ['\\', 'r']
  else if c = '\t' then ['\\', 't']
  else if c.toNat < 0x20 then
    ['\\', 'u', '0', '0', hexChar (c.toNat / 16), hexChar (c.toNat % 16)]
  else [c]

/-- A string in quotes. -/
def quote (s : String) : List Char := '"' :: (s.toList.flatMap escapeChar ++ ['"'])

/-- A value that holds no others. -/
def atom : Json → List Char
  | .null => "null".toList
  | .bool true => "true".toList
  | .bool false => "false".toList
  | .int n => (toString n).toList
  | .float x => (Shortest.text x).toList
  | .str s => quote s
  | .arr _ => ['[', ']']
  | .obj _ => ['\x7b', '\x7d']

/-- A new line indented to a level. -/
def newLine (level : Nat) : List Char := '\n' :: List.replicate (2 * level) ' '

mutual

/-- A value on lines of its own, its first line at `level`. -/
def prettyAt (level : Nat) : Json → List Char
  | .arr (v :: vs) =>
    '[' :: (newLine (level + 1) ++ prettyAt (level + 1) v ++ prettyItems (level + 1) vs ++
      newLine level ++ [']'])
  | .obj ((k, v) :: fs) =>
    '\x7b' :: (newLine (level + 1) ++ quote k ++ [':', ' '] ++ prettyAt (level + 1) v ++
      prettyFields (level + 1) fs ++ newLine level ++ ['\x7d'])
  | v => atom v

/-- The items of a list after its first. -/
def prettyItems (level : Nat) : List Json → List Char
  | [] => []
  | v :: vs => ',' :: (newLine level ++ prettyAt level v ++ prettyItems level vs)

/-- The fields of an object after its first. -/
def prettyFields (level : Nat) : List (String × Json) → List Char
  | [] => []
  | (k, v) :: fs =>
    ',' :: (newLine level ++ quote k ++ [':', ' '] ++ prettyAt level v ++ prettyFields level fs)

end

/-- The text of a value on several lines. -/
def pretty (v : Json) : String := String.ofList (prettyAt 0 v)

mutual

/-- A value without blanks. -/
def compactText : Json → List Char
  | .arr (v :: vs) => '[' :: (compactText v ++ compactItems vs ++ [']'])
  | .obj ((k, v) :: fs) => '\x7b' :: (quote k ++ ':' :: compactText v ++ compactFields fs ++ ['\x7d'])
  | v => atom v

/-- The items of a list after its first. -/
def compactItems : List Json → List Char
  | [] => []
  | v :: vs => ',' :: (compactText v ++ compactItems vs)

/-- The fields of an object after its first. -/
def compactFields : List (String × Json) → List Char
  | [] => []
  | (k, v) :: fs => ',' :: (quote k ++ ':' :: compactText v ++ compactFields fs)

end

/-- The text of a value on one line. -/
def compact (v : Json) : String := String.ofList (compactText v)

end StartPage.Json
