import StartPage.Text.Basic

/-!
    White space as Unicode defines it: twenty-five code points, of which six are ASCII. Lines of
    input are cut into words at these, and a text of nothing else counts as empty. -/

namespace StartPage.Text

/-- The characters with the property White_Space. -/
def isBlank (c : Char) : Bool :=
  let n := c.toNat
  (9 ≤ n && n ≤ 13) || n == 0x20 || n == 0x85 || n == 0xA0 || n == 0x1680 ||
  (0x2000 ≤ n && n ≤ 0x200A) || n == 0x2028 || n == 0x2029 || n == 0x202F || n == 0x205F ||
  n == 0x3000

/-- The words of a text: its longest runs without a blank. -/
def words (cs : List Char) : List (List Char) := (splitBy isBlank cs).filter (!·.isEmpty)

/-- Nothing but blanks. -/
def isAllBlank (cs : List Char) : Bool := cs.all isBlank

end StartPage.Text
