import StartPage.Unicode.Property

/-!
    The direction in which characters are written, as of Unicode 17, in the classes that matter for
    a line of letters and digits. Letters of the blocks for Hebrew, Arabic and their relatives run
    from right to left, other letters from left to right. -/

namespace StartPage.Unicode

/-- The direction classes. A neutral character takes the direction around it, and a mark that of
    the character before it. -/
inductive Direction where
  | leftToRight | rightToLeft | europeanNumber | arabicNumber | neutral | mark
  deriving DecidableEq

/-- Digits that run from left to right everywhere. -/
def europeanNumbers : CharSet := CharSet.ofText
  "30-39 6F0-6F9 102E1-102FB"

/-- Digits that run from left to right within text from right to left. -/
def arabicNumbers : CharSet := CharSet.ofText
  "660-669 66B-66C 10D30-10D39 10E60-10E7E"

/-- Signs without a direction of their own. -/
def neutrals : CharSet := CharSet.ofText
  "21-2F 3A-60 7B-D7 F7 2B9-2BA 2C2-2CF 2D2-2ED 2EF-2FF 375 3F6 58A-58F 606-607 609-60A 60C
   60E-60F 66A 6DE 6E9 7F6-7F9 9F2-9F3 9FB AF1 BF3-BFA C78-C7E E3F F3A-F3D 1390-1399 1400
   169B-169C 17DB 17F0-180A 1940-1945 19DE-19FF 200C-20C1 2104-214D 218A-2335 237B-2394
   2396-2426 2440-26AB 26AD-27FF 2900-2B95 2B97-2BFF 2CE5-2CEA 2CF9-2CFF 2E00-3004 3008-3020
   3030 3037 303D-303F 30A0 30FB 31C0-31E3 4DC0-4DFF A490-A4C6 A60D-A60F A673 A67E-A67F
   A700-A721 A788 A828-A82B A838-A839 A874-A877 AB6A-AB6B FD3E-FD4F FDCF-FDFF FE45-FE46 10101
   10140-1018C 10190-101A0 1091F 10B39-10B3F 11052-11065 11660-1166C 11FD5-11FF1 16FE2
   1D1E9-1D241 1D245 1D300-1D356 1E2FF 1EEF0-1F12F 1F16D-1F16F 1F1AD 1F260-1F6D7 1F6DC-1F776
   1F77B-1F8B1 1F900-1FA53 1FA60-1FA88 1FA90-1FABD 1FABF-1FAC5 1FACE-1FADB 1FAE0-1FAE8
   1FAF0-1FBCA"

/-- The blocks for scripts from right to left. -/
def rightToLeftBlocks : CharSet :=
  CharSet.ofText "590-8FF FB1D-FDFF FE70-FEFF 10800-10FFF 1E800-1EFFF"

/-- Marks that count as letters. -/
def spacedMarks : CharSet := CharSet.ofText "CBF CC6 11A07-11A08 11C3F"

/-- The direction of a character. -/
def Direction.of (c : Char) : Direction :=
  if Category.of c ∈ [.mn, .me] && !spacedMarks.contains c then .mark
  else if arabicNumbers.contains c then .arabicNumber
  else if europeanNumbers.contains c then .europeanNumber
  else if neutrals.contains c then .neutral
  else if rightToLeftBlocks.contains c then .rightToLeft
  else .leftToRight

end StartPage.Unicode
