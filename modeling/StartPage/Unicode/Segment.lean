import StartPage.Unicode.Script

/-!
    How characters take part in cutting text into what readers see as one character, into words and
    into sentences, as of Unicode 17. Most values follow from other properties, and only exceptions
    are listed. -/

namespace StartPage.Unicode

/-! ### Characters as readers see them -/

/-- What does not stand apart from the character before. -/
def extending : CharSet := graphemeExtend.union emojiModifiers

/-- The Hangul syllables without a final consonant. -/
def openSyllables : CharSet := CharSet.ofCodes ((List.range 399).map fun i => 0xAC00 + 28 * i)

/-- The characters with a way of joining others into one, by its name in lower case without
    separators. -/
def graphemeBreak? (name : String) : Option CharSet :=
  match name with
  | "cr" => some (CharSet.ofText "D")
  | "lf" => some (CharSet.ofText "A")
  | "cn" | "control" =>
    let invisible := (ofCategory (· ∈ [.zl, .zp, .cc, .cf])).union
      ((ofCategory (· == .cn)).inter defaultIgnorable)
    some (((invisible.diff (CharSet.ofText "A D 200D")).diff prependedMarks).diff extending)
  | "ex" | "extend" => some extending
  | "l" => some (CharSet.ofText "1100-115F A960-A97C")
  | "v" => some (CharSet.ofText "1160-11A7 D7B0-D7C6 16D63 16D67-16D6A")
  | "t" => some (CharSet.ofText "11A8-11FF D7CB-D7FB")
  | "lv" => some openSyllables
  | "lvt" => some ((CharSet.ofText "AC00-D7A3").diff openSyllables)
  | "pp" | "prepend" =>
    some (prependedMarks.union (CharSet.ofText
      "D4E 111C2-111C3 113D1 1193F 11941 11A84-11A89 11D46 11F02"))
  | "ri" | "regionalindicator" => some regionalIndicators
  | "sm" | "spacingmark" =>
    let marks := (ofCategory (· == .mc)).diff extending
    some ((marks.union (CharSet.ofText "E33 EB3")).diff (CharSet.ofText
      "102B-102C 1038 1062-1064 1067-106D 1083 1087-108C 108F 109A-109C 1A61 1A63-1A64 AA7B AA7D
       11720-11721"))
  | "zwj" => some (CharSet.ofText "200D")
  | _ => none

/-! ### Words -/

/-- Marks of any kind, and modifiers of emoji. -/
def wordExtending : CharSet := extending.union (ofCategory (· == .mc))

/-- Format characters that belong to digits, or cut words. -/
def numberMarks : CharSet := CharSet.ofText "600-605 6DD 890-891 8E2 110BD 110CD"

/-- The characters of a script. -/
def ofScript (name : String) : CharSet :=
  ((scripts.find? (·.1.contains name)).map (·.2)).getD CharSet.empty

def katakana : CharSet :=
  (ofScript "kana").union (CharSet.ofText "3031-3035 309B-309C 30A0 30FC FF70")

def hebrewLetters : CharSet := (ofScript "hebr").inter (ofCategory (· == .lo))

/-- Letters of the scripts that are written without blanks between words. -/
def unspacedLetters : CharSet := CharSet.ofText
  "E01-E30 E32-E33 E40-E46 E81-E82 E84 E86-E8A E8C-EA3 EA5 EA7-EB0 EB2-EB3 EBD EC0-EC4 EC6 EDC-EDF
   1000-102A 103F 1050-1055 105A-105D 1061 1065-1066 106E-1070 1075-1081 108E 1780-17B3 17D7 17DC
   1950-196D 1970-1974 1980-19AB 19B0-19C9 1A20-1A54 1AA7 A9E0-A9E4 A9E6-A9EF A9FA-A9FE AA60-AA76
   AA7A AA7E-AAAF AAB1 AAB5-AAB6 AAB9-AABD AAC0 AAC2 AADB-AADD 11700-1171A 11740-11746"

/-- The characters with a part in words, by its name in lower case without separators. -/
def wordBreak? (name : String) : Option CharSet :=
  match name with
  | "cr" => some (CharSet.ofText "D")
  | "lf" => some (CharSet.ofText "A")
  | "nl" | "newline" => some (CharSet.ofText "B-C 85 2028-2029")
  | "dq" | "doublequote" => some (CharSet.ofText "22")
  | "sq" | "singlequote" => some (CharSet.ofText "27")
  | "extend" => some wordExtending
  | "fo" | "format" =>
    some (((ofCategory (· == .cf)).diff (numberMarks.union wordExtending)).diff (CharSet.ofText
      "70F 200B 200D"))
  | "hl" | "hebrewletter" => some hebrewLetters
  | "ka" | "katakana" => some katakana
  | "le" | "aletter" =>
    let others := ((ideographic.union (ofScript "hira")).union (katakana.union hebrewLetters)).union
      (wordExtending.union unspacedLetters)
    some ((alphabetic.diff others).union (CharSet.ofText
      "B8 2C2-2C5 2D2-2D7 2DE-2DF 2E5-2EB 2ED 2EF-2FF 55A-55C 55E 58A 5F3 70F A708-A716 A720-A721
       A789-A78A AB5B"))
  | "mb" | "midnumlet" => some (CharSet.ofText "2E 2018-2019 2024 FE52 FF07 FF0E")
  | "ml" | "midletter" => some (CharSet.ofText "3A B7 387 55F 5F4 2027 FE13 FE55 FF1A")
  | "mn" | "midnum" =>
    some (CharSet.ofText "2C 3B 37E 589 60C-60D 66C 7F8 2044 FE50 FE54 FF0C FF1B")
  | "nu" | "numeric" =>
    some ((decimalDigits.union numberMarks).union (CharSet.ofText "66B 19DA"))
  | "ex" | "extendnumlet" => some ((ofCategory (· == .pc)).union (CharSet.ofText "202F"))
  | "ri" | "regionalindicator" => some regionalIndicators
  | "wsegspace" => some (CharSet.ofText "20 1680 2000-2006 2008-200A 205F 3000")
  | "zwj" => some (CharSet.ofText "200D")
  | _ => none

/-! ### Sentences -/

/-- Marks of any kind, and the joiner. -/
def sentenceExtending : CharSet :=
  (graphemeExtend.union (ofCategory (· == .mc))).union (CharSet.ofText "200D")

/-- The letters of lower case; Georgian ones start no sentence and are left out. -/
def sentenceLower : CharSet :=
  (lowercase.diff sentenceExtending).diff (CharSet.ofText "10D0-10FA 10FD-10FF")

/-- The letters of upper and title case, but for the Georgian ones. -/
def sentenceUpper : CharSet :=
  (uppercase.union (ofCategory (· == .lt))).diff (CharSet.ofText "1C90-1CBA 1CBD-1CBF")

/-- Full stops, which need not end a sentence. -/
def fullStops : CharSet := CharSet.ofText "2E 2024 FE52 FF0E"

/-- The characters with a part in sentences, by its name in lower case without separators. -/
def sentenceBreak? (name : String) : Option CharSet :=
  match name with
  | "cr" => some (CharSet.ofText "D")
  | "lf" => some (CharSet.ofText "A")
  | "se" | "sep" => some (CharSet.ofText "85 2028-2029")
  | "sp" => some (whiteSpace.diff (CharSet.ofText "A D 85 2028-2029"))
  | "ex" | "extend" => some sentenceExtending
  | "fo" | "format" =>
    some ((ofCategory (· == .cf)).diff (numberMarks.union sentenceExtending))
  | "lo" | "lower" => some sentenceLower
  | "up" | "upper" => some sentenceUpper
  | "le" | "oletter" =>
    let others := (sentenceLower.union sentenceUpper).union sentenceExtending
    some ((alphabetic.diff others).union (CharSet.ofText "5F3"))
  | "nu" | "numeric" =>
    some ((decimalDigits.union numberMarks).union (CharSet.ofText "66B-66C 19DA"))
  | "at" | "aterm" => some fullStops
  | "sc" | "scontinue" =>
    some (CharSet.ofText
      "2C-2D 3A-3B 37E 55D 60C-60D 7F8 1802 1808 2013-2014 3001 FE10-FE11 FE13-FE14 FE31-FE32
       FE50-FE51 FE54-FE55 FE58 FE63 FF0C-FF0D FF1A-FF1B FF64")
  | "st" | "sterm" => some (sentenceTerminal.diff fullStops)
  | "cl" | "close" =>
    some ((ofCategory (· ∈ [.ps, .pe, .pi, .pf])).union (CharSet.ofText
      "22 27 275B-2760 2E00-2E01 2E06-2E08 2E0B 1F676-1F678"))
  | _ => none

end StartPage.Unicode
