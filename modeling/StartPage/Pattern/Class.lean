import StartPage.Pattern.Basic
import StartPage.Unicode.Age
import StartPage.Unicode.Case
import StartPage.Unicode.ScriptExtension
import StartPage.Unicode.Segment

/-!
    The named character classes of patterns: `\d`, `\s` and `\w`, classes such as `[:alpha:]` in
    brackets, and Unicode properties, whose names are compared without regard to case, blanks,
    hyphens, underscores and a leading `is`. -/

namespace StartPage.Pattern

/-- The ASCII classes that brackets may name. -/
def asciiClass? (name : List Char) : Option CharSet :=
  let known : List (String × String) :=
    [("alnum", "30-39 41-5A 61-7A"), ("alpha", "41-5A 61-7A"), ("ascii", "0-7F"),
     ("blank", "9 20"), ("cntrl", "0-1F 7F"), ("digit", "30-39"), ("graph", "21-7E"),
     ("lower", "61-7A"), ("print", "20-7E"), ("punct", "21-2F 3A-40 5B-60 7B-7E"),
     ("space", "9-D 20"), ("upper", "41-5A"), ("word", "30-39 41-5A 5F 61-7A"),
     ("xdigit", "30-39 41-46 61-66")]
  (known.find? (·.1.toList == name)).map fun (_, codes) => CharSet.ofText codes

/-- The classes `\d`, `\s` and `\w`, over Unicode or over ASCII alone. -/
def letterClass (unicode : Bool) : Char → CharSet
  | 'd' => if unicode then Unicode.decimalDigits else CharSet.ofText "30-39"
  | 's' => if unicode then Unicode.whiteSpace else CharSet.ofText "9-D 20"
  | _ => if unicode then Unicode.wordChars else asciiWord

/-- A property name as it is compared. -/
def plainName (name : List Char) : List Char :=
  let startsIs := match name with
    | a :: b :: _ => (a == 'i' || a == 'I') && (b == 's' || b == 'S')
    | _ => false
  let rest := if startsIs then name.drop 2 else name
  let kept := (rest.filter fun c => c != ' ' && c != '_' && c != '-' && c.toNat < 0x80).map
    Char.toLower
  if startsIs && kept == ['c'] then ['i', 's', 'c'] else kept

/-- A general category, or a group of them, by short or long name. -/
def categories? (name : String) : Option (Unicode.Category → Bool) :=
  match name with
  | "any" => some fun _ => true
  | "assigned" => some (· != .cn)
  | "c" | "other" => some (· ∈ [.cc, .cf, .cn, .co, .cs])
  | "cc" | "control" | "cntrl" => some (· == .cc)
  | "cf" | "format" => some (· == .cf)
  | "cn" | "unassigned" => some (· == .cn)
  | "co" | "privateuse" => some (· == .co)
  | "l" | "letter" => some (·.isLetter)
  | "lc" | "casedletter" => some (· ∈ [.lu, .ll, .lt])
  | "ll" | "lowercaseletter" => some (· == .ll)
  | "lm" | "modifierletter" => some (· == .lm)
  | "lo" | "otherletter" => some (· == .lo)
  | "lt" | "titlecaseletter" => some (· == .lt)
  | "lu" | "uppercaseletter" => some (· == .lu)
  | "m" | "mark" | "combiningmark" => some (·.isMark)
  | "mc" | "spacingmark" => some (· == .mc)
  | "me" | "enclosingmark" => some (· == .me)
  | "mn" | "nonspacingmark" => some (· == .mn)
  | "n" | "number" => some (· ∈ [.nd, .nl, .no])
  | "nd" | "decimalnumber" | "digit" => some (· == .nd)
  | "nl" | "letternumber" => some (· == .nl)
  | "no" | "othernumber" => some (· == .no)
  | "p" | "punctuation" | "punct" => some (· ∈ [.pc, .pd, .ps, .pe, .pi, .pf, .po])
  | "pc" | "connectorpunctuation" => some (· == .pc)
  | "pd" | "dashpunctuation" => some (· == .pd)
  | "pe" | "closepunctuation" => some (· == .pe)
  | "pf" | "finalpunctuation" => some (· == .pf)
  | "pi" | "initialpunctuation" => some (· == .pi)
  | "po" | "otherpunctuation" => some (· == .po)
  | "ps" | "openpunctuation" => some (· == .ps)
  | "s" | "symbol" => some (· ∈ [.sm, .sc, .sk, .so])
  | "sc" | "currencysymbol" => some (· == .sc)
  | "sk" | "modifiersymbol" => some (· == .sk)
  | "sm" | "mathsymbol" => some (· == .sm)
  | "so" | "othersymbol" => some (· == .so)
  | "z" | "separator" => some (· ∈ [.zs, .zl, .zp])
  | "zl" | "lineseparator" => some (· == .zl)
  | "zp" | "paragraphseparator" => some (· == .zp)
  | "zs" | "spaceseparator" => some (· == .zs)
  | _ => none

/-- A set by general category. -/
def categorySet? (name : String) : Option CharSet :=
  if name == "ascii" then some (CharSet.ofText "0-7F")
  else (categories? name).map Unicode.ofCategory

/-- A set by script. -/
def scriptSet? (name : String) : Option CharSet :=
  (Unicode.scripts.find? (·.1.contains name)).map (·.2)

/-- The set that `\p` names: a property, a general category, or a script, tried in this order. -/
def property? (name : List Char) : Option CharSet :=
  let name := String.ofList (plainName name)
  let flag := if name ∈ ["cf", "sc", "lc"] then none
    else ((Unicode.properties ++ Unicode.caseProperties).find? (·.1.contains name)).map (·.2)
  flag <|> categorySet? name <|> scriptSet? name

/-- The set that `\p` names by a property and its value. -/
def propertyValue? (name value : List Char) : Option CharSet :=
  let value := String.ofList (plainName value)
  match String.ofList (plainName name) with
  | "gc" | "generalcategory" => categorySet? value
  | "sc" | "script" => scriptSet? value
  | "scx" | "scriptextensions" => Unicode.usedWith? value
  | "age" => Unicode.assignedBy? value
  | "gcb" | "graphemeclusterbreak" => Unicode.graphemeBreak? value
  | "wb" | "wordbreak" => Unicode.wordBreak? value
  | "sb" | "sentencebreak" => Unicode.sentenceBreak? value
  | _ => none

end StartPage.Pattern
