import StartPage.Fault
import StartPage.Pattern.Matcher
import StartPage.Pattern.Parser

/-!
    Rules that change the words typed for a query before they go into its address.

        /pattern/flags  with a replacement:   / /g  "+"   writes a plus for every space

    The expression is cut at slashes; the second piece is the pattern and the third its flags, and
    what comes later is ignored. Flags: `g` replaces every match and not only the first, `i`, `m`
    and `s` ignore case, let `^` and `$` match at lines, and let the dot match a line feed; `u`,
    `y` and `d` mean nothing. In the replacement a dollar sign brings in parts of the match. -/

namespace StartPage

/-- A rule: an expression `/pattern/flags`, empty for none, and a replacement. -/
structure Rule where
  expression : String
  replacement : String
  deriving DecidableEq, Inhabited

namespace Rule

/-- The rule that leaves every text alone. -/
def none : Rule := ⟨"", ""⟩

/-- The value of an ASCII digit. -/
def digit? (c : Char) : Option Nat :=
  if c.isDigit then some (c.toNat - '0'.toNat) else Option.none

/-- What the group numbered `n` matched, if the pattern has so many groups; a group that took no
    part in the match gives nothing. -/
def groupText? (m : Pattern.Match) (n : Nat) : Option (List Char) :=
  if n = 0 then Option.none else (m.groups[n - 1]?).map (·.getD [])

/-- The group named by two digits. -/
def twoDigits? (m : Pattern.Match) (c d : Char) : Option (List Char) := do
  groupText? m (10 * (← digit? c) + (← digit? d))

/-- The group named by one digit. -/
def oneDigit? (m : Pattern.Match) (c : Char) : Option (List Char) := do
  groupText? m (← digit? c)

/-- Writes a replacement for a match: `$$` is a dollar sign, `$&` the match, a dollar sign with a
    grave accent or an apostrophe the text before or after it, and one or two digits name a group,
    two if that group exists. Any other dollar sign stands for itself. -/
def substitute (m : Pattern.Match) : List Char → List Char
  | '$' :: '$' :: r => '$' :: substitute m r
  | '$' :: '&' :: r => m.text ++ substitute m r
  | '$' :: '\x60' :: r => m.before ++ substitute m r
  | '$' :: '\x27' :: r => m.after ++ substitute m r
  | '$' :: c :: d :: r =>
    match twoDigits? m c d with
    | some g => g ++ substitute m r
    | Option.none =>
      match oneDigit? m c with
      | some g => g ++ substitute m (d :: r)
      | Option.none => '$' :: substitute m (c :: d :: r)
  | '$' :: [c] =>
    match oneDigit? m c with
    | some g => g
    | Option.none => '$' :: substitute m [c]
  | c :: r => c :: substitute m r
  | [] => []

/-- The letters that may stand as flags. -/
def isFlag (c : Char) : Bool := "gimsuyd".toList.contains c

/-- The switches that flags turn on. -/
def switches (flags : List Char) : Pattern.Flags :=
  { ignoreCase := flags.contains 'i'
    multiLine := flags.contains 'm'
    dotAll := flags.contains 's' }

/-- The pattern and the flags of an expression; without a slash there is no pattern. -/
def parts? (expression : String) : Option (List Char × List Char) :=
  match Text.fields '/' expression.toList with
  | _ :: pattern :: flags :: _ => some (pattern, flags)
  | [_, pattern] => some (pattern, [])
  | _ => Option.none

/-- A rule made ready: the program of its pattern, and whether every match is replaced. -/
structure Ready where
  program : Pattern.Program
  all : Bool

/-- Makes the rule with a non-empty expression ready. Flags are looked at before the pattern. -/
def compile [Pattern.Reader] (expression : String) : Except Fault Ready :=
  match parts? expression with
  | Option.none => .error (.noPattern expression)
  | some (pattern, flags) =>
    match flags.find? (!isFlag ·) with
    | some c => .error (.badFlag c expression)
    | Option.none =>
      match Pattern.Reader.read? (switches flags) pattern with
      | Option.none => .error (.badPattern expression)
      | some p => .ok ⟨p.program, flags.contains 'g'⟩

/-- Applies a rule to a text. The empty expression leaves it alone. -/
def apply [Pattern.Reader] (rule : Rule) (input : String) : Except Fault String :=
  if rule.expression.isEmpty then .ok input
  else do
    let ready ← compile rule.expression
    let new := ready.program.replace ready.all (substitute · rule.replacement.toList) input.toList
    .ok (String.ofList new)

end Rule
end StartPage
