import StartPage.Form
import StartPage.Rule

/-!
    Addresses with slots for the words typed after a query.

        example.com/?q=${}        every slot takes all words, encoded
        example.com/${1}/${2}     each numbered slot takes one word as it is

    Words go through the query's rule first. A last word `_blank` is no word of the query
    but asks for a new context. -/

namespace StartPage

/-- What words make of a template: a prompt for the input line when there are no words, or an
    address to go to. -/
inductive Expansion where
  | prompt (text : String)
  | target (location : String) (newContext : Bool)
  deriving DecidableEq

namespace Template

/-- The word that asks for a new context. -/
def blankWord : String := "_blank"

/-- Takes the request for a new context off the end of the words. -/
def takeBlank (words : List String) : List String × Bool :=
  if words.getLast? = some blankWord then (words.dropLast, true) else (words, false)

/-- The slot that takes all words. -/
def slot : List Char := ['$', '\x7b', '\x7d']

/-- The slot that takes the word with a number. -/
def numberedSlot (n : Nat) : List Char := ['$', '\x7b'] ++ (toString n).toList ++ ['\x7d']

/-- Fills the first slot of each number with its word, as the rule has it; `n` is the number of the first
    word. -/
def fillNumbered [Pattern.Reader] (rule : Rule) (n : Nat) (content : List Char) :
    List String → Except Fault (List Char)
  | [] => .ok content
  | w :: ws => do
    let new ← rule.apply w
    fillNumbered rule (n + 1) (Text.replaceFirst (numberedSlot n) new.toList content) ws

/-- Fills the slots of a template. One that has the slot numbered 1 takes the words one by one. -/
def fill [Pattern.Reader] (content : String) (rule : Rule) (words : List String) :
    Except Fault String :=
  if Text.occursIn (numberedSlot 1) content.toList then do
    let filled ← fillNumbered rule 1 content.toList words
    .ok (String.ofList filled)
  else do
    let joined ← rule.apply (" ".intercalate words)
    .ok (String.ofList (Text.replaceAll slot (Form.encode joined).toList content.toList))

/-- No words for the query: none at all, an empty one, or a request for a new context first. -/
def isBare (words : List String) : Bool :=
  match words with
  | [] => true
  | w :: _ => w == blankWord || w == ""

/-- Expands the template of the query with the given keyword. -/
def expand [Pattern.Reader] (content keyword : String) (rule : Rule) (words : List String) :
    Except Fault Expansion :=
  if isBare words then .ok (.prompt (keyword ++ ": "))
  else do
    let (words, newContext) := takeBlank words
    .ok (.target (← fill content rule words) newContext)

end Template
end StartPage
