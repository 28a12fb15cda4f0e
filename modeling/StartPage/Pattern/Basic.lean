import StartPage.Unicode.CharSet
import StartPage.Unicode.Property

/-!
    Patterns that texts are matched against.

    A pattern is read as a preference among the ways to match it from a given place: of two
    branches the first is preferred, a greedy loop prefers one more round and a lazy one prefers to
    stop. The match of a pattern is its most preferred way from the leftmost place that has one. -/

namespace StartPage

/-- Which characters count as part of a word. -/
inductive WordRule where | unicode | ascii
  deriving DecidableEq

/-- Conditions on the place between two characters. -/
inductive Anchor where
  | textStart | textEnd
  | lineStart | lineEnd
  | returnStart | returnEnd
  | wordEdge (rule : WordRule) | notWordEdge (rule : WordRule)
  | wordStart (rule : WordRule) | wordEnd (rule : WordRule)
  | noWordBefore (rule : WordRule) | noWordAfter (rule : WordRule)
  deriving DecidableEq

/-- A pattern. Groups are numbered from 1 in the order of their opening. -/
inductive Pattern where
  | empty
  | one (set : CharSet)
  | anchor (a : Anchor)
  | group (index : Nat) (p : Pattern)
  | seq (p q : Pattern)
  | either (p q : Pattern)
  | loop (p : Pattern) (least : Nat) (most : Option Nat) (greedy : Bool)
  deriving DecidableEq

/-- The ASCII characters of words. -/
def asciiWord : CharSet := CharSet.ofText "30-39 41-5A 5F 61-7A"

def WordRule.chars : WordRule → CharSet
  | .unicode => Unicode.wordChars
  | .ascii => asciiWord

/-- The neighbour on one side of a place is a word character. The ASCII characters are those of the
    ASCII rule under either rule, and no table is searched for them. -/
def WordRule.holds (rule : WordRule) : Option Char → Bool
  | none => false
  | some c => if c.toNat < 0x80 then asciiWord.contains c else rule.chars.contains c

/-- The condition holds between these neighbours. -/
def Anchor.holds (before after : Option Char) : Anchor → Bool
  | .textStart => before.isNone
  | .textEnd => after.isNone
  | .lineStart => before.isNone || before == some '\n'
  | .lineEnd => after.isNone || after == some '\n'
  | .returnStart =>
    before.isNone || before == some '\n' || (before == some '\r' && after != some '\n')
  | .returnEnd =>
    after.isNone || after == some '\r' || (after == some '\n' && before != some '\r')
  | .wordEdge rule => rule.holds before != rule.holds after
  | .notWordEdge rule => rule.holds before == rule.holds after
  | .wordStart rule => !rule.holds before && rule.holds after
  | .wordEnd rule => rule.holds before && !rule.holds after
  | .noWordBefore rule => !rule.holds before
  | .noWordAfter rule => !rule.holds after

namespace Pattern

/-- The greatest group number. -/
def groupCount : Pattern → Nat
  | .empty | .one _ | .anchor _ => 0
  | .group i p => max i p.groupCount
  | .seq p q | .either p q => max p.groupCount q.groupCount
  | .loop p _ _ _ => p.groupCount

/-- A loop; one of no rounds matches as the empty pattern does and holds no groups. -/
def loopOf (p : Pattern) (least : Nat) (most : Option Nat) (greedy : Bool) : Pattern :=
  if most == some 0 then .empty else .loop p least most greedy

/-- Patterns one after the other. -/
def sequence : List Pattern → Pattern
  | [] => .empty
  | [p] => p
  | p :: ps => .seq p (sequence ps)

/-- A choice among patterns, the first preferred. -/
def choice : List Pattern → Pattern
  | [] => .empty
  | [p] => p
  | p :: ps => .either p (choice ps)

end Pattern
end StartPage
