import StartPage.Pattern.Bracket
import StartPage.Pattern.Size

/-!
    Patterns from text.

    The groups that are open form a stack; each holds the branches it has already, the pieces of
    the branch being read, and the flags to go back to when it closes. Flags set inside a group
    hold to its end, across its branches. A repetition applies to the piece before it, so a setting
    of flags leaves a mark that cannot be repeated. -/

namespace StartPage.Pattern

/-- A pattern with the depth of its nesting. -/
structure Piece where
  pattern : Pattern
  depth : Nat

/-- The alternatives of a group as far as they are read, back to front. `none` marks a place where
    flags were set. -/
structure Branches where
  done : List Piece
  current : List (Option Piece)

def Branches.none : Branches := ⟨[], []⟩

/-- Adds a piece to the branch being read. -/
def Branches.add (b : Branches) (p : Pattern) (depth : Nat) : Branches :=
  { b with current := some ⟨p, depth⟩ :: b.current }

/-- The greatest depth among pieces. -/
def maxDepthOf (ps : List Piece) : Nat := ps.foldl (fun n p => max n p.depth) 0

/-- One level more when there are several parts. -/
def nest (ps : List Piece) (count : Nat) : Nat := maxDepthOf ps + if 1 < count then 1 else 0

/-- The branch being read as one piece. -/
def Branches.close (b : Branches) : Piece :=
  let ps := (b.current.filterMap id).reverse
  ⟨sequence (ps.map (·.pattern)), nest ps b.current.length⟩

/-- All branches as one piece. -/
def Branches.whole (b : Branches) : Piece :=
  let ps := (b.close :: b.done).reverse
  ⟨choice (ps.map (·.pattern)), nest ps ps.length⟩

/-- A group that is still open: its number if it captures, the flags outside it, and what was read
    outside it. -/
structure OpenGroup where
  index : Option Nat
  flags : Flags
  outside : Branches

/-- A point in the middle of a pattern's text. -/
structure Progress where
  flags : Flags
  groups : Nat
  names : List (List Char)
  open' : List OpenGroup
  here : Branches

/-- The flag a letter stands for, set to a value. -/
def setFlag (f : Flags) (letter : Char) (value : Bool) : Option Flags :=
  match letter with
  | 'i' => some { f with ignoreCase := value }
  | 'm' => some { f with multiLine := value }
  | 's' => some { f with dotAll := value }
  | 'U' => some { f with swapGreed := value }
  | 'u' => some { f with unicode := value }
  | 'R' => some { f with crlf := value }
  | 'x' => some { f with verbose := value }
  | _ => none

/-- Reads flags up to `:` or `)`, which stays at the front of the rest. Each letter may come once,
    and a hyphen once, before the letters to switch off. -/
def readFlags (f : Flags) (seen : List Char) (last : Char) : List Char → Option (Flags × List Char)
  | [] => none
  | c :: r =>
    if c = ':' ∨ c = ')' then if last = '-' then none else some (f, c :: r)
    else if c ∈ seen then none
    else if c = '-' then readFlags f (c :: seen) c r
    else do readFlags (← setFlag f c !(seen.contains '-')) (c :: seen) c r

/-- Whether a character may stand in a group's name, at its start or later. -/
def isNameChar (first : Bool) (c : Char) : Bool :=
  c = '_' || Unicode.alphabetic.contains c ||
  (!first && (c = '.' || c = '[' || c = ']' || Unicode.numeric.contains c))

/-- Reads a group's name up to `>`. -/
def readGroupName (name : List Char) : List Char → Option (List Char × List Char)
  | [] => none
  | c :: r =>
    if c = '>' then if name.isEmpty then none else some (name.reverse, r)
    else if isNameChar name.isEmpty c then readGroupName (c :: name) r
    else none

/-- Opens a group that captures. -/
def Progress.openCapture (p : Progress) (names : List (List Char)) : Progress :=
  { p with
    groups := p.groups + 1
    names := names
    open' := ⟨some (p.groups + 1), p.flags, p.here⟩ :: p.open'
    here := Branches.none }

/-- Opens a group with a name, which no other group may have. -/
def Progress.openNamed (p : Progress) (cs : List Char) : Option (Progress × List Char) := do
  let (name, rest) ← readGroupName [] cs
  if name ∈ p.names then none else some (p.openCapture (name :: p.names), rest)

/-- Reads what follows `(`. Looking ahead or behind is not possible. -/
def Progress.openGroup (p : Progress) (cs : List Char) : Option (Progress × List Char) :=
  match p.flags.skip cs with
  | '?' :: 'P' :: '<' :: r => p.openNamed r
  | '?' :: '<' :: r =>
    match r with
    | '=' :: _ | '!' :: _ => none
    | _ => p.openNamed r
  | '?' :: r =>
    match readFlags p.flags [] ' ' r with
    | some (f, ')' :: rest) =>
      if r.head? = some ')' then none
      else some ({ p with flags := f, here := { p.here with current := none :: p.here.current } },
        rest)
    | some (f, _ :: rest) =>
      some ({ p with
        flags := f
        open' := ⟨none, p.flags, p.here⟩ :: p.open'
        here := Branches.none }, rest)
    | _ => none
  | rest => some (p.openCapture p.names, rest)

/-- Closes the innermost group. -/
def Progress.closeGroup (p : Progress) : Option Progress :=
  match p.open' with
  | [] => none
  | g :: outer =>
    let inner := p.here.whole
    let pattern := match g.index with
      | some i => .group i inner.pattern
      | none => inner.pattern
    some { p with
      flags := g.flags
      open' := outer
      here := g.outside.add pattern (inner.depth + 1) }

/-- Starts the next branch. -/
def Progress.nextBranch (p : Progress) : Progress :=
  { p with here := ⟨p.here.close :: p.here.done, []⟩ }

/-- Adds a piece. -/
def Progress.add (p : Progress) (q : Pattern) (depth : Nat) : Progress :=
  { p with here := p.here.add q depth }

/-- Repeats the last piece. -/
def Progress.repeatLast (p : Progress) (least : Nat) (most : Option Nat) (greedy : Bool) :
    Option Progress :=
  match p.here.current with
  | some q :: r =>
    let loop := loopOf q.pattern least most (greedy != p.flags.swapGreed)
    some { p with here := { p.here with current := some ⟨loop, q.depth + 1⟩ :: r } }
  | _ => none

/-- A question mark after a repetition makes it lazy. -/
def readLazy : List Char → Bool × List Char
  | '?' :: r => (false, r)
  | cs => (true, cs)

/-- Reads a decimal number with blanks around it; an absent one is `none` inside the answer, and
    one beyond 32 bits is malformed. -/
def readCount (f : Flags) (cs : List Char) : Option (Option Nat × List Char) :=
  let rec digits : Nat → Option Nat → List Char → Option Nat × List Char
    | 0, n, cs => (n, cs)
    | _ + 1, n, [] => (n, [])
    | fuel + 1, n, c :: r =>
      if c.isDigit then digits fuel (some (n.getD 0 * 10 + (c.toNat - '0'.toNat))) (f.skip r)
      else (n, c :: r)
  let (n, rest) := digits (cs.length + 1) none (cs.dropWhile Text.isBlank)
  if n.getD 0 < 0x1_0000_0000 then some (n, f.skip (rest.dropWhile Text.isBlank)) else none

/-- Reads a counted repetition after its brace: the least and greatest number of rounds. -/
def readCounts (f : Flags) (cs : List Char) : Option ((Nat × Option Nat) × List Char) := do
  let (first, rest) ← readCount f (f.skip cs)
  match rest with
  | '\x7d' :: r => some ((← first, first), r)
  | ',' :: r =>
    match f.skip r with
    | '\x7d' :: r' => some ((← first, none), r')
    | r' =>
      let least ← first
      let (second, rest) ← readCount f r'
      match rest with
      | '\x7d' :: r'' => if least ≤ (← second) then some ((least, second), r'') else none
      | _ => none
  | _ => none

/-- The pattern of an atom under the flags. -/
def Flags.atom (f : Flags) : Atom → Pattern
  | .char c => .one (f.close (CharSet.single c))
  | .set s => .one s
  | .anchor a => .anchor a

/-- The set that a dot stands for. -/
def Flags.dot (f : Flags) : CharSet :=
  if f.dotAll then CharSet.full
  else if f.crlf then (CharSet.ofCodes [10, 13]).compl
  else (CharSet.single '\n').compl

/-- What `^` stands for. -/
def Flags.caret (f : Flags) : Anchor :=
  if !f.multiLine then .textStart else if f.crlf then .returnStart else .lineStart

/-- What `$` stands for. -/
def Flags.dollar (f : Flags) : Anchor :=
  if !f.multiLine then .textEnd else if f.crlf then .returnEnd else .lineEnd

/-- Reads the next part of a pattern, which starts with `c`. -/
def Progress.step (p : Progress) (c : Char) (r : List Char) : Option (Progress × List Char) :=
  let loop (least : Nat) (most : Option Nat) : Option (Progress × List Char) :=
    let (greedy, rest) := readLazy r
    (p.repeatLast least most greedy).map (·, rest)
  match c with
  | '(' => p.openGroup r
  | ')' => p.closeGroup.map (·, r)
  | '|' => some (p.nextBranch, r)
  | '[' => do
    let (s, rest) ← readBracket p.flags r
    some (p.add (.one s.set) s.depth, rest)
  | '?' => loop 0 (some 1)
  | '*' => loop 0 none
  | '+' => loop 1 none
  | '\x7b' => do
    let ((least, most), rest) ← readCounts p.flags r
    let (greedy, rest) := readLazy (p.flags.skip rest)
    some (← p.repeatLast least most greedy, rest)
  | '\\' => do
    let (a, rest) ← readEscape p.flags r
    some (p.add (p.flags.atom a) 0, rest)
  | '.' => if p.flags.unicode then some (p.add (.one p.flags.dot) 0, r) else none
  | '^' => some (p.add (.anchor p.flags.caret) 0, r)
  | '$' => some (p.add (.anchor p.flags.dollar) 0, r)
  | c => some (p.add (p.flags.atom (.char c)) 0, r)

/-- Reads the rest of a pattern; every step takes at least one character, so the length of the text
    bounds their number. -/
def Progress.run (p : Progress) : Nat → List Char → Option Progress
  | 0, _ => none
  | fuel + 1, cs =>
    match p.flags.skip cs with
    | [] => if p.open'.isEmpty then some p else none
    | c :: r =>
      match p.step c r with
      | none => none
      | some (p', rest) => p'.run fuel rest

/-- The deepest nesting that patterns may have. -/
def maxNesting : Nat := 250

/-- Reads a pattern; nothing when its text is malformed, nested too deeply, or too large as a
    program. -/
def parse? (f : Flags) (text : List Char) : Option Pattern := do
  let p ← Progress.run ⟨f, 0, [], [], Branches.none⟩ (text.length + 1) text
  let whole := p.here.whole
  if maxNesting < whole.depth || whole.pattern.tooLarge then none else some whole.pattern

/-- How the texts of patterns are read: the pattern that a text stands for under the flags, or nothing
    when the text is refused. The language of patterns belongs to a library, which may come to know
    more properties and refuse other sizes; what rules make of a pattern does not depend on that. -/
class Reader where
  read? : Flags → List Char → Option Pattern

/-- The language as it is here. -/
instance : Reader := ⟨parse?⟩

end StartPage.Pattern
