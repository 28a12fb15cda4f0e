import StartPage.Pattern.Escape

/-!
    Bracketed sets such as `[a-z&&[^aeiou]]`.

    Inside brackets, items stand side by side as a union; `&&`, `--` and `~~` combine all that
    stands to the left with the items to the right, from left to right. Brackets nest, and those
    that are open form a stack. The depth of the nesting counts brackets, operators, and items that
    stand side by side.

        [a]  depth 1      [ab]  depth 2      [ab&&[c]]  depth 3 -/

namespace StartPage.Pattern

/-- The operators between parts of a bracketed set. -/
inductive SetOp where | inter | diff | symmDiff

def SetOp.apply (op : SetOp) (s t : CharSet) : CharSet :=
  match op with
  | .inter => s.inter t
  | .diff => s.diff t
  | .symmDiff => s.symmDiff t

/-- A set with the depth of its nesting. -/
structure Nested where
  set : CharSet
  depth : Nat

/-- An open bracket: the operator that waits for its right side with all to the left of it, the items
    since as one set, and their number. -/
structure Bracket where
  negated : Bool
  waiting : Option (SetOp × Nested)
  items : Nested
  count : Nat

/-- A bracket with nothing to the left of the items. -/
def Bracket.opened (negated : Bool) (count : Nat) (items : CharSet) : Bracket :=
  ⟨negated, none, ⟨items, 0⟩, count⟩

def Bracket.add (b : Bracket) (s : Nested) : Bracket :=
  { b with
    items := ⟨b.items.set.union s.set, max b.items.depth s.depth⟩
    count := b.count + 1 }

/-- The items side by side; several of them make one level more. -/
def Bracket.side (b : Bracket) : Nested :=
  ⟨b.items.set, b.items.depth + if 1 < b.count then 1 else 0⟩

/-- All that was read so far, with the waiting operator carried out, which makes one level more. -/
def Bracket.total (f : Flags) (b : Bracket) : Nested :=
  match b.waiting with
  | none => b.side
  | some (op, left) =>
    ⟨op.apply (f.close left.set) (f.close b.side.set), max left.depth b.side.depth + 1⟩

/-- Reads the opening of a bracket after its `[`: an optional `^`, then hyphens, or a closing
    bracket, that stand for themselves. Every hyphen counts as an item. -/
def openBracket (f : Flags) (cs : List Char) : Option (Bracket × List Char) :=
  let cs := f.skip cs
  let (negated, cs) := match cs with
    | '^' :: r => (true, f.skip r)
    | _ => (false, cs)
  let rec hyphens : Nat → Nat → List Char → Option (Nat × List Char)
    | 0, _, _ => none
    | _ + 1, _, [] => none
    | fuel + 1, seen, c :: r =>
      if c = '-' then hyphens fuel (seen + 1) (f.skip r) else some (seen, c :: r)
  match hyphens (cs.length + 1) 0 cs with
  | none => none
  | some (0, ']' :: r) =>
    match f.skip r with
    | [] => none
    | rest => some (.opened negated 1 (CharSet.single ']'), rest)
  | some (0, rest) => some (.opened negated 0 CharSet.empty, rest)
  | some (n, rest) => some (.opened negated n (CharSet.single '-'), rest)

/-- Reads the name of an ASCII class after `[`, such as `:alpha:]` or `:^alpha:]`. -/
def readAsciiClass (f : Flags) (cs : List Char) : Option (Option CharSet × List Char) :=
  match cs with
  | ':' :: r =>
    let (negated, r) := match r with
      | '^' :: r' => (true, r')
      | _ => (false, r)
    match Text.cutAt? ':' r with
    | some (name, ']' :: rest) =>
      (asciiClass? name).map fun s => (f.complete negated s, rest)
    | _ => none
  | _ => none

/-- A character may stand in brackets: outside Unicode only ASCII can. -/
def Flags.allows (f : Flags) : Atom → Bool
  | .char c => f.unicode || c.toNat < 0x80
  | _ => true

/-- Reads one character or escape inside brackets. -/
def readSetAtom (f : Flags) (cs : List Char) : Option (Atom × List Char) := do
  let (atom, rest) ← match cs with
    | [] => none
    | '\\' :: r => readEscape f r
    | c :: r => some (.char c, r)
  if f.allows atom then some (atom, rest) else none

/-- Reads an item inside brackets: a class, a character, or a range. A hyphen before the closing
    bracket or another hyphen makes no range. -/
def readSetItem (f : Flags) (cs : List Char) : Option (CharSet × List Char) := do
  let (first, rest) ← readSetAtom f cs
  let single : Option CharSet := match first with
    | .char c => some (CharSet.single c)
    | .set s => some s
    | .anchor _ => none
  match f.skip rest with
  | [] => none
  | '-' :: r =>
    match f.skip r with
    | [] => none
    | ']' :: _ => some (← single, '-' :: r)
    | '-' :: _ => some (← single, '-' :: r)
    | r' =>
      match first, ← readSetAtom f r' with
      | .char a, (.char b, rest) => if a ≤ b then some (CharSet.range a b, rest) else none
      | _, _ => none
  | rest => some (← single, rest)

/-- Reads the rest of a bracketed set whose open brackets are `b` and, outside it, `outer`. -/
def readBracketRest (f : Flags) : Nat → Bracket → List Bracket → List Char →
    Option (Nested × List Char)
  | 0, _, _, _ => none
  | fuel + 1, b, outer, cs =>
    let operator (op : SetOp) (r : List Char) :=
      readBracketRest f fuel ⟨b.negated, some (op, b.total f), ⟨CharSet.empty, 0⟩, 0⟩ outer r
    match f.skip cs with
    | [] => none
    | '[' :: r =>
      match readAsciiClass f r with
      | some (none, _) => none
      | some (some s, rest) => readBracketRest f fuel (b.add ⟨s, 0⟩) outer rest
      | none => do
        let (inner, rest) ← openBracket f r
        readBracketRest f fuel inner (b :: outer) rest
    | ']' :: r => do
      let total := b.total f
      let s ← f.complete b.negated total.set
      let whole : Nested := ⟨s, total.depth + 1⟩
      match outer with
      | [] => some (whole, r)
      | parent :: outer' => readBracketRest f fuel (parent.add whole) outer' r
    | '&' :: '&' :: r => operator .inter r
    | '-' :: '-' :: r => operator .diff r
    | '~' :: '~' :: r => operator .symmDiff r
    | cs => do
      let (s, rest) ← readSetItem f cs
      readBracketRest f fuel (b.add ⟨s, 0⟩) outer rest

/-- Reads a bracketed set after its `[`. -/
def readBracket (f : Flags) (cs : List Char) : Option (Nested × List Char) := do
  let (b, rest) ← openBracket f cs
  readBracketRest f (cs.length + 1) b [] rest

end StartPage.Pattern
