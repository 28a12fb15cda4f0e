import StartPage.Pattern.Basic

/-!
    Patterns written out as programs for a machine that follows all ways to match at once.

        a b   :   2: b → accept     a|b :  fork to a, then to b      (a)  : save, a, save
                  3: a → 2
        a*    :  fork ─▶ a ─▶ fork (back to a, or on)      a{2} : a a

    A program is built from its end: every part is given the place to go on at. -/

namespace StartPage.Pattern

/-- One instruction; numbers are places in the program. A fork prefers its first way. -/
inductive Instr where
  | accept
  | one (set : CharSet) (next : Nat)
  | check (a : Anchor) (next : Nat)
  | save (slot : Nat) (next : Nat)
  | fork (first second : Nat)

/-- A program being built, and the place where what was built last starts. -/
abbrev Code := Array Instr × Nat

/-- A fork that prefers going into a loop's body, or out of it. -/
def loopFork (greedy : Bool) (body out : Nat) : Instr :=
  if greedy then .fork body out else .fork out body

/-- Puts the same part down several times, each going on at the one put down before it. -/
def copies (part : Array Instr → Nat → Code) : Nat → Array Instr → Nat → Code
  | 0, code, next => (code, next)
  | n + 1, code, next =>
    let (code, start) := part code next
    copies part n code start

/-- Puts a part down up to so many times, with a way out to `out` before each. -/
def optionalCopies (part : Array Instr → Nat → Code) (greedy : Bool) (out : Nat) :
    Nat → Array Instr → Nat → Code
  | 0, code, next => (code, next)
  | n + 1, code, next =>
    let (code, start) := part code next
    optionalCopies part greedy out n (code.push (loopFork greedy start out)) code.size

/-- Puts a part down so that it runs once or more; the fork after it leads back or on. -/
def onceOrMore (part : Array Instr → Nat → Code) (greedy : Bool) (code : Array Instr) (next : Nat) :
    Code :=
  let back := code.size
  let (code, start) := part (code.push .accept) back
  (code.setIfInBounds back (loopFork greedy start next), start)

/-- Puts a pattern down in front of the place `next`. -/
def emit (p : Pattern) (code : Array Instr) (next : Nat) : Code :=
  match p with
  | .empty => (code, next)
  | .one s => (code.push (.one s next), code.size)
  | .anchor a => (code.push (.check a next), code.size)
  | .group i p =>
    let (code, start) := p.emit (code.push (.save (2 * i + 1) next)) code.size
    (code.push (.save (2 * i) start), code.size)
  | .seq p q =>
    let (code, start) := q.emit code next
    p.emit code start
  | .either p q =>
    let (code, second) := q.emit code next
    let (code, first) := p.emit code next
    (code.push (.fork first second), code.size)
  | .loop p least most greedy =>
    match most with
    | some n =>
      let (code, start) := optionalCopies p.emit greedy next (n - least) code next
      copies p.emit least code start
    | none =>
      let (code, start) := onceOrMore p.emit greedy code next
      match least with
      | 0 => (code.push (loopFork greedy start next), code.size)
      | n + 1 => copies p.emit n code start

/-- A pattern as a program. -/
structure Program where
  code : Array Instr
  start : Nat
  groups : Nat

/-- The program of a pattern; place 0 accepts. -/
def program (p : Pattern) : Program :=
  let (code, start) := p.emit #[.accept] 0
  ⟨code, start, p.groupCount⟩

end StartPage.Pattern
