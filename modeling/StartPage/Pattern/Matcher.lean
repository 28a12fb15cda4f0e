import StartPage.Pattern.Program

/-!
    Running a pattern's program over a text.

    From one place in the text all ways to match are followed together, as a list of threads in the
    order of preference. At each place the threads first go on without a character, each
    instruction being reached only once, so that a text of length n takes a program of size m at
    most n · m steps; then those that wait for a character take it. A thread that accepts cuts off
    the threads it is preferred to.

    Matches of a text are taken from the left. After a match, an empty one may not start where it
    ended. -/

namespace StartPage.Pattern

/-- A way to match: the instruction it is at, and the places it saved, latest first. -/
structure Thread where
  at' : Nat
  saves : List (Nat × Nat)

/-- A place in a text: how many characters stand before it, and its neighbours. -/
structure Place where
  index : Nat
  before : Option Char
  after : Option Char

/-- Goes on from threads without taking a character, up to instructions that take one or accept;
    `seen` marks the instructions reached, `done` are the threads that wait, last first. -/
def settleFrom (code : Array Instr) (here : Place) :
    Nat → List Thread → Array Bool → List Thread → List Thread
  | 0, _, _, done => done.reverse
  | _ + 1, [], _, done => done.reverse
  | fuel + 1, t :: ts, seen, done =>
    if seen.getD t.at' true then settleFrom code here fuel ts seen done
    else
      let seen := seen.setIfInBounds t.at' true
      match code[t.at']? with
      | some (.check a next) =>
        if a.holds here.before here.after then
          settleFrom code here fuel (⟨next, t.saves⟩ :: ts) seen done
        else settleFrom code here fuel ts seen done
      | some (.save slot next) =>
        settleFrom code here fuel (⟨next, (slot, here.index) :: t.saves⟩ :: ts) seen done
      | some (.fork a b) =>
        settleFrom code here fuel (⟨a, t.saves⟩ :: ⟨b, t.saves⟩ :: ts) seen done
      | _ => settleFrom code here fuel ts seen (t :: done)

/-- The threads that wait at a place, in order of preference. Every instruction brings in at most
    two more threads, which bounds the number of steps. -/
def settle (code : Array Instr) (here : Place) (ts : List Thread) : List Thread :=
  settleFrom code here (ts.length + 2 * code.size + 1) ts (Array.replicate code.size false) []

/-- The threads before the first that accepts, and the places it saved. -/
def cutAtAccept (code : Array Instr) : List Thread → List Thread × Option (List (Nat × Nat))
  | [] => ([], none)
  | t :: ts =>
    match code[t.at']? with
    | some .accept => ([], some t.saves)
    | _ => let (alive, saves) := cutAtAccept code ts; (t :: alive, saves)

/-- What is left of a thread when it takes a character. -/
def Thread.take? (code : Array Instr) (c : Char) (t : Thread) : Option Thread :=
  match code[t.at']? with
  | some (.one s next) => if s.contains c then some ⟨next, t.saves⟩ else none
  | _ => none

/-- Where a match ends, and the places saved on its way. -/
structure Hit where
  stop : Nat
  saves : List (Nat × Nat)

/-- Follows threads through the text from a place; `best` is the match found so far. -/
def follow (code : Array Instr) (best : Option Hit) (ts : List Thread) (index : Nat)
    (before : Option Char) : List Char → Option Hit
  | [] =>
    match (cutAtAccept code (settle code ⟨index, before, none⟩ ts)).2 with
    | some saves => some ⟨index, saves⟩
    | none => best
  | c :: r =>
    let (alive, saves) := cutAtAccept code (settle code ⟨index, before, some c⟩ ts)
    let best := match saves with
      | some saves => some ⟨index, saves⟩
      | none => best
    match alive.filterMap (Thread.take? code c) with
    | [] => best
    | ts' => follow code best ts' (index + 1) (some c) r

/-- The match that starts at a place. -/
def Program.hitAt (p : Program) (index : Nat) (before : Option Char) (rest : List Char) :
    Option Hit :=
  follow p.code none [⟨p.start, []⟩] index before rest

/-- A match of a pattern in a text. -/
structure Match where
  before : List Char
  text : List Char
  after : List Char
  groups : List (Option (List Char))

/-- The place saved in a slot. -/
def Hit.slot? (h : Hit) (slot : Nat) : Option Nat :=
  (h.saves.find? (·.1 == slot)).map (·.2)

/-- What a group matched. -/
def Hit.group? (h : Hit) (input : List Char) (i : Nat) : Option (List Char) := do
  let a ← h.slot? (2 * i)
  let b ← h.slot? (2 * i + 1)
  some ((input.drop a).take (b - a))

/-- A part of a text: a character outside matches, or a match. -/
inductive Part where
  | plain (c : Char)
  | hit (m : Match)

/-- The text that a part stands for. -/
def Part.source : Part → List Char
  | .plain c => [c]
  | .hit m => m.text

/-- The match of length `n` that a hit at this place stands for. -/
def Program.matchOf (p : Program) (input passed rest : List Char) (h : Hit) (n : Nat) : Match where
  before := passed.reverse
  text := rest.take n
  after := rest.drop n
  groups := (List.range p.groups).map fun i => h.group? input (i + 1)

/-- Cuts the rest of a text into its matches and the characters outside them. The first `skip`
    characters belong to a match already given; `emptyToo` allows an empty match right here;
    `passed` are the characters before the rest, last first. Without `all` the first match is the
    only one. -/
def Program.partsFrom (p : Program) (all : Bool) (input : List Char) :
    Nat → Bool → List Char → List Char → List Part
  | _ + 1, _, _, [] => []
  | skip + 1, emptyToo, passed, c :: r => p.partsFrom all input skip emptyToo (c :: passed) r
  | 0, emptyToo, passed, [] =>
    match p.hitAt passed.length passed.head? [] with
    | some h => if emptyToo then [.hit (p.matchOf input passed [] h 0)] else []
    | none => []
  | 0, emptyToo, passed, c :: r =>
    match p.hitAt passed.length passed.head? (c :: r) with
    | none => .plain c :: p.partsFrom all input 0 true (c :: passed) r
    | some h =>
      match h.stop - passed.length with
      | 0 =>
        if emptyToo then
          .hit (p.matchOf input passed (c :: r) h 0) ::
            if all then .plain c :: p.partsFrom all input 0 true (c :: passed) r
            else (c :: r).map .plain
        else .plain c :: p.partsFrom all input 0 true (c :: passed) r
      | n + 1 =>
        .hit (p.matchOf input passed (c :: r) h (n + 1)) ::
          if all then p.partsFrom all input n false (c :: passed) r
          else (r.drop n).map .plain

/-- The parts of a text: all its matches, or only the first, and the characters outside them. -/
def Program.parts (p : Program) (all : Bool) (input : List Char) : List Part :=
  p.partsFrom all input 0 true [] input

/-- Writes `f` in the place of matches. -/
def Program.replace (p : Program) (all : Bool) (f : Match → List Char) (input : List Char) :
    List Char :=
  (p.parts all input).flatMap fun
    | .plain c => [c]
    | .hit m => f m

end StartPage.Pattern
