import StartPage.Proofs.Pattern.Spans

/-!
    A pattern's program matches what the pattern does. A part of a program goes on at the place it was
    given: a way through the program that starts at the part passes along a match of its pattern
    and then stands at that place, and every match has such a way.

    Ways are bounded by their number of steps, since a loop leads back to its own start.

        start ──▶ [ part ] ──▶ next ──▶ … ──▶ accept
          i                      k              j          R i k -/

namespace StartPage.Pattern

variable {code full : Array Instr} {text : List Char} {R : Nat → Nat → Prop}
  {part : Array Instr → Nat → Code} {at' next start i j k n : Nat}

/-! ### Ways through a program -/

/-- From an instruction and a place of the text a program can accept at a place in at most so many
    steps. -/
inductive Leads (code : Array Instr) (text : List Char) : Nat → Nat → Nat → Nat → Prop
  | accept {n at' i : Nat} (h : code[at']? = some .accept) : Leads code text n at' i i
  | one {n at' next i j : Nat} {s : CharSet} {c : Char} (h : code[at']? = some (.one s next))
      (hc : text[i]? = some c) (hs : s.contains c = true) (hrest : Leads code text n next (i + 1) j) :
      Leads code text (n + 1) at' i j
  | check {n at' next i j : Nat} {a : Anchor} (h : code[at']? = some (.check a next))
      (ha : a.holds (placeAt text i).before (placeAt text i).after = true)
      (hrest : Leads code text n next i j) : Leads code text (n + 1) at' i j
  | save {n at' slot next i j : Nat} (h : code[at']? = some (.save slot next))
      (hrest : Leads code text n next i j) : Leads code text (n + 1) at' i j
  | first {n at' a b i j : Nat} (h : code[at']? = some (.fork a b))
      (hrest : Leads code text n a i j) : Leads code text (n + 1) at' i j
  | second {n at' a b i j : Nat} (h : code[at']? = some (.fork a b))
      (hrest : Leads code text n b i j) : Leads code text (n + 1) at' i j

theorem Leads.succ (h : Leads code text n at' i j) : Leads code text (n + 1) at' i j := by
  induction h with
  | accept h => exact .accept h
  | one h hc hs _ ih => exact .one h hc hs ih
  | check h ha _ ih => exact .check h ha ih
  | save h _ ih => exact .save h ih
  | first h _ ih => exact .first h ih
  | second h _ ih => exact .second h ih

theorem Leads.of_one {s : CharSet} (h : code[at']? = some (.one s next))
    (hl : Leads code text n at' i j) :
    (∃ c, text[i]? = some c ∧ s.contains c = true) ∧ Leads code text n next (i + 1) j := by
  cases hl with
  | accept h' => rw [h] at h'; cases h'
  | one h' hc hs hrest =>
    rw [h] at h'
    cases h'
    exact ⟨⟨_, hc, hs⟩, hrest.succ⟩
  | check h' | save h' | first h' | second h' => rw [h] at h'; cases h'

theorem Leads.of_check {a : Anchor} (h : code[at']? = some (.check a next))
    (hl : Leads code text n at' i j) :
    a.holds (placeAt text i).before (placeAt text i).after = true ∧ Leads code text n next i j := by
  cases hl with
  | check h' ha hrest =>
    rw [h] at h'
    cases h'
    exact ⟨ha, hrest.succ⟩
  | accept h' | one h' | save h' | first h' | second h' => rw [h] at h'; cases h'

theorem Leads.of_save {slot : Nat} (h : code[at']? = some (.save slot next))
    (hl : Leads code text n at' i j) : Leads code text n next i j := by
  cases hl with
  | save h' hrest =>
    rw [h] at h'
    cases h'
    exact hrest.succ
  | accept h' | one h' | check h' | first h' | second h' => rw [h] at h'; cases h'

/-- A fork takes a step, which makes loops come to an end. -/
theorem Leads.of_fork {a b : Nat} (h : code[at']? = some (.fork a b))
    (hl : Leads code text n at' i j) :
    ∃ m, n = m + 1 ∧ (Leads code text m a i j ∨ Leads code text m b i j) := by
  cases hl with
  | first h' hrest =>
    rw [h] at h'
    cases h'
    exact ⟨_, rfl, .inl hrest⟩
  | second h' hrest =>
    rw [h] at h'
    cases h'
    exact ⟨_, rfl, .inr hrest⟩
  | accept h' | one h' | check h' | save h' => rw [h] at h'; cases h'

theorem Leads.of_loopFork {greedy : Bool} {body out : Nat}
    (h : code[at']? = some (loopFork greedy body out)) (hl : Leads code text n at' i j) :
    ∃ m, n = m + 1 ∧ (Leads code text m body i j ∨ Leads code text m out i j) := by
  cases greedy with
  | true => exact hl.of_fork h
  | false =>
    obtain ⟨m, hm, hways⟩ := hl.of_fork h
    exact ⟨m, hm, hways.symm⟩

theorem Leads.into_loop {greedy : Bool} {body out : Nat}
    (h : code[at']? = some (loopFork greedy body out)) (hl : Leads code text n body i j) :
    Leads code text (n + 1) at' i j := by
  cases greedy with
  | true => exact .first h hl
  | false => exact .second h hl

theorem Leads.past_loop {greedy : Bool} {body out : Nat}
    (h : code[at']? = some (loopFork greedy body out)) (hl : Leads code text n out i j) :
    Leads code text (n + 1) at' i j := by
  cases greedy with
  | true => exact .second h hl
  | false => exact .first h hl

/-! ### Parts of a program -/

/-- What was put down before stays as it is. -/
def Grows (code code' : Array Instr) : Prop :=
  code.size ≤ code'.size ∧ ∀ k < code.size, code'[k]? = code[k]?

/-- A program has the instructions of a part, from a place on. -/
def Holds (full : Array Instr) (start : Nat) (code : Array Instr) : Prop :=
  ∀ k, start ≤ k → k < code.size → full[k]? = code[k]?

theorem Grows.refl (code : Array Instr) : Grows code code := ⟨Nat.le_refl _, fun _ _ => rfl⟩

theorem Grows.trans {a b c : Array Instr} (hab : Grows a b) (hbc : Grows b c) : Grows a c :=
  ⟨Nat.le_trans hab.1 hbc.1, fun k hk => by
    rw [hbc.2 k (Nat.lt_of_lt_of_le hk hab.1), hab.2 k hk]⟩

theorem grows_push (code : Array Instr) (x : Instr) : Grows code (code.push x) := by
  refine ⟨?_, fun k hk => ?_⟩
  · rw [Array.size_push]
    exact Nat.le_succ code.size
  · rw [Array.getElem?_push, if_neg (Nat.ne_of_lt hk)]

theorem Grows.setIfInBounds {code' : Array Instr} (h : Grows code code') (x : Instr) :
    Grows code (code'.setIfInBounds code.size x) := by
  refine ⟨?_, fun k hk => ?_⟩
  · rw [Array.size_setIfInBounds]
    exact h.1
  · rw [Array.getElem?_setIfInBounds_ne (Nat.ne_of_gt hk), h.2 k hk]

theorem Holds.mono {lo hi : Nat} (h : Holds full lo code) (hle : lo ≤ hi) : Holds full hi code :=
  fun k hk => h k (Nat.le_trans hle hk)

theorem Holds.of_grows {code' : Array Instr} (h : Holds full start code') (hg : Grows code code') :
    Holds full start code :=
  fun k hk hlt => by rw [h k hk (Nat.lt_of_lt_of_le hlt hg.1), hg.2 k hlt]

theorem Holds.getElem?_push {x : Instr} (h : Holds full start (code.push x))
    (hle : start ≤ code.size) : full[code.size]? = some x := by
  rw [h code.size hle (by rw [Array.size_push]; exact Nat.lt_succ_self _), Array.getElem?_push,
    if_pos rfl]

/-- A part of a program matches what a relation says and goes on where it should. -/
structure Realizes (text : List Char) (part : Array Instr → Nat → Code) (R : Nat → Nat → Prop) :
    Prop where
  grows : ∀ code next, Grows code (part code next).1
  sound : ∀ {code full : Array Instr} {next n i j : Nat},
    Holds full code.size (part code next).1 → Leads full text n (part code next).2 i j →
      ∃ k, R i k ∧ Leads full text n next k j
  complete : ∀ {code full : Array Instr} {next n i j k : Nat},
    Holds full code.size (part code next).1 → R i k → Leads full text n next k j →
      ∃ m, Leads full text m (part code next).2 i j

theorem Realizes.congr {S : Nat → Nat → Prop} (h : Realizes text part R)
    (hRS : ∀ i j, R i j ↔ S i j) : Realizes text part S := by
  have heq : R = S := funext fun i => funext fun j => propext (hRS i j)
  rwa [← heq]

/-- One part put down in front of another. -/
def inFront (first second : Array Instr → Nat → Code) (code : Array Instr) (next : Nat) : Code :=
  first (second code next).1 (second code next).2

theorem realizes_inFront {first second : Array Instr → Nat → Code} {R S : Nat → Nat → Prop}
    (hfirst : Realizes text first R) (hsecond : Realizes text second S) :
    Realizes text (inFront first second) fun i j => ∃ k, R i k ∧ S k j := by
  refine ⟨fun code next => ?_, fun {code full next n i j} hfull hl => ?_,
    fun {code full next n i j k} hfull hR hl => ?_⟩
  · exact (hsecond.grows code next).trans (hfirst.grows _ _)
  · obtain ⟨k, hR, hl⟩ := hfirst.sound (hfull.mono (hsecond.grows code next).1) hl
    obtain ⟨k', hS, hl⟩ := hsecond.sound (hfull.of_grows (hfirst.grows _ _)) hl
    exact ⟨k', ⟨k, hR, hS⟩, hl⟩
  · obtain ⟨k', hR, hS⟩ := hR
    obtain ⟨m, hl⟩ := hsecond.complete (hfull.of_grows (hfirst.grows _ _)) hS hl
    exact hfirst.complete (hfull.mono (hsecond.grows code next).1) hR hl

/-! ### Loops -/

theorem realizes_copies (h : Realizes text part R) (n : Nat) :
    Realizes text (copies part n) (Rounds R n) := by
  induction n with
  | zero =>
    exact ⟨fun code _ => .refl code, fun _ hl => ⟨_, rfl, hl⟩, fun _ hR hl => ⟨_, hR ▸ hl⟩⟩
  | succ n ih =>
    refine (realizes_inFront ih h).congr fun i j => ⟨?_, fun hrounds => ?_⟩
    · rintro ⟨k, hrounds, hlast⟩
      exact rounds_append hrounds (rounds_one.2 hlast)
    · obtain ⟨k, hrounds, hlast⟩ := rounds_split hrounds
      exact ⟨k, hrounds, rounds_one.1 hlast⟩

section OptionalCopies

variable {greedy : Bool} {out : Nat}

theorem Realizes.grows_optionalCopies (h : Realizes text part R) (greedy : Bool) (out n : Nat)
    (code : Array Instr) (next : Nat) : Grows code (optionalCopies part greedy out n code next).1 := by
  induction n generalizing code next with
  | zero => exact .refl code
  | succ n ih => exact ((h.grows code next).trans (grows_push _ _)).trans (ih _ _)

/-- The first optional copy that was put down is the last to run; each has its way out before it. -/
theorem Realizes.holds_optionalCopies (h : Realizes text part R)
    (hfull : Holds full code.size (optionalCopies part greedy out (n + 1) code next).1) :
    Holds full code.size (part code next).1 ∧
      full[(part code next).1.size]? = some (loopFork greedy (part code next).2 out) ∧
      Holds full ((part code next).1.push (loopFork greedy (part code next).2 out)).size
        (optionalCopies part greedy out n ((part code next).1.push
          (loopFork greedy (part code next).2 out)) (part code next).1.size).1 := by
  have hpart := h.grows code next
  have hpush := grows_push (part code next).1 (loopFork greedy (part code next).2 out)
  have hpushed := hfull.of_grows (h.grows_optionalCopies greedy out n _ (part code next).1.size)
  exact ⟨hpushed.of_grows hpush, hpushed.getElem?_push hpart.1, hfull.mono (hpart.trans hpush).1⟩

theorem Realizes.sound_optionalCopies (h : Realizes text part R) {s : Nat}
    (hfull : Holds full code.size (optionalCopies part greedy out n code next).1)
    (hl : Leads full text s (optionalCopies part greedy out n code next).2 i j) :
    (∃ m < n, ∃ k, Rounds R m i k ∧ Leads full text s out k j) ∨
      ∃ k, Rounds R n i k ∧ Leads full text s next k j := by
  induction n generalizing code next with
  | zero => exact .inr ⟨i, rfl, hl⟩
  | succ n ih =>
    obtain ⟨hpart, hfork, hrest⟩ := h.holds_optionalCopies hfull
    rcases ih hrest hl with ⟨m, hm, hout⟩ | ⟨k, hrounds, hl⟩
    · exact .inl ⟨m, Nat.lt_succ_of_lt hm, hout⟩
    obtain ⟨s, rfl, hbody | hpast⟩ := hl.of_loopFork hfork
    · obtain ⟨k', hlast, hl⟩ := h.sound hpart hbody
      exact .inr ⟨k', rounds_append hrounds (rounds_one.2 hlast), hl.succ⟩
    · exact .inl ⟨n, Nat.lt_succ_self n, k, hrounds, hpast.succ⟩

theorem Realizes.complete_optionalCopies (h : Realizes text part R) {s : Nat}
    (hfull : Holds full code.size (optionalCopies part greedy out n code next).1)
    (hways : (∃ m < n, ∃ k, Rounds R m i k ∧ Leads full text s out k j) ∨
      ∃ k, Rounds R n i k ∧ Leads full text s next k j) :
    ∃ s', Leads full text s' (optionalCopies part greedy out n code next).2 i j := by
  induction n generalizing code next s with
  | zero =>
    obtain ⟨m, hm, -⟩ | ⟨k, rfl, hl⟩ := hways
    · exact absurd hm (Nat.not_lt_zero m)
    · exact ⟨s, hl⟩
  | succ n ih =>
    obtain ⟨hpart, hfork, hrest⟩ := h.holds_optionalCopies hfull
    obtain ⟨m, hm, k, hrounds, hl⟩ | ⟨k, hrounds, hl⟩ := hways
    · rcases Nat.lt_succ_iff_lt_or_eq.1 hm with hm | rfl
      · exact ih hrest (.inl ⟨m, hm, k, hrounds, hl⟩)
      · exact ih hrest (.inr ⟨k, hrounds, hl.past_loop hfork⟩)
    · obtain ⟨k', hrounds, hlast⟩ := rounds_split hrounds
      obtain ⟨s', hl⟩ := h.complete hpart (rounds_one.1 hlast) hl
      exact ih hrest (.inr ⟨k', hrounds, hl.into_loop hfork⟩)

/-- With the way out leading on, optional copies match up to so many rounds. -/
theorem realizes_optionalCopies (h : Realizes text part R) (greedy : Bool) (n : Nat) :
    Realizes text (fun code next => optionalCopies part greedy next n code next)
      fun i j => ∃ m ≤ n, Rounds R m i j := by
  refine ⟨fun code next => h.grows_optionalCopies greedy next n code next,
    fun {code full next s i j} hfull hl => ?_,
    fun {code full next s i j k} hfull hR hl => h.complete_optionalCopies (s := s) hfull ?_⟩
  · rcases h.sound_optionalCopies hfull hl with ⟨m, hm, k, hrounds, hl⟩ | ⟨k, hrounds, hl⟩
    · exact ⟨k, ⟨m, Nat.le_of_lt hm, hrounds⟩, hl⟩
    · exact ⟨k, ⟨n, Nat.le_refl n, hrounds⟩, hl⟩
  · obtain ⟨m, hm, hrounds⟩ := hR
    rcases Nat.lt_or_eq_of_le hm with hm | rfl
    · exact .inl ⟨m, hm, k, hrounds, hl⟩
    · exact .inr ⟨k, hrounds, hl⟩

end OptionalCopies

section OnceOrMore

variable {greedy : Bool}

theorem Realizes.holds_onceOrMore (h : Realizes text part R)
    (hfull : Holds full code.size (onceOrMore part greedy code next).1) :
    Holds full (code.push .accept).size (part (code.push .accept) code.size).1 ∧
      full[code.size]? = some (loopFork greedy (onceOrMore part greedy code next).2 next) := by
  have hgrows := h.grows (code.push .accept) code.size
  rw [Grows, Array.size_push] at hgrows
  have hback : code.size < (part (code.push .accept) code.size).1.size := hgrows.1
  rw [Array.size_push]
  constructor
  · intro k hk hlt
    rw [hfull k (Nat.le_of_succ_le hk) (by simpa [onceOrMore] using hlt)]
    simp only [onceOrMore]
    rw [Array.getElem?_setIfInBounds_ne (Nat.ne_of_lt hk)]
  · rw [hfull code.size (Nat.le_refl _) (by simpa [onceOrMore] using hback)]
    simp only [onceOrMore]
    rw [Array.getElem?_setIfInBounds_self_of_lt hback]

/-- Every round takes a step at the fork, on which the induction is. -/
theorem realizes_onceOrMore (h : Realizes text part R) (greedy : Bool) :
    Realizes text (onceOrMore part greedy) fun i j => ∃ n, Rounds R (n + 1) i j := by
  refine ⟨fun code next => ?_, fun {code full next s i j} hfull hl => ?_,
    fun {code full next s i j k} hfull hR hl => ?_⟩
  · exact ((grows_push code .accept).trans (h.grows _ _)).setIfInBounds _
  · obtain ⟨hpart, hfork⟩ := h.holds_onceOrMore hfull
    induction s generalizing i with
    | zero =>
      obtain ⟨k, -, hl⟩ := h.sound hpart hl
      obtain ⟨m, hm, -⟩ := hl.of_loopFork hfork
      cases hm
    | succ s ih =>
      obtain ⟨k, hR, hl⟩ := h.sound hpart hl
      obtain ⟨m, hm, hbody | hpast⟩ := hl.of_loopFork hfork
      · cases hm
        obtain ⟨k', ⟨n, hrounds⟩, hl⟩ := ih hbody
        exact ⟨k', ⟨n + 1, k, hR, hrounds⟩, hl.succ⟩
      · cases hm
        exact ⟨k, ⟨0, rounds_one.2 hR⟩, hpast.succ⟩
  · obtain ⟨hpart, hfork⟩ := h.holds_onceOrMore hfull
    obtain ⟨n, hrounds⟩ := hR
    induction n generalizing i with
    | zero => exact h.complete hpart (rounds_one.1 hrounds) (hl.past_loop hfork)
    | succ n ih =>
      obtain ⟨l, hR, hrounds⟩ := hrounds
      obtain ⟨s', hl⟩ := ih hrounds
      exact h.complete hpart hR (hl.into_loop hfork)

end OnceOrMore

/-- A part put down with a fork before it, past which it can be left out. -/
def leftOut (part : Array Instr → Nat → Code) (greedy : Bool) (code : Array Instr) (next : Nat) :
    Code :=
  ((part code next).1.push (loopFork greedy (part code next).2 next), (part code next).1.size)

theorem realizes_leftOut (h : Realizes text part R) (greedy : Bool) :
    Realizes text (leftOut part greedy) fun i j => i = j ∨ R i j := by
  refine ⟨fun code next => (h.grows code next).trans (grows_push _ _),
    fun {code full next n i j} hfull hl => ?_, fun {code full next n i j k} hfull hR hl => ?_⟩
  · have hfork := hfull.getElem?_push (h.grows code next).1
    obtain ⟨m, rfl, hbody | hpast⟩ := hl.of_loopFork hfork
    · obtain ⟨k, hR, hl⟩ := h.sound (hfull.of_grows (grows_push _ _)) hbody
      exact ⟨k, .inr hR, hl.succ⟩
    · exact ⟨i, .inl rfl, hpast.succ⟩
  · have hfork := hfull.getElem?_push (h.grows code next).1
    rcases hR with rfl | hR
    · exact ⟨n + 1, hl.past_loop hfork⟩
    · obtain ⟨m, hl⟩ := h.complete (hfull.of_grows (grows_push _ _)) hR hl
      exact ⟨m + 1, hl.into_loop hfork⟩

/-! ### Patterns -/

theorem realizes_one (text : List Char) (s : CharSet) :
    Realizes text (Pattern.one s).emit ((Pattern.one s).Spans text) := by
  refine ⟨fun code _ => grows_push code _, fun hfull hl => ?_, fun hfull hR hl => ?_⟩
  · obtain ⟨hc, hl⟩ := hl.of_one (hfull.getElem?_push (Nat.le_refl _))
    exact ⟨_, ⟨hc, rfl⟩, hl⟩
  · obtain ⟨⟨c, hc, hs⟩, rfl⟩ := hR
    exact ⟨_, .one (hfull.getElem?_push (Nat.le_refl _)) hc hs hl⟩

theorem realizes_anchor (text : List Char) (a : Anchor) :
    Realizes text (Pattern.anchor a).emit ((Pattern.anchor a).Spans text) := by
  refine ⟨fun code _ => grows_push code _, fun hfull hl => ?_, fun hfull hR hl => ?_⟩
  · obtain ⟨ha, hl⟩ := hl.of_check (hfull.getElem?_push (Nat.le_refl _))
    exact ⟨_, ⟨ha, rfl⟩, hl⟩
  · obtain ⟨ha, rfl⟩ := hR
    exact ⟨_, .check (hfull.getElem?_push (Nat.le_refl _)) ha hl⟩

/-- An instruction that saves the place it is at. -/
def saving (slot : Nat) (code : Array Instr) (next : Nat) : Code :=
  (code.push (.save slot next), code.size)

theorem realizes_saving (text : List Char) (slot : Nat) : Realizes text (saving slot) (· = ·) := by
  refine ⟨fun code _ => grows_push code _, fun hfull hl => ?_, fun hfull hR hl => ?_⟩
  · exact ⟨_, rfl, hl.of_save (hfull.getElem?_push (Nat.le_refl _))⟩
  · exact ⟨_, .save (hfull.getElem?_push (Nat.le_refl _)) (hR ▸ hl)⟩

/-- A group is put down between the instructions that save its ends. -/
theorem realizes_group {p : Pattern} (h : Realizes text p.emit R) (g : Nat) :
    Realizes text (Pattern.group g p).emit R := by
  have hends := realizes_inFront (realizes_saving text (2 * g))
    (realizes_inFront h (realizes_saving text (2 * g + 1)))
  refine hends.congr fun i j => ⟨?_, fun hR => ⟨i, rfl, j, hR, rfl⟩⟩
  rintro ⟨_, rfl, _, hR, rfl⟩
  exact hR

theorem Realizes.holds_either {p q : Pattern} {S : Nat → Nat → Prop} (hp : Realizes text p.emit R)
    (hq : Realizes text q.emit S) (hfull : Holds full code.size ((Pattern.either p q).emit code next).1) :
    Holds full code.size (q.emit code next).1 ∧
      Holds full (q.emit code next).1.size (p.emit (q.emit code next).1 next).1 ∧
      full[(p.emit (q.emit code next).1 next).1.size]? =
        some (.fork (p.emit (q.emit code next).1 next).2 (q.emit code next).2) := by
  have hsecond := hq.grows code next
  have hfirst := hp.grows (q.emit code next).1 next
  have hboth := hfull.of_grows (grows_push _ _)
  exact ⟨hboth.of_grows hfirst, hboth.mono hsecond.1, hfull.getElem?_push (hsecond.trans hfirst).1⟩

theorem realizes_either {p q : Pattern} {S : Nat → Nat → Prop} (hp : Realizes text p.emit R)
    (hq : Realizes text q.emit S) :
    Realizes text (Pattern.either p q).emit fun i j => R i j ∨ S i j := by
  refine ⟨fun code next => ?_, fun {code full next n i j} hfull hl => ?_,
    fun {code full next n i j k} hfull hR hl => ?_⟩
  · exact ((hq.grows code next).trans (hp.grows _ next)).trans (grows_push _ _)
  · obtain ⟨hsecond, hfirst, hfork⟩ := hp.holds_either hq hfull
    obtain ⟨m, rfl, hway | hway⟩ := hl.of_fork hfork
    · obtain ⟨k, hR, hl⟩ := hp.sound hfirst hway
      exact ⟨k, .inl hR, hl.succ⟩
    · obtain ⟨k, hS, hl⟩ := hq.sound hsecond hway
      exact ⟨k, .inr hS, hl.succ⟩
  · obtain ⟨hsecond, hfirst, hfork⟩ := hp.holds_either hq hfull
    rcases hR with hR | hS
    · obtain ⟨m, hl⟩ := hp.complete hfirst hR hl
      exact ⟨m + 1, .first hfork hl⟩
    · obtain ⟨m, hl⟩ := hq.complete hsecond hS hl
      exact ⟨m + 1, .second hfork hl⟩

theorem realizes_loop {p : Pattern} (h : Realizes text p.emit R) (least : Nat) (most : Option Nat)
    (greedy : Bool) :
    Realizes text (Pattern.loop p least most greedy).emit fun i j =>
      ∃ n, (least ≤ n ∧ ∀ m, most = some m → n ≤ max least m) ∧ Rounds R n i j := by
  cases most with
  | some m =>
    have hcopies := realizes_inFront (realizes_copies h least)
      (realizes_optionalCopies h greedy (m - least))
    refine hcopies.congr fun i j => ⟨?_, ?_⟩
    · rintro ⟨k, hleast, r, hr, hmore⟩
      refine ⟨least + r, ⟨Nat.le_add_right _ _, fun m' hm' => ?_⟩, rounds_append hleast hmore⟩
      cases hm'
      omega
    · rintro ⟨n, ⟨hle, hmost⟩, hrounds⟩
      have hn := hmost m rfl
      obtain ⟨r, rfl⟩ := Nat.exists_eq_add_of_le hle
      obtain ⟨k, hleast, hmore⟩ := rounds_split hrounds
      exact ⟨k, hleast, r, by omega, hmore⟩
  | none =>
    cases least with
    | zero =>
      refine (realizes_leftOut (realizes_onceOrMore h greedy) greedy).congr fun i j => ⟨?_, ?_⟩
      · rintro (rfl | ⟨n, hrounds⟩)
        · exact ⟨0, ⟨Nat.le_refl 0, nofun⟩, rfl⟩
        · exact ⟨n + 1, ⟨Nat.zero_le _, nofun⟩, hrounds⟩
      · rintro ⟨n, -, hrounds⟩
        cases n with
        | zero => exact .inl hrounds
        | succ n => exact .inr ⟨n, hrounds⟩
    | succ least =>
      refine (realizes_inFront (realizes_copies h least) (realizes_onceOrMore h greedy)).congr
        fun i j => ⟨?_, ?_⟩
      · rintro ⟨k, hleast, n, hmore⟩
        exact ⟨least + (n + 1), ⟨by omega, nofun⟩, rounds_append hleast hmore⟩
      · rintro ⟨n, ⟨hle, -⟩, hrounds⟩
        obtain ⟨r, rfl⟩ := Nat.exists_eq_add_of_le hle
        rw [Nat.succ_add_eq_add_succ] at hrounds
        obtain ⟨k, hleast, hmore⟩ := rounds_split hrounds
        exact ⟨k, hleast, r, hmore⟩

theorem realizes_emit (text : List Char) (p : Pattern) : Realizes text p.emit (p.Spans text) := by
  induction p with
  | empty => exact ⟨fun code _ => .refl code, fun _ hl => ⟨_, rfl, hl⟩, fun _ hR hl => ⟨_, hR ▸ hl⟩⟩
  | one s => exact realizes_one text s
  | anchor a => exact realizes_anchor text a
  | group g p ih => exact realizes_group ih g
  | seq p q ihp ihq => exact realizes_inFront ihp ihq
  | either p q ihp ihq => exact realizes_either ihp ihq
  | loop p least most greedy ih => exact realizes_loop ih least most greedy

/-- A pattern's program accepts just what the pattern matches. -/
theorem spans_iff_leads (text : List Char) (p : Pattern) (i j : Nat) :
    p.Spans text i j ↔ ∃ n, Leads p.program.code text n p.program.start i j := by
  have hgrows := (realizes_emit text p).grows #[.accept] 0
  have haccept : p.program.code[0]? = some .accept := hgrows.2 0 (Nat.zero_lt_one)
  have hfull : Holds p.program.code 1 (p.emit #[.accept] 0).1 := fun _ _ _ => rfl
  constructor
  · exact fun h => (realizes_emit text p).complete hfull h (.accept (n := 0) haccept)
  · rintro ⟨n, hl⟩
    obtain ⟨k, hspans, hl⟩ := (realizes_emit text p).sound hfull hl
    cases hl with
    | accept => exact hspans
    | one h | check h | save h | first h | second h => rw [haccept] at h; cases h

end StartPage.Pattern
