import StartPage.Proofs.Rule.Reading

/-!
    The reading of a replacement by offsets in bytes. A round goes to the next dollar sign, writes
    what it names and goes on past the bytes of that name; the match is cut out of the text by the
    offsets of its ends. No offset is inside a character or past the end, and the rounds come to an
    end.

        replacement   a é $ & b            input   x ü y        match   1 to 3
                      0 1 3 4 5 6                  0 1 3 4 -/

namespace StartPage

namespace Text

variable {c : Char} {a b cs : List Char}

/-- The number of bytes that a text takes. -/
def size : List Char → Nat
  | [] => 0
  | c :: r => c.utf8Size + size r

/-- What is left of a text after so many bytes, unless that is past its end or inside a character. -/
def skip? : Nat → List Char → Option (List Char)
  | 0, cs => some cs
  | _ + 1, [] => none
  | n + 1, c :: r => if c.utf8Size ≤ n + 1 then skip? (n + 1 - c.utf8Size) r else none

/-- A text up to so many bytes, unless that is past its end or inside a character. -/
def front? : Nat → List Char → Option (List Char)
  | 0, _ => some []
  | _ + 1, [] => none
  | n + 1, c :: r =>
    if c.utf8Size ≤ n + 1 then (front? (n + 1 - c.utf8Size) r).map (c :: ·) else none

/-- What stands between two offsets. -/
def slice? (start stop : Nat) (cs : List Char) : Option (List Char) :=
  (skip? start cs).bind (front? (stop - start))

theorem size_cons (c : Char) (cs : List Char) : size (c :: cs) = c.utf8Size + size cs := rfl

theorem size_append (a b : List Char) : size (a ++ b) = size a + size b := by
  induction a with
  | nil => rw [List.nil_append, size, Nat.zero_add]
  | cons c r ih => rw [List.cons_append, size_cons, size_cons, ih, Nat.add_assoc]

theorem skip?_cons (c : Char) (n : Nat) (r : List Char) :
    skip? (c.utf8Size + n) (c :: r) = skip? n r := by
  obtain ⟨k, hk⟩ : ∃ k, c.utf8Size + n = k + 1 := ⟨c.utf8Size + n - 1, by
    have := c.utf8Size_pos
    omega⟩
  rw [hk, skip?, ← hk, if_pos (Nat.le_add_right _ _), Nat.add_sub_cancel_left]

theorem front?_cons (c : Char) (n : Nat) (r : List Char) :
    front? (c.utf8Size + n) (c :: r) = (front? n r).map (c :: ·) := by
  obtain ⟨k, hk⟩ : ∃ k, c.utf8Size + n = k + 1 := ⟨c.utf8Size + n - 1, by
    have := c.utf8Size_pos
    omega⟩
  rw [hk, front?, ← hk, if_pos (Nat.le_add_right _ _), Nat.add_sub_cancel_left]

/-- The end of a part of a text is no offset inside a character. -/
theorem skip?_append (a b : List Char) : skip? (size a) (a ++ b) = some b := by
  induction a with
  | nil => cases b <;> rfl
  | cons c a ih => rw [size_cons, List.cons_append, skip?_cons, ih]

theorem front?_append (a b : List Char) : front? (size a) (a ++ b) = some a := by
  induction a with
  | nil => cases b <;> rfl
  | cons c a ih => rw [size_cons, List.cons_append, front?_cons, ih, Option.map_some]

theorem slice?_append (before a after : List Char) :
    slice? (size before) (size before + size a) (before ++ a ++ after) = some a := by
  rw [slice?, List.append_assoc, skip?_append, Option.bind_some, Nat.add_sub_cancel_left,
    front?_append]

/-- Characters of one byte are passed one by one. -/
theorem skip?_length {a : List Char} (h : ∀ c ∈ a, c.utf8Size = 1) (b : List Char) :
    skip? a.length (a ++ b) = some b := by
  have hsize : size a = a.length := by
    induction a with
    | nil => rfl
    | cons c r ih =>
      rw [size_cons, List.length_cons, h c List.mem_cons_self, Nat.add_comm]
      rw [ih fun d hd => h d (List.mem_cons_of_mem c hd)]
  rw [← hsize, skip?_append]

end Text

namespace Rule

open Text (size skip? front? slice?)

variable {m : Pattern.Match} {r rest new out : List Char}

/-- What stands after a dollar sign is written as a text, and takes up so many bytes. -/
def written? (m : Pattern.Match) (after : List Char) : Option (List Char × Nat) :=
  let input := m.before ++ m.text ++ m.after
  let start := size m.before
  let stop := start + size m.text
  match after with
  | [] => some (['$'], 0)
  | c :: r =>
    if c = '$' then some (['$'], 1)
    else if c = '&' then (slice? start stop input).map (·, 1)
    else if c = '\x60' then (front? start input).map (·, 1)
    else if c = '\x27' then (skip? stop input).map (·, 1)
    else
      match r.head?.bind (twoDigits? m c), oneDigit? m c with
      | some g, _ => some (g, 2)
      | Option.none, some g => some (g, 1)
      | Option.none, Option.none => some (['$'], 0)

/-- One round: what is written up to the end of the next dollar sign's name, and what is left. -/
def round? (m : Pattern.Match) (rest : List Char) : Option (List Char × List Char) := do
  let dollar := size (rest.takeWhile (· != '$'))
  let plain ← front? dollar rest
  let after ← skip? (dollar + 1) rest
  let (new, taken) ← written? m after
  some (plain ++ new, ← skip? taken after)

/-- Rounds as long as there is a dollar sign. Every round goes well, and there are only so many. -/
inductive Scans (m : Pattern.Match) : List Char → List Char → Prop
  | done {rest : List Char} (h : '$' ∉ rest) : Scans m rest rest
  | round {rest new left out : List Char} (h : '$' ∈ rest) (hround : round? m rest = some (new, left))
      (hleft : Scans m left out) : Scans m rest (new ++ out)

theorem written?_of_not_isMark {c : Char} (h : isMark c = false) (r : List Char) :
    written? m (c :: r) =
      match r.head?.bind (twoDigits? m c), oneDigit? m c with
      | some g, _ => some (g, 2)
      | Option.none, some g => some (g, 1)
      | Option.none, Option.none => some (['$'], 0) := by
  obtain ⟨hdollar, hamp, hgrave, hquote⟩ := isMark_eq_false_iff.1 h
  rw [written?, if_neg hdollar, if_neg hamp, if_neg hgrave, if_neg hquote]

/-- The ends of the match are at its offsets, so that what is named can be cut out and written. -/
theorem written?_eq (m : Pattern.Match) (r : List Char) :
    written? m r =
      some ((named? m r).elim (['$'], 0) fun named => (named.1, r.length - named.2.length)) := by
  have hwhole := Text.slice?_append m.before m.text m.after
  have hbefore := Text.front?_append m.before (m.text ++ m.after)
  have hafter := Text.skip?_append (m.before ++ m.text) m.after
  rw [Text.size_append] at hafter
  rw [← List.append_assoc] at hbefore
  cases r with
  | nil => rfl
  | cons c r =>
    by_cases hmark : isMark c = true
    · rcases isMark_iff.1 hmark with rfl | rfl | rfl | rfl <;>
        simp [written?, named?, hwhole, hbefore, hafter, -List.append_assoc]
    · rw [written?_of_not_isMark (by simpa using hmark), named?_of_not_isMark (by simpa using hmark)]
      cases r with
      | nil => cases hone : oneDigit? m c <;> simp [numbered?, hone]
      | cons d r =>
        have hboth : (c :: d :: r).length - r.length = 2 := by
          simp only [List.length_cons]
          omega
        cases htwo : twoDigits? m c d with
        | some g => simp [numbered?, htwo, ← hboth]
        | none => cases hone : oneDigit? m c <;> simp [numbered?, htwo, hone]

/-- A name is a text of ASCII characters. -/
theorem Names.exists_append (h : Names m r new rest) :
    ∃ name, r = name ++ rest ∧ ∀ c ∈ name, c.utf8Size = 1 := by
  have hdigit : ∀ i < 10, (Nat.digitChar i).utf8Size = 1 := by decide
  cases h with
  | dollar => exact ⟨['$'], rfl, List.forall_mem_singleton.2 rfl⟩
  | text => exact ⟨['&'], rfl, List.forall_mem_singleton.2 rfl⟩
  | before => exact ⟨['\x60'], rfl, List.forall_mem_singleton.2 rfl⟩
  | after => exact ⟨['\x27'], rfl, List.forall_mem_singleton.2 rfl⟩
  | @two i j _ hi hj => exact ⟨[i.digitChar, j.digitChar], rfl, by simp [hdigit i hi, hdigit j hj]⟩
  | @one i _ hi => exact ⟨[i.digitChar], rfl, by simp [hdigit i hi]⟩

/-! ### Rounds -/

/-- A round reads up to a dollar sign, which is followed by `after`, of which it takes the name. -/
theorem round?_append {plain after left : List Char} {taken : Nat} (hplain : '$' ∉ plain)
    (hwritten : written? m after = some (new, taken)) (hleft : skip? taken after = some left) :
    round? m (plain ++ '$' :: after) = some (plain ++ new, left) := by
  have htake : (plain ++ '$' :: after).takeWhile (· != '$') = plain := by
    have hother : ∀ c ∈ plain, (c != '$') = true :=
      fun c hc => bne_iff_ne.2 fun heq => hplain (heq ▸ hc)
    rw [List.takeWhile_append_of_pos hother, List.takeWhile_cons_of_neg (by decide), List.append_nil]
  have hskip : skip? (size plain + 1) (plain ++ '$' :: after) = some after := by
    have h := Text.skip?_append (plain ++ ['$']) after
    rwa [Text.size_append, List.append_assoc] at h
  simp [round?, htake, hskip, Text.front?_append, hwritten, hleft]

/-- A round writes what the reading writes, and leaves less to read. -/
theorem exists_round? (m : Pattern.Match) (h : '$' ∈ rest) :
    ∃ new left, round? m rest = some (new, left) ∧ left.length < rest.length ∧
      substitute m rest = new ++ substitute m left := by
  obtain ⟨plain, after, rfl, hplain⟩ := List.eq_append_cons_of_mem h
  have hwritten := written?_eq m after
  rw [substitute_append_of_not_mem hplain, substitute_dollar]
  cases hnamed : named? m after with
  | none =>
    rw [hnamed] at hwritten
    refine ⟨plain ++ ['$'], after, round?_append hplain hwritten (by cases after <;> rfl), ?_, ?_⟩
    · simp only [List.length_append, List.length_cons]
      omega
    · rw [Option.elim_none, List.append_assoc, List.singleton_append]
  | some named =>
    obtain ⟨new, left⟩ := named
    rw [hnamed] at hwritten
    obtain ⟨name, rfl, hbytes⟩ := (named?_eq_some_iff.1 hnamed).exists_append
    have hskip := Text.skip?_length hbytes left
    have htaken : (name ++ left).length - left.length = name.length := by
      rw [List.length_append, Nat.add_sub_cancel]
    rw [Option.elim_some, htaken] at hwritten
    refine ⟨plain ++ new, left, round?_append hplain hwritten hskip, ?_, ?_⟩
    · simp only [List.length_append, List.length_cons]
      omega
    · rw [Option.elim_some, List.append_assoc]

theorem scans_substitute (m : Pattern.Match) (r : List Char) : Scans m r (substitute m r) := by
  induction hn : r.length using Nat.strongRecOn generalizing r with
  | ind n ih =>
    by_cases hdollar : '$' ∈ r
    · obtain ⟨new, left, hround, hless, hsubstitute⟩ := exists_round? m hdollar
      rw [hsubstitute]
      exact .round hdollar hround (ih left.length (hn ▸ hless) left rfl)
    · rw [substitute_of_not_mem hdollar]
      exact .done hdollar

theorem Scans.eq_substitute (h : Scans m r out) : out = substitute m r := by
  induction h with
  | done h => exact (substitute_of_not_mem h m).symm
  | @round rest new left out h hround _ ih =>
    obtain ⟨new', left', hround', -, hsubstitute⟩ := exists_round? m h
    rw [hround] at hround'
    cases hround'
    rw [hsubstitute, ih]

/-- A replacement is read as a dollar sign and what follows it are meant, from left to right. Any text
    can be written by doubling its dollar signs. Read by offsets in bytes it comes to the same, in rounds
    that all go well and end. -/
theorem substitute_reading (m : Pattern.Match) (r : List Char) :
    (∀ out, Reads m r out ↔ out = substitute m r) ∧ substitute m (doubled r) = r ∧
      ∀ out, Scans m r out ↔ out = substitute m r :=
  ⟨fun _ => reads_iff, substitute_doubled m r, fun _ =>
    ⟨Scans.eq_substitute, fun h => h ▸ scans_substitute m r⟩⟩

/-- Of two groups the second took no part in the match, and there is no third. -/
example : substitute ⟨['a'], ['é'], ['b'], [some ['é'], Option.none]⟩ "$12$2$31$$1$é$".toList =
    "é2$31$1$é$".toList := by
  decide

end Rule
end StartPage
