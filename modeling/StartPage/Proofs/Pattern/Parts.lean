import StartPage.Proofs.Pattern.Follow

/-!
    How a text is cut into matches and the characters outside them, said of what the pattern matches.
    Parts come in the order of the text, none overlaps the next, and a character stays outside all
    matches where there is none, or an empty one right after another match.

        b*   in   a b b a    ──▶    empty, a, bb, a, empty -/

namespace StartPage.Pattern

variable {M : Nat → Nat → Prop} {all fresh emptyToo : Bool} {input passed rest : List Char}
  {parts : List Part} {p : Pattern} {h : Hit} {c : Char} {skip n j : Nat}

/-- The parts of a text after the characters that are passed, for what matches from which place to
    which. No match ends at a `fresh` place, so an empty one may be there. After the first match
    all characters are outside, unless all matches are asked for. -/
inductive Cuts (M : Nat → Nat → Prop) (all : Bool) : Bool → List Char → List Char → List Part → Prop
  | done {fresh : Bool} {passed : List Char}
      (none : fresh = true → ¬ M passed.length passed.length) : Cuts M all fresh passed [] []
  | plain {fresh : Bool} {passed rest : List Char} {c : Char} {parts : List Part}
      (outside : ∀ j, M passed.length j → fresh = false ∧ M passed.length passed.length)
      (hrest : Cuts M all true (passed ++ [c]) rest parts) :
      Cuts M all fresh passed (c :: rest) (.plain c :: parts)
  | hit {fresh : Bool} {m : Match} {parts : List Part} (hall : all = true)
      (hm : M m.before.length (m.before.length + m.text.length)) (empty : m.text = [] → fresh = true)
      (hrest : Cuts M all false (m.before ++ m.text) m.after parts) :
      Cuts M all fresh m.before (m.text ++ m.after) (.hit m :: parts)
  | only {fresh : Bool} {m : Match} (hall : all = false)
      (hm : M m.before.length (m.before.length + m.text.length)) (empty : m.text = [] → fresh = true) :
      Cuts M all fresh m.before (m.text ++ m.after) (.hit m :: m.after.map .plain)

theorem sources_map_plain (cs : List Char) : (cs.map Part.plain).flatMap Part.source = cs := by
  induction cs with
  | nil => rfl
  | cons c r ih => rw [List.map_cons, List.flatMap_cons, ih, Part.source, List.singleton_append]

/-- The parts make up the text. -/
theorem Cuts.sources (h : Cuts M all fresh passed rest parts) : parts.flatMap Part.source = rest := by
  induction h with
  | done => rfl
  | plain _ _ ih => rw [List.flatMap_cons, ih, Part.source, List.singleton_append]
  | hit _ _ _ _ ih => rw [List.flatMap_cons, ih, Part.source]
  | only => rw [List.flatMap_cons, sources_map_plain, Part.source]

/-- Where nothing matches, all characters are outside. -/
theorem Cuts.eq_plain (h : Cuts M all fresh passed rest parts)
    (unmatched : ∀ i ≤ passed.length + rest.length, ∀ j, ¬ M i j) : parts = rest.map .plain := by
  induction h with
  | done => rfl
  | @plain _ passed rest c parts _ _ ih =>
    have hlength : (passed ++ [c]).length + rest.length = passed.length + (c :: rest).length := by
      simp only [List.length_append, List.length_cons, List.length_nil]
      omega
    rw [ih (hlength ▸ unmatched), List.map_cons]
  | hit _ hm => exact absurd hm (unmatched _ (Nat.le_add_right _ _) _)
  | only _ hm => exact absurd hm (unmatched _ (Nat.le_add_right _ _) _)

/-- A text that nothing matches in is all outside. -/
theorem cuts_plain (unmatched : ∀ i j, ¬ M i j) (passed rest : List Char) :
    Cuts M all fresh passed rest (rest.map .plain) := by
  induction rest generalizing fresh passed with
  | nil => exact .done fun _ => unmatched _ _
  | cons c rest ih => exact .plain (fun j hj => absurd hj (unmatched _ j)) (ih (passed ++ [c]))

/-! ### The matches that a program finds -/

/-- What is found at a place is a match, and ends in the text. -/
theorem of_hitAt (hinput : input = passed.reverse ++ rest)
    (hfound : p.program.hitAt passed.length passed.head? rest = some h) :
    p.Spans input passed.length h.stop ∧ passed.length ≤ h.stop ∧
      h.stop ≤ passed.length + rest.length := by
  rw [← List.length_reverse, ← List.getLast?_reverse] at hfound
  have hspans := spans_of_hitAt hfound
  rw [← hinput, List.length_reverse] at hspans
  have hlength : input.length = passed.length + rest.length := by
    rw [hinput, List.length_append, List.length_reverse]
  obtain ⟨hle, hstop⟩ := hspans.forward (by omega)
  exact ⟨hspans, hle, by omega⟩

theorem not_spans_of_hitAt (hinput : input = passed.reverse ++ rest)
    (hfound : p.program.hitAt passed.length passed.head? rest = none) (j : Nat) :
    ¬ p.Spans input passed.length j := by
  intro hspans
  rw [hinput, ← List.length_reverse] at hspans
  have hsome := isSome_hitAt hspans
  rw [List.length_reverse, List.getLast?_reverse, hfound] at hsome
  cases hsome

/-- A match is followed by what follows it, cut further if all matches are asked for. -/
theorem cuts_matchOf (hspans : p.Spans input passed.length (passed.length + n)) (hn : n ≤ rest.length)
    (hempty : n = 0 → fresh = true)
    (hrest : Cuts (p.Spans input) all false (passed.reverse ++ rest.take n) (rest.drop n) parts) :
    Cuts (p.Spans input) all fresh passed.reverse rest
      (.hit (p.program.matchOf input passed rest h n) ::
        if all then parts else (rest.drop n).map .plain) := by
  have htext : (rest.take n).length = n := List.length_take_of_le hn
  have hm : p.Spans input passed.reverse.length (passed.reverse.length + (rest.take n).length) := by
    rwa [htext, List.length_reverse]
  have hfresh : rest.take n = [] → fresh = true := fun hnil => hempty (by rw [← htext, hnil]; rfl)
  have hwhole : rest = rest.take n ++ rest.drop n := (List.take_append_drop n rest).symm
  cases all with
  | true =>
    have hcuts := Cuts.hit (m := p.program.matchOf input passed rest h n) rfl hm hfresh hrest
    rwa [Program.matchOf, ← hwhole] at hcuts
  | false =>
    have hcuts := Cuts.only (m := p.program.matchOf input passed rest h n) rfl hm hfresh
    rwa [Program.matchOf, ← hwhole] at hcuts

/-- Cutting goes on after the characters that belong to the match before. -/
theorem cuts_partsFrom (p : Pattern) (all : Bool) (input : List Char) (skip : Nat) (emptyToo : Bool)
    (passed rest : List Char) (hinput : input = passed.reverse ++ rest) (hskip : skip ≤ rest.length) :
    Cuts (p.Spans input) all emptyToo (passed.reverse ++ rest.take skip) (rest.drop skip)
      (p.program.partsFrom all input skip emptyToo passed rest) := by
  induction rest generalizing skip emptyToo passed with
  | nil =>
    obtain rfl : skip = 0 := Nat.le_zero.1 hskip
    rw [List.take_zero, List.append_nil, List.drop_zero, Program.partsFrom]
    split
    · next h hfound =>
      obtain ⟨hspans, hle, hstop⟩ := of_hitAt hinput hfound
      have hend : h.stop = passed.length := Nat.le_antisymm hstop hle
      rw [hend] at hspans
      cases emptyToo with
      | true =>
        have hcuts : Cuts (p.Spans input) all true passed.reverse []
            (.hit (p.program.matchOf input passed [] h 0) :: if all then [] else []) :=
          cuts_matchOf hspans (Nat.zero_le _) (fun _ => rfl)
            (.done fun hfresh => absurd hfresh Bool.false_ne_true)
        simpa using hcuts
      | false => exact .done fun hfresh => absurd hfresh Bool.false_ne_true
    · next hnone =>
      refine .done fun _ => ?_
      rw [List.length_reverse]
      exact not_spans_of_hitAt hinput hnone _
  | cons c r ih =>
    have hinput' : input = (c :: passed).reverse ++ r := by simp [hinput]
    cases skip with
    | succ skip =>
      have hrest := ih skip emptyToo (c :: passed) hinput' (Nat.le_of_succ_le_succ hskip)
      rwa [List.reverse_cons, List.append_assoc, List.singleton_append] at hrest
    | zero =>
      have hplain := ih 0 true (c :: passed) hinput' (Nat.zero_le _)
      rw [List.take_zero, List.append_nil, List.drop_zero, List.reverse_cons] at hplain
      rw [List.take_zero, List.append_nil, List.drop_zero, Program.partsFrom]
      cases hfound : p.program.hitAt passed.length passed.head? (c :: r) with
      | none =>
        refine .plain (fun j hj => ?_) hplain
        rw [List.length_reverse] at hj
        exact absurd hj (not_spans_of_hitAt hinput hfound j)
      | some h =>
        obtain ⟨hspans, hle, hstop⟩ := of_hitAt hinput hfound
        obtain ⟨n, hn⟩ := Nat.exists_eq_add_of_le hle
        rw [hn, Nat.add_le_add_iff_left] at hstop
        rw [hn] at hspans
        simp only [hn, Nat.add_sub_cancel_left]
        cases n with
        | zero =>
          -- an empty match is passed over where another ends, and the character stays outside
          have hother : Cuts (p.Spans input) all false passed.reverse (c :: r)
              (.plain c :: p.program.partsFrom all input 0 true (c :: passed) r) :=
            .plain (fun j _ => ⟨rfl, by rwa [List.length_reverse]⟩) hplain
          cases emptyToo with
          | true => exact cuts_matchOf hspans (Nat.zero_le _) (fun _ => rfl) (by simpa using hother)
          | false => exact hother
        | succ n =>
          have hrest := ih n false (c :: passed) hinput' (Nat.le_of_succ_le_succ hstop)
          rw [List.reverse_cons, List.append_assoc, List.singleton_append, ← List.take_succ_cons]
            at hrest
          exact cuts_matchOf hspans hstop (fun hn => absurd hn (Nat.succ_ne_zero n)) hrest

/-- The parts of a text are cut by what the pattern matches. -/
theorem cuts_parts (p : Pattern) (all : Bool) (input : List Char) :
    Cuts (p.Spans input) all true [] input (p.program.parts all input) :=
  cuts_partsFrom p all input 0 true [] input rfl (Nat.zero_le _)

end StartPage.Pattern
