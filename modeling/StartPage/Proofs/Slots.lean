import StartPage.Proofs.Sequence
import StartPage.Proofs.Text
import StartPage.Proofs.Typed

/-!
    Templates with numbered slots. The words go into one working copy after the other, and each is
    looked for a slot in what the words before it have left. It comes to the same as filling the
    template as it was written at once: no word lands in a word, and every number has one slot that
    is filled, the leftmost.

        x/${2}-${1}?${1}${}    and  a  b     ──▶     x/b-a?${1}${} -/

namespace StartPage.Template

/-! ### Templates in pieces -/

/-- A part of a template: text that no slot is in, or the digits of a slot. -/
inductive Piece where
  | text (cs : List Char)
  | slot (digits : List Char)
  deriving DecidableEq

/-- The characters of a piece. -/
def Piece.written : Piece → List Char
  | .text cs => cs
  | .slot digits => ['$', '\x7b'] ++ digits ++ ['\x7d']

/-- The characters of a template. -/
def written (pieces : List Piece) : List Char := pieces.flatMap Piece.written

/-- Text has no dollar sign, and a slot has decimal digits or nothing. -/
def Piece.IsRegular : Piece → Prop
  | .text cs => '$' ∉ cs
  | .slot digits => ∀ c ∈ digits, c.isDigit = true

/-- The slot with a number. -/
def Piece.numbered (n : Nat) : Piece := .slot (toString n).toList

/-- What goes into a piece: the value of its number, the first being numbered 1. -/
def valueFor? (values : List String) (p : Piece) : Option String :=
  ((values.zipIdx 1).find? fun v => p == .numbered v.2).map Prod.fst

/-- A piece with its value, if it is the leftmost of its kind: none of the `earlier` ones is the same. -/
def Piece.filled (values : List String) (earlier : List Piece) (p : Piece) : Piece :=
  if p ∈ earlier then p else (valueFor? values p).elim p fun v => .text v.toList

/-- All pieces with their values; the `earlier` ones were passed before. -/
def filledAtOnce (values : List String) : List Piece → List Piece → List Piece
  | _, [] => []
  | earlier, p :: ps => p.filled values earlier :: filledAtOnce values (p :: earlier) ps

variable {values : List String} {v : String} {p : Piece} {pieces earlier : List Piece} {n : Nat}

namespace Piece

theorem written_numbered (n : Nat) : (numbered n).written = numberedSlot n := rfl

theorem numbered_injective {m n : Nat} (h : numbered m = numbered n) : m = n := by
  have hdigits : Nat.toDigits 10 m = Nat.toDigits 10 n := by simpa [numbered] using h
  rw [← Nat.ofDigitChars_ten_toDigits (n := m), hdigits, Nat.ofDigitChars_ten_toDigits]

theorem isRegular_numbered (n : Nat) : (numbered n).IsRegular := by
  intro c hc
  rw [Nat.toString_eq_repr, Nat.toList_repr] at hc
  exact Nat.isDigit_of_mem_toDigits (by omega) (by omega) hc

theorem IsRegular.not_mem_slot {digits : List Char} {c : Char} (h : (slot digits).IsRegular)
    (hc : c.isDigit = false) : c ∉ digits := by
  intro hmem
  rw [h c hmem] at hc
  cases hc

end Piece

theorem written_cons (p : Piece) (ps : List Piece) : written (p :: ps) = p.written ++ written ps :=
  List.flatMap_cons

/-! ### One word -/

/-- A slot is found at a slot only if the digits are the same. -/
theorem after?_slot_of_ne {digits : List Char} (regular : (Piece.slot digits).IsRegular)
    (other : Piece.slot digits ≠ .numbered n) (rest : List Char) :
    Text.after? (numberedSlot n) ((Piece.slot digits).written ++ rest) = none := by
  refine Option.eq_none_iff_forall_ne_some.2 fun rest' hafter => other ?_
  have hclose : '\x7d' ∉ digits := regular.not_mem_slot (by decide)
  have hclose' : '\x7d' ∉ (toString n).toList :=
    (Piece.isRegular_numbered n).not_mem_slot (by decide)
  have hsame : digits ++ '\x7d' :: rest = (toString n).toList ++ '\x7d' :: rest' := by
    simpa [Piece.written, numberedSlot] using Text.eq_append_of_after? hafter
  have hcut : some (digits, rest) = some ((toString n).toList, rest') := by
    rw [← Text.cutAt?_append_cons rest hclose, hsame, Text.cutAt?_append_cons rest' hclose']
  rw [Piece.numbered, (Prod.mk.inj (Option.some.inj hcut)).1]

/-- Another slot is passed over. -/
theorem replaceFirst_slot_of_ne {digits : List Char} (regular : (Piece.slot digits).IsRegular)
    (other : Piece.slot digits ≠ .numbered n) (new rest : List Char) :
    Text.replaceFirst (numberedSlot n) new ((Piece.slot digits).written ++ rest) =
      (Piece.slot digits).written ++ Text.replaceFirst (numberedSlot n) new rest := by
  have hdollar : '$' ∉ '\x7b' :: digits ++ ['\x7d'] := by
    simpa using regular.not_mem_slot (by decide)
  have hafter := after?_slot_of_ne regular other rest
  have hpassed := Text.replaceFirst_append_of_not_mem hdollar
    ('\x7b' :: (toString n).toList ++ ['\x7d']) new rest
  have hcons : (Piece.slot digits).written = '$' :: ('\x7b' :: digits ++ ['\x7d']) := rfl
  rw [hcons, List.cons_append] at hafter ⊢
  rw [Text.replaceFirst, hafter, List.cons_append]
  exact congrArg ('$' :: ·) hpassed

/-- A new text in the place of a slot: the leftmost piece that is this slot becomes the text. -/
theorem replaceFirst_written (new : List Char) (regular : ∀ p ∈ pieces, p.IsRegular) :
    Text.replaceFirst (numberedSlot n) new (written pieces) =
      written (Sequence.modifyFirst (· == .numbered n) (fun _ => .text new) pieces) := by
  induction pieces with
  | nil => rfl
  | cons p ps ih =>
    have hps := ih fun q hq => regular q (List.mem_cons_of_mem p hq)
    have hp := regular p List.mem_cons_self
    rw [Sequence.modifyFirst]
    by_cases hn : p = .numbered n
    · rw [if_pos (by simpa using hn), hn, written_cons, Piece.written_numbered,
        Text.replaceFirst_append, written_cons]
      rfl
    · rw [if_neg (by simpa using hn), written_cons, written_cons, ← hps]
      cases p with
      | text cs => exact Text.replaceFirst_append_of_not_mem hp _ new _
      | slot digits => exact replaceFirst_slot_of_ne hp hn new (written ps)

/-! ### Word after word -/

theorem valueFor?_eq_none (h : ∀ i ∈ List.range' 1 values.length, p ≠ .numbered i) :
    valueFor? values p = none := by
  rw [valueFor?, Option.map_eq_none_iff, List.find?_eq_none]
  intro x hx heq
  refine h x.2 ?_ (eq_of_beq heq)
  rw [← List.zipIdx_map_snd 1 values]
  exact List.mem_map_of_mem hx

theorem valueFor?_concat (values : List String) (v : String) (p : Piece) :
    valueFor? (values ++ [v]) p =
      (valueFor? values p).or (if p = .numbered (values.length + 1) then some v else none) := by
  rw [valueFor?, List.zipIdx_append, List.find?_append, Option.map_or, ← valueFor?, Nat.add_comm 1]
  by_cases hp : p = .numbered (values.length + 1)
  · rw [if_pos hp, List.zipIdx_singleton, List.find?_cons_of_pos (by simpa using hp), Option.map_some]
  · rw [if_neg hp, List.zipIdx_singleton, List.find?_cons_of_neg (by simpa using hp), List.find?_nil,
      Option.map_none]

/-- The slot of the next number has no value. -/
theorem valueFor?_next (values : List String) :
    valueFor? values (.numbered (values.length + 1)) = none := by
  refine valueFor?_eq_none fun i hi heq => ?_
  have hi := List.mem_range'_1.1 hi
  have hnumber := Piece.numbered_injective heq
  omega

namespace Piece

/-- A further value is for the slot of the next number only. -/
theorem filled_concat_of_ne (h : p ≠ .numbered (values.length + 1)) :
    p.filled (values ++ [v]) earlier = p.filled values earlier := by
  rw [filled, valueFor?_concat, if_neg h, Option.or_none, filled]

theorem filled_of_mem (h : p ∈ earlier) : p.filled values earlier = p := if_pos h

theorem filled_next (h : .numbered (values.length + 1) ∉ earlier) :
    (numbered (values.length + 1)).filled values earlier = .numbered (values.length + 1) := by
  rw [filled, if_neg h, valueFor?_next, Option.elim_none]

theorem filled_concat_next (h : .numbered (values.length + 1) ∉ earlier) :
    (numbered (values.length + 1)).filled (values ++ [v]) earlier = .text v.toList := by
  rw [filled, if_neg h, valueFor?_concat, valueFor?_next, if_pos rfl, Option.none_or,
    Option.elim_some]

/-- A piece stays or becomes text. -/
theorem filled_eq (values : List String) (earlier : List Piece) (p : Piece) :
    p.filled values earlier = p ∨ ∃ v ∈ values, p.filled values earlier = .text v.toList := by
  unfold filled
  split
  · exact .inl rfl
  · cases hvalue : valueFor? values p with
    | none => exact .inl rfl
    | some v =>
      obtain ⟨x, hx, rfl⟩ := Option.map_eq_some_iff.1 hvalue
      exact .inr ⟨x.1, List.fst_mem_of_mem_zipIdx (List.mem_of_find?_eq_some hx), rfl⟩

theorem filled_ne (h : p ≠ .numbered n) : p.filled values earlier ≠ .numbered n := by
  rcases filled_eq values earlier p with heq | ⟨v, -, heq⟩
  · rwa [heq]
  · rw [heq]
    exact Piece.noConfusion

end Piece

/-- A value whose slot is filled already changes nothing. -/
theorem filledAtOnce_concat_of_mem (h : .numbered (values.length + 1) ∈ earlier) :
    filledAtOnce (values ++ [v]) earlier pieces = filledAtOnce values earlier pieces := by
  induction pieces generalizing earlier with
  | nil => rfl
  | cons p ps ih =>
    have hp : p.filled (values ++ [v]) earlier = p.filled values earlier := by
      by_cases hp : p = .numbered (values.length + 1)
      · rw [Piece.filled_of_mem (hp ▸ h), Piece.filled_of_mem (hp ▸ h)]
      · exact Piece.filled_concat_of_ne hp
    rw [filledAtOnce, filledAtOnce, hp, ih (List.mem_cons_of_mem p h)]

/-- The next value goes to the leftmost slot of its number, and what was filled stays as it is. -/
theorem modifyFirst_filledAtOnce (h : .numbered (values.length + 1) ∉ earlier) :
    Sequence.modifyFirst (· == .numbered (values.length + 1)) (fun _ => .text v.toList)
        (filledAtOnce values earlier pieces) =
      filledAtOnce (values ++ [v]) earlier pieces := by
  induction pieces generalizing earlier with
  | nil => rfl
  | cons p ps ih =>
    rw [filledAtOnce, filledAtOnce, Sequence.modifyFirst]
    by_cases hp : p = .numbered (values.length + 1)
    · subst hp
      rw [Piece.filled_next h, Piece.filled_concat_next h, if_pos (beq_self_eq_true _),
        filledAtOnce_concat_of_mem List.mem_cons_self]
    · have hlater : .numbered (values.length + 1) ∉ p :: earlier := by
        rw [List.mem_cons, not_or]
        exact ⟨Ne.symm hp, h⟩
      rw [if_neg (by simpa using Piece.filled_ne hp), Piece.filled_concat_of_ne hp, ih hlater]

theorem filledAtOnce_nil (earlier pieces : List Piece) : filledAtOnce [] earlier pieces = pieces := by
  induction pieces generalizing earlier with
  | nil => rfl
  | cons p ps ih =>
    have hp : p.filled [] earlier = p := by
      rcases Piece.filled_eq [] earlier p with heq | ⟨v, hv, -⟩
      · exact heq
      · cases hv
    rw [filledAtOnce, hp, ih]

/-- Values without a dollar sign leave text without one. -/
theorem isRegular_of_mem_filledAtOnce (regular : ∀ p ∈ pieces, p.IsRegular)
    (plain : ∀ v ∈ values, '$' ∉ v.toList) :
    ∀ p ∈ filledAtOnce values earlier pieces, p.IsRegular := by
  induction pieces generalizing earlier with
  | nil => exact fun p hp => absurd hp List.not_mem_nil
  | cons q ps ih =>
    have hps := fun p hp => regular p (List.mem_cons_of_mem q hp)
    intro p hp
    rcases List.mem_cons.1 hp with rfl | hp
    · rcases Piece.filled_eq values earlier q with heq | ⟨v, hv, heq⟩
      · rw [heq]
        exact regular q List.mem_cons_self
      · rw [heq]
        exact plain v hv
    · exact ih hps p hp

/-- After some words the working copy is the template with the values of these at once, and so it is
    after all words. -/
theorem fillNumbered_written {rule : Rule} {words : List String} (done : List String)
    (regular : ∀ p ∈ pieces, p.IsRegular) (plain : ∀ v ∈ done ++ values, '$' ∉ v.toList)
    (applied : words.map rule.apply = values.map .ok) :
    fillNumbered rule (done.length + 1) (written (filledAtOnce done [] pieces)) words =
      .ok (written (filledAtOnce (done ++ values) [] pieces)) := by
  induction words generalizing done values with
  | nil =>
    obtain rfl : values = [] := by simpa using applied.symm
    rw [fillNumbered, List.append_nil]
  | cons w ws ih =>
    cases values with
    | nil => cases applied
    | cons v vs =>
      obtain ⟨hv, hvs⟩ := List.cons.inj applied
      have hplain : ∀ u ∈ done, '$' ∉ u.toList := fun u hu => plain u (List.mem_append_left _ hu)
      have hboth : ∀ u ∈ (done ++ [v]) ++ vs, '$' ∉ u.toList := by
        rwa [List.append_assoc, List.singleton_append]
      have hrest := ih (done ++ [v]) hboth hvs
      rw [fillNumbered, hv]
      show fillNumbered rule (done.length + 1 + 1) _ ws = _
      rw [replaceFirst_written v.toList (isRegular_of_mem_filledAtOnce regular hplain),
        modifyFirst_filledAtOnce List.not_mem_nil]
      simpa using hrest

/-! ### All words -/

/-- Words for a template with numbered slots go into it at once. The leftmost slot of each number is
    filled with the word of this number, as the rule has it; every other slot stays as it is, and so
    does the template for words without a slot. -/
theorem expand_filledAtOnce {rule : Rule} {word : String} {rest : List String} (keyword : String)
    (regular : ∀ p ∈ pieces, p.IsRegular) (slotted : numberedSlot 1 <:+: written pieces)
    (given : word ≠ "" ∧ word ≠ "_blank")
    (applied : (Entry.wordsFor (word :: rest)).map rule.apply = values.map .ok)
    (plain : ∀ v ∈ values, '$' ∉ v.toList) :
    expand (String.ofList (written pieces)) keyword rule (word :: rest) =
      .ok (.target (String.ofList (written (filledAtOnce values [] pieces)))
        ((word :: rest).getLast? == some "_blank")) := by
  have hfilled : fillNumbered rule 1 (written pieces) (Entry.wordsFor (word :: rest)) =
      .ok (written (filledAtOnce values [] pieces)) := by
    have hall := fillNumbered_written [] regular plain applied
    rwa [filledAtOnce_nil] at hall
  rw [expand_of_given given, fill, String.toList_ofList, if_pos (Text.occursIn_iff.2 slotted),
    hfilled]
  rfl

/-- Hyphens are written as underscores. -/
def underscores : Rule := ⟨"/-/g", "_"⟩

/-- Slots in disorder, repeated, without a number, with a zero in front and without a word. -/
def disordered : List Piece :=
  [.text ['x', '\x7b'], .slot ['2'], .text ['\x7d'], .slot ['1'], .text ['?'], .slot ['1'], .slot [],
    .slot ['0', '1'], .slot ['3']]

/-- Braces and digits of the words meet the text between slots, and no slot comes of it. -/
theorem expand_filledAtOnce_disordered :
    written disordered =
        "x\x7b$\x7b2\x7d\x7d$\x7b1\x7d?$\x7b1\x7d$\x7b\x7d$\x7b01\x7d$\x7b3\x7d".toList ∧
      underscores.apply "\x7b1\x7d-b" = .ok "\x7b1\x7d_b" ∧
      expand (String.ofList (written disordered)) "s" underscores
          ["2\x7d", "\x7b1\x7d-b", "_blank"] =
        .ok (.target "x\x7b\x7b1\x7d_b\x7d2\x7d?$\x7b1\x7d$\x7b\x7d$\x7b01\x7d$\x7b3\x7d"
          true) := by
  have first : underscores.apply "2\x7d" = .ok "2\x7d" :=
    Fault.eq_ok_of_toOption (by decide +kernel)
  have second : underscores.apply "\x7b1\x7d-b" = .ok "\x7b1\x7d_b" :=
    Fault.eq_ok_of_toOption (by decide +kernel)
  have regular : ∀ p ∈ disordered, p.IsRegular := by
    simp [disordered, Piece.IsRegular]
  have slotted : numberedSlot 1 <:+: written disordered := by decide +kernel
  have applied : (Entry.wordsFor ["2\x7d", "\x7b1\x7d-b", "_blank"]).map underscores.apply =
      ["2\x7d", "\x7b1\x7d_b"].map .ok := by
    have hwords : Entry.wordsFor ["2\x7d", "\x7b1\x7d-b", "_blank"] = ["2\x7d", "\x7b1\x7d-b"] := by
      decide
    rw [hwords, List.map_cons, List.map_singleton, first, second]
    rfl
  have hexpand := expand_filledAtOnce "s" regular slotted (by decide) applied (by decide)
  have hfilled : String.ofList (written (filledAtOnce ["2\x7d", "\x7b1\x7d_b"] [] disordered)) =
      "x\x7b\x7b1\x7d_b\x7d2\x7d?$\x7b1\x7d$\x7b\x7d$\x7b01\x7d$\x7b3\x7d" := by
    decide +kernel
  rw [hfilled] at hexpand
  exact ⟨by decide +kernel, second, hexpand⟩

end StartPage.Template
