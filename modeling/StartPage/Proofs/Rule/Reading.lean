import StartPage.Rule

/-!
    How a replacement is read. From left to right a dollar sign and what follows it name a part of
    the match, if they can, and anything else stands for itself. Doubled dollar signs name a dollar
    sign each, so that every text can be written.

    The same by offsets in bytes: a round goes to the next dollar sign and past the characters that
    it takes, and never stops inside a character or past the end.

        $1-$$-$x   with a first group  "é"    ──▶    é-$-$x -/

namespace StartPage.Rule

variable {m : Pattern.Match} {r rest new out : List Char}

/-! ### What a dollar sign names -/

/-- The pattern has a group with this number. -/
def HasGroup (m : Pattern.Match) (n : Nat) : Prop := 1 ≤ n ∧ n ≤ m.groups.length

/-- What a group matched; one that took no part in the match gives nothing. -/
def groupText (m : Pattern.Match) (n : Nat) : List Char :=
  (m.groups.getD (n - 1) Option.none).getD []

/-- What follows a dollar sign brings in a text, and leaves a rest to be read. Two digits name a group
    if there is one with their number, and otherwise the first may. -/
inductive Names (m : Pattern.Match) : List Char → List Char → List Char → Prop
  | dollar {rest : List Char} : Names m ('$' :: rest) ['$'] rest
  | text {rest : List Char} : Names m ('&' :: rest) m.text rest
  | before {rest : List Char} : Names m ('\x60' :: rest) m.before rest
  | after {rest : List Char} : Names m ('\x27' :: rest) m.after rest
  | two {i j : Nat} {rest : List Char} (hi : i < 10) (hj : j < 10) (group : HasGroup m (10 * i + j)) :
      Names m (i.digitChar :: j.digitChar :: rest) (groupText m (10 * i + j)) rest
  | one {i : Nat} {rest : List Char} (hi : i < 10) (group : HasGroup m i)
      (single : ∀ j < 10, ∀ rest', rest = j.digitChar :: rest' → ¬ HasGroup m (10 * i + j)) :
      Names m (i.digitChar :: rest) (groupText m i) rest

/-- What a replacement stands for, read from left to right. -/
inductive Reads (m : Pattern.Match) : List Char → List Char → Prop
  | nil : Reads m [] []
  | char {c : Char} {r out : List Char} (h : c ≠ '$') (hr : Reads m r out) :
      Reads m (c :: r) (c :: out)
  | named {r new rest out : List Char} (h : Names m r new rest) (hrest : Reads m rest out) :
      Reads m ('$' :: r) (new ++ out)
  | stray {r out : List Char} (h : ∀ new rest, ¬ Names m r new rest) (hr : Reads m r out) :
      Reads m ('$' :: r) ('$' :: out)

/-! ### Groups -/

theorem digit?_eq_some_iff {c : Char} {i : Nat} : digit? c = some i ↔ i < 10 ∧ c = i.digitChar := by
  unfold digit?
  constructor
  · intro h
    split at h
    · next hc =>
      obtain ⟨hlow, hhigh⟩ : 48 ≤ c.toNat ∧ c.toNat ≤ 57 := by
        simpa [Char.isDigit, Char.le_def, UInt32.le_iff_toNat_le] using hc
      have hi : c.toNat - 48 = i := Option.some.inj h
      refine ⟨by omega, Char.toNat_inj.1 ?_⟩
      rw [Nat.toNat_digitChar_of_lt_ten (by omega)]
      omega
    · cases h
  · rintro ⟨hi, rfl⟩
    decide +revert

theorem groupText?_eq_some_iff {n : Nat} {g : List Char} :
    groupText? m n = some g ↔ HasGroup m n ∧ groupText m n = g := by
  unfold groupText? HasGroup groupText
  by_cases hn : n = 0
  · simp [hn]
  · rw [if_neg hn, Option.map_eq_some_iff]
    constructor
    · rintro ⟨text, htext, rfl⟩
      obtain ⟨hlt, -⟩ := List.getElem?_eq_some_iff.1 htext
      exact ⟨by omega, by rw [List.getD_eq_getElem?_getD, htext, Option.getD_some]⟩
    · rintro ⟨⟨-, hle⟩, rfl⟩
      have hlt : n - 1 < m.groups.length := by omega
      exact ⟨m.groups[n - 1], List.getElem?_eq_getElem hlt, by
        rw [List.getD_eq_getElem?_getD, List.getElem?_eq_getElem hlt, Option.getD_some]⟩

theorem oneDigit?_eq_some_iff {c : Char} {g : List Char} :
    oneDigit? m c = some g ↔ ∃ i < 10, c = i.digitChar ∧ HasGroup m i ∧ groupText m i = g := by
  refine Option.bind_eq_some_iff.trans ⟨?_, ?_⟩
  · rintro ⟨i, hc, hg⟩
    obtain ⟨hi, rfl⟩ := digit?_eq_some_iff.1 hc
    exact ⟨i, hi, rfl, groupText?_eq_some_iff.1 hg⟩
  · rintro ⟨i, hi, rfl, hg⟩
    exact ⟨i, digit?_eq_some_iff.2 ⟨hi, rfl⟩, groupText?_eq_some_iff.2 hg⟩

theorem twoDigits?_eq_some_iff {c d : Char} {g : List Char} :
    twoDigits? m c d = some g ↔ ∃ i < 10, ∃ j < 10, c = i.digitChar ∧ d = j.digitChar ∧
      HasGroup m (10 * i + j) ∧ groupText m (10 * i + j) = g := by
  refine Option.bind_eq_some_iff.trans ⟨?_, ?_⟩
  · rintro ⟨i, hc, hbind⟩
    obtain ⟨j, hd, hg⟩ := Option.bind_eq_some_iff.1 hbind
    obtain ⟨hi, rfl⟩ := digit?_eq_some_iff.1 hc
    obtain ⟨hj, rfl⟩ := digit?_eq_some_iff.1 hd
    exact ⟨i, hi, j, hj, rfl, rfl, groupText?_eq_some_iff.1 hg⟩
  · rintro ⟨i, hi, j, hj, rfl, rfl, hg⟩
    exact ⟨i, digit?_eq_some_iff.2 ⟨hi, rfl⟩, Option.bind_eq_some_iff.2
      ⟨j, digit?_eq_some_iff.2 ⟨hj, rfl⟩, groupText?_eq_some_iff.2 hg⟩⟩

theorem digitChar_injective {i j : Nat} (hi : i < 10) (hj : j < 10) (h : i.digitChar = j.digitChar) :
    i = j := by
  have hsome : digit? i.digitChar = some j := digit?_eq_some_iff.2 ⟨hj, h⟩
  rw [digit?_eq_some_iff.2 ⟨hi, rfl⟩] at hsome
  exact Option.some.inj hsome

/-! ### Naming, computed -/

/-- Marks that name a part of the match. -/
def isMark (c : Char) : Bool := c == '$' || c == '&' || c == '\x60' || c == '\x27'

/-- What the digits at the front name. -/
def numbered? (m : Pattern.Match) : List Char → Option (List Char × List Char)
  | [] => Option.none
  | [c] => (oneDigit? m c).map (·, [])
  | c :: d :: r => (twoDigits? m c d).elim ((oneDigit? m c).map (·, d :: r)) fun g => some (g, r)

/-- What follows a dollar sign names, with the rest. -/
def named? (m : Pattern.Match) : List Char → Option (List Char × List Char)
  | '$' :: r => some (['$'], r)
  | '&' :: r => some (m.text, r)
  | '\x60' :: r => some (m.before, r)
  | '\x27' :: r => some (m.after, r)
  | r => numbered? m r

theorem isMark_iff {c : Char} :
    isMark c = true ↔ c = '$' ∨ c = '&' ∨ c = '\x60' ∨ c = '\x27' := by
  simp only [isMark, Bool.or_eq_true, beq_iff_eq, or_assoc]

theorem isMark_eq_false_iff {c : Char} :
    isMark c = false ↔ c ≠ '$' ∧ c ≠ '&' ∧ c ≠ '\x60' ∧ c ≠ '\x27' := by
  simp only [isMark, Bool.or_eq_false_iff, beq_eq_false_iff_ne, ne_eq, and_assoc]

theorem named?_of_not_isMark {c : Char} (h : isMark c = false) (r : List Char) :
    named? m (c :: r) = numbered? m (c :: r) := by
  obtain ⟨hdollar, hamp, hgrave, hquote⟩ := isMark_eq_false_iff.1 h
  rw [named?] <;> rintro _ h <;> cases h <;> contradiction

theorem substitute_of_not_isMark {c : Char} (h : isMark c = false) (r : List Char) :
    substitute m ('$' :: c :: r) =
      (numbered? m (c :: r)).elim ('$' :: substitute m (c :: r))
        fun named => named.1 ++ substitute m named.2 := by
  obtain ⟨hdollar, hamp, hgrave, hquote⟩ := isMark_eq_false_iff.1 h
  cases r with
  | nil =>
    rw [substitute.eq_6 m c hdollar hamp hgrave hquote, numbered?]
    cases oneDigit? m c with
    | none => rfl
    | some g => exact (List.append_nil g).symm
  | cons d r =>
    rw [substitute.eq_5 m c d r hdollar hamp hgrave hquote, numbered?]
    cases twoDigits? m c d with
    | some g => rfl
    | none =>
      cases oneDigit? m c with
      | none => rfl
      | some g => rfl

theorem isMark_digitChar {i : Nat} (h : i < 10) : isMark i.digitChar = false := by
  decide +revert

theorem names_of_numbered? (h : numbered? m r = some (new, rest)) : Names m r new rest := by
  unfold numbered? at h
  split at h
  · cases h
  · obtain ⟨g, hg, hpair⟩ := Option.map_eq_some_iff.1 h
    cases hpair
    obtain ⟨i, hi, rfl, hgroup, rfl⟩ := oneDigit?_eq_some_iff.1 hg
    exact .one hi hgroup fun j hj rest' hnil => absurd hnil nofun
  · next c d r =>
    cases htwo : twoDigits? m c d with
    | some g =>
      rw [htwo] at h
      cases h
      obtain ⟨i, hi, j, hj, rfl, rfl, hgroup, rfl⟩ := twoDigits?_eq_some_iff.1 htwo
      exact .two hi hj hgroup
    | none =>
      rw [htwo] at h
      obtain ⟨g, hg, hpair⟩ := Option.map_eq_some_iff.1 h
      cases hpair
      obtain ⟨i, hi, rfl, hgroup, rfl⟩ := oneDigit?_eq_some_iff.1 hg
      refine .one hi hgroup fun j hj rest' hcons hboth => ?_
      cases hcons
      rw [twoDigits?_eq_some_iff.2 ⟨i, hi, j, hj, rfl, rfl, hboth, rfl⟩] at htwo
      cases htwo

theorem numbered?_two {i j : Nat} (hi : i < 10) (hj : j < 10) (group : HasGroup m (10 * i + j)) :
    numbered? m (i.digitChar :: j.digitChar :: r) = some (groupText m (10 * i + j), r) := by
  rw [numbered?, twoDigits?_eq_some_iff.2 ⟨i, hi, j, hj, rfl, rfl, group, rfl⟩, Option.elim_some]

theorem numbered?_one {i : Nat} (hi : i < 10) (group : HasGroup m i)
    (single : ∀ j < 10, ∀ rest', r = j.digitChar :: rest' → ¬ HasGroup m (10 * i + j)) :
    numbered? m (i.digitChar :: r) = some (groupText m i, r) := by
  have hone : oneDigit? m i.digitChar = some (groupText m i) :=
    oneDigit?_eq_some_iff.2 ⟨i, hi, rfl, group, rfl⟩
  cases r with
  | nil => rw [numbered?, hone, Option.map_some]
  | cons d r =>
    have htwo : twoDigits? m i.digitChar d = Option.none := by
      refine Option.eq_none_iff_forall_ne_some.2 fun g hg => ?_
      obtain ⟨i', hi', j, hj, hsame, rfl, hboth, -⟩ := twoDigits?_eq_some_iff.1 hg
      rw [← digitChar_injective hi hi' hsame] at hboth
      exact single j hj r rfl hboth
    rw [numbered?, htwo, Option.elim_none, hone, Option.map_some]

theorem named?_eq_some_iff : named? m r = some (new, rest) ↔ Names m r new rest := by
  constructor
  · intro h
    unfold named? at h
    split at h
    · cases h
      exact .dollar
    · cases h
      exact .text
    · cases h
      exact .before
    · cases h
      exact .after
    · exact names_of_numbered? h
  · intro h
    cases h with
    | dollar | text | before | after => rfl
    | two hi hj group => rw [named?_of_not_isMark (isMark_digitChar hi), numbered?_two hi hj group]
    | one hi group single =>
      rw [named?_of_not_isMark (isMark_digitChar hi), numbered?_one hi group single]

theorem Names.length_lt (h : Names m r new rest) : rest.length < r.length := by
  cases h <;> simp only [List.length_cons] <;> omega

/-! ### The reading -/

/-- A dollar sign is written as what follows it names, and otherwise stands for itself. -/
theorem substitute_dollar (m : Pattern.Match) (r : List Char) :
    substitute m ('$' :: r) =
      (named? m r).elim ('$' :: substitute m r) fun named => named.1 ++ substitute m named.2 := by
  cases r with
  | nil => rfl
  | cons c r =>
    by_cases hmark : isMark c = true
    · rcases isMark_iff.1 hmark with rfl | rfl | rfl | rfl <;> rfl
    · rw [named?_of_not_isMark (by simpa using hmark), substitute_of_not_isMark (by simpa using hmark)]

theorem substitute_named (h : Names m r new rest) :
    substitute m ('$' :: r) = new ++ substitute m rest := by
  rw [substitute_dollar, named?_eq_some_iff.2 h, Option.elim_some]

theorem substitute_stray (h : ∀ new rest, ¬ Names m r new rest) :
    substitute m ('$' :: r) = '$' :: substitute m r := by
  have hnone : named? m r = Option.none :=
    Option.eq_none_iff_forall_ne_some.2 fun named hnamed => h _ _ (named?_eq_some_iff.1 hnamed)
  rw [substitute_dollar, hnone, Option.elim_none]

theorem substitute_cons_of_ne {c : Char} (h : c ≠ '$') (m : Pattern.Match) (r : List Char) :
    substitute m (c :: r) = c :: substitute m r := by
  rw [substitute] <;> intros <;> contradiction

/-- Text without a dollar sign is written as it is. -/
theorem substitute_append_of_not_mem {cs : List Char} (h : '$' ∉ cs) (m : Pattern.Match)
    (r : List Char) : substitute m (cs ++ r) = cs ++ substitute m r := by
  induction cs with
  | nil => rfl
  | cons c cs ih =>
    obtain ⟨hc, hcs⟩ := not_or.1 (mt List.mem_cons.2 h)
    rw [List.cons_append, substitute_cons_of_ne (Ne.symm hc), ih hcs, List.cons_append]

theorem substitute_of_not_mem (h : '$' ∉ r) (m : Pattern.Match) : substitute m r = r := by
  have hplain := substitute_append_of_not_mem h m []
  rwa [substitute, List.append_nil] at hplain

theorem Reads.substitute_eq (h : Reads m r out) : substitute m r = out := by
  induction h with
  | nil => rfl
  | char h _ ih => rw [substitute_cons_of_ne h, ih]
  | named h _ ih => rw [substitute_named h, ih]
  | stray h _ ih => rw [substitute_stray h, ih]

/-- The induction is on the length, since a name takes several characters. -/
theorem reads_substitute (m : Pattern.Match) (r : List Char) : Reads m r (substitute m r) := by
  induction hn : r.length using Nat.strongRecOn generalizing r with
  | ind n ih =>
    cases r with
    | nil => exact .nil
    | cons c r =>
      have hlength : r.length < n := by
        rw [← hn, List.length_cons]
        exact Nat.lt_succ_self r.length
      by_cases hc : c = '$'
      · subst hc
        by_cases hnames : ∃ new rest, Names m r new rest
        · obtain ⟨new, rest, hnames⟩ := hnames
          rw [substitute_named hnames]
          exact .named hnames (ih rest.length (Nat.lt_trans hnames.length_lt hlength) rest rfl)
        · have hstray : ∀ new rest, ¬ Names m r new rest :=
            fun new rest h => hnames ⟨new, rest, h⟩
          rw [substitute_stray hstray]
          exact .stray hstray (ih r.length hlength r rfl)
      · rw [substitute_cons_of_ne hc]
        exact .char hc (ih r.length hlength r rfl)

theorem reads_iff : Reads m r out ↔ out = substitute m r :=
  ⟨fun h => h.substitute_eq.symm, fun h => h ▸ reads_substitute m r⟩

/-- Every dollar sign twice. -/
def doubled (cs : List Char) : List Char := cs.flatMap fun c => if c = '$' then ['$', '$'] else [c]

theorem substitute_doubled (m : Pattern.Match) (cs : List Char) : substitute m (doubled cs) = cs := by
  unfold doubled
  induction cs with
  | nil => rfl
  | cons c cs ih =>
    rw [List.flatMap_cons]
    by_cases hc : c = '$'
    · rw [if_pos hc, hc, List.cons_append, List.singleton_append, substitute_named .dollar, ih,
        List.singleton_append]
    · rw [if_neg hc, List.singleton_append, substitute_cons_of_ne hc, ih]

end StartPage.Rule
