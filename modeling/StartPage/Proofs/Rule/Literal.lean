import StartPage.Proofs.Pattern.Literal
import StartPage.Proofs.Rule.Kept
import StartPage.Proofs.Template

/-!
    Rules with a text for a pattern, the usual ones. They put the replacement in the place of the text
    where it occurs, from the left and without overlap, or only where it occurs first.

        /aa/g   and   b    aaaaa   ──▶   bba
        /aa/    and   b    aaaaa   ──▶   baaa    -/

namespace StartPage

namespace Text

variable {pat new cs : List Char} {c : Char}

theorem replaceFrom_eq_drop (pat new : List Char) (skip : Nat) (cs : List Char) :
    replaceFrom pat new skip cs = replaceAll pat new (cs.drop skip) := by
  induction cs generalizing skip with
  | nil => cases skip <;> rfl
  | cons c r ih =>
    cases skip with
    | zero => rfl
    | succ skip => rw [replaceFrom, ih, List.drop_succ_cons]

theorem replaceAll_append (nonempty : pat ≠ []) (new rest : List Char) :
    replaceAll pat new (pat ++ rest) = new ++ replaceAll pat new rest := by
  cases pat with
  | nil => exact absurd rfl nonempty
  | cons c r =>
    have hstart : (c :: r).isPrefixOf (c :: (r ++ rest)) = true :=
      List.isPrefixOf_iff_prefix.2 (List.prefix_append (c :: r) rest)
    rw [replaceAll, List.cons_append, replaceFrom, if_pos hstart, replaceFrom_eq_drop]
    simp

theorem replaceAll_cons_of_not_start (h : ¬ pat <+: c :: cs) (new : List Char) :
    replaceAll pat new (c :: cs) = c :: replaceAll pat new cs := by
  have hstart : ¬ pat.isPrefixOf (c :: cs) = true := mt List.isPrefixOf_iff_prefix.1 h
  rw [replaceAll, replaceFrom, if_neg hstart, ← replaceAll]

theorem replaceFirst_cons_of_not_start (h : ¬ pat <+: c :: cs) (new : List Char) :
    replaceFirst pat new (c :: cs) = c :: replaceFirst pat new cs := by
  rw [replaceFirst]
  split
  · next rest hafter => exact absurd ⟨rest, (eq_append_of_after? hafter).symm⟩ h
  · rfl

end Text

namespace Rule

open Pattern (Cuts Part literal IsOrdinary)

variable {w new input passed rest : List Char} {parts : List Part} {all fresh : Bool} {text flags : String}

/-- A text put in the place of another, everywhere or where that occurs first. -/
def replaced (all : Bool) (w new cs : List Char) : List Char :=
  if all then Text.replaceAll w new cs else Text.replaceFirst w new cs

/-! ### Where a text matches -/

theorem spans_at (hinput : input = passed ++ rest) {j : Nat} :
    (literal w).Spans input passed.length j ↔ w <+: rest ∧ j = passed.length + w.length := by
  rw [Pattern.spans_literal, hinput, List.drop_left]

theorem text_eq {m : Pattern.Match} (hinput : input = m.before ++ (m.text ++ m.after))
    (hm : (literal w).Spans input m.before.length (m.before.length + m.text.length)) : m.text = w := by
  obtain ⟨hstart, hlength⟩ := (spans_at hinput).1 hm
  rw [Nat.add_left_cancel_iff] at hlength
  have hsame := List.prefix_of_prefix_length_le hstart (List.prefix_append m.text m.after)
    (Nat.le_of_eq hlength.symm)
  exact (hsame.eq_of_length hlength.symm).symm

theorem not_start_of_outside (nonempty : w ≠ []) (hinput : input = passed ++ rest)
    (outside : ∀ j, (literal w).Spans input passed.length j →
      fresh = false ∧ (literal w).Spans input passed.length passed.length) : ¬ w <+: rest := by
  intro hstart
  obtain ⟨-, hempty⟩ := outside _ ((spans_at hinput).2 ⟨hstart, rfl⟩)
  obtain ⟨-, hlength⟩ := (spans_at hinput).1 hempty
  exact nonempty (List.eq_nil_of_length_eq_zero (by omega))

/-! ### What is written -/

theorem replaced_cons_of_not_start {c : Char} (h : ¬ w <+: c :: rest) (all : Bool)
    (new : List Char) : replaced all w new (c :: rest) = c :: replaced all w new rest := by
  cases all with
  | true => exact Text.replaceAll_cons_of_not_start h new
  | false => exact Text.replaceFirst_cons_of_not_start h new

/-- Where the parts are cut by a text, that text is replaced. -/
theorem written_of_cuts (nonempty : w ≠ []) (verbatim : '$' ∉ new) (hinput : input = passed ++ rest)
    (h : Cuts ((literal w).Spans input) all fresh passed rest parts) :
    parts.flatMap (written new) = replaced all w new rest := by
  -- the text is not empty, so that a character is outside only where the text does not stand
  induction h with
  | done =>
    cases all with
    | true => rfl
    | false => exact (if_neg (mt List.isEmpty_iff.1 nonempty)).symm
  | plain outside _ ih =>
    have hrest := ih (by rw [hinput, List.append_assoc, List.singleton_append])
    rw [replaced_cons_of_not_start (not_start_of_outside nonempty hinput outside)]
    rw [List.flatMap_cons, hrest, written, List.singleton_append]
  | hit hall hm _ _ ih =>
    have hrest := ih (by rw [hinput, List.append_assoc])
    rw [List.flatMap_cons, hrest, written, substitute_of_not_mem verbatim, text_eq hinput hm, hall]
    exact (Text.replaceAll_append nonempty new _).symm
  | only hall hm =>
    rw [List.flatMap_cons, written_plain, written, substitute_of_not_mem verbatim, text_eq hinput hm,
      hall]
    exact (Text.replaceFirst_append w new _).symm

/-! ### Rules -/

theorem means_literal (ordinary : ∀ c ∈ text.toList, IsOrdinary c) (slashless : '/' ∉ text.toList)
    (plain : ∀ c ∈ flags.toList, c ∈ "gmsuyd".toList) :
    Means ("/" ++ text ++ "/" ++ flags) (literal text.toList) (flags.toList.contains 'g') := by
  have hexpression : ("/" ++ text ++ "/" ++ flags).toList =
      [] ++ '/' :: (text.toList ++ '/' :: flags.toList) := by
    simp
  have hcut : Cut ("/" ++ text ++ "/" ++ flags).toList text.toList flags.toList := by
    rw [hexpression]
    exact .flagged List.not_mem_nil slashless fun h => absurd (plain _ h) (by decide)
  have hcased : (switches flags.toList).ignoreCase = false := by
    refine Bool.eq_false_iff.2 fun h => ?_
    exact absurd (plain _ (List.contains_iff_mem.1 h)) (by decide)
  have hsubset : "gmsuyd".toList ⊆ "gimsuyd".toList := by simp
  exact .mk hcut (fun c hc => hsubset (plain c hc))
    (Pattern.parse?_ordinary ⟨hcased, rfl⟩ ordinary)

/-- A rule with a text for a pattern, whose characters mean nothing in patterns, puts its replacement in
    the place of that text: everywhere with the flag `g`, and else where it occurs first. It leaves a
    text alone in which that does not occur. -/
theorem apply_literal (nonempty : text ≠ "") (ordinary : ∀ c ∈ text.toList, IsOrdinary c)
    (slashless : '/' ∉ text.toList) (plain : ∀ c ∈ flags.toList, c ∈ "gmsuyd".toList)
    {replacement : String} (verbatim : '$' ∉ replacement.toList) (input : String) :
    (⟨"/" ++ text ++ "/" ++ flags, replacement⟩ : Rule).apply input =
        .ok (.ofList (if 'g' ∈ flags.toList
          then Text.replaceAll text.toList replacement.toList input.toList
          else Text.replaceFirst text.toList replacement.toList input.toList)) ∧
      (¬ text.toList <:+: input.toList →
        (⟨"/" ++ text ++ "/" ++ flags, replacement⟩ : Rule).apply input = .ok input) := by
  have hnonempty : text.toList ≠ [] := by simpa using nonempty
  have hmeans : Means (⟨"/" ++ text ++ "/" ++ flags, replacement⟩ : Rule).expression
      (literal text.toList) (flags.toList.contains 'g') := means_literal ordinary slashless plain
  have hcuts := Pattern.cuts_parts (literal text.toList) (flags.toList.contains 'g') input.toList
  rw [hmeans.apply, replace_eq]
  refine ⟨?_, fun absent => ?_⟩
  · rw [written_of_cuts hnonempty verbatim (List.nil_append _).symm hcuts]
    simp [replaced]
  · have unmatched : ∀ i j, ¬ (literal text.toList).Spans input.toList i j := by
      intro i j hspans
      obtain ⟨hstart, -⟩ := Pattern.spans_literal.1 hspans
      exact absent (hstart.isInfix.trans (List.drop_suffix i _).isInfix)
    rw [hcuts.eq_plain fun i _ => unmatched i, written_plain, String.ofList_toList]

/-- Occurrences may overlap, and characters may take several bytes. -/
theorem apply_literal_overlapping :
    (∀ c ∈ "aéa".toList, IsOrdinary c) ∧ '/' ∉ "aéa".toList ∧
      (⟨"/" ++ "aéa" ++ "/" ++ "gys", "-é"⟩ : Rule).apply "aéaéaéa!aéa" = .ok "-éé-é!-é" ∧
      (⟨"/" ++ "aéa" ++ "/" ++ "gys", "-é"⟩ : Rule).apply "aéé" = .ok "aéé" := by
  have ordinary : ∀ c ∈ "aéa".toList, IsOrdinary c := by
    simp [IsOrdinary]
  have slashless : '/' ∉ "aéa".toList := by decide
  have plain : ∀ c ∈ "gys".toList, c ∈ "gmsuyd".toList := by simp
  have verbatim : '$' ∉ "-é".toList := by decide
  obtain ⟨hreplaced, -⟩ := apply_literal (by decide) ordinary slashless plain verbatim "aéaéaéa!aéa"
  obtain ⟨-, habsent⟩ := apply_literal (by decide) ordinary slashless plain verbatim "aéé"
  refine ⟨ordinary, slashless, ?_, habsent ?_⟩
  · rw [hreplaced]
    exact congrArg Except.ok (by decide +kernel)
  · rw [← Text.occursIn_iff]
    decide

end Rule
end StartPage
