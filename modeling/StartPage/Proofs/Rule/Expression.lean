import StartPage.Proofs.Text
import StartPage.Rule

/-!
    What an expression stands for, and what is wrong with one that stands for nothing. The flags are
    looked at before the pattern, from the left; what comes before the first slash and after the third
    means nothing.

        s/a+/gi/x     pattern  a+ ,  flags  gi
        /a+           pattern  a+ ,  no flags
        /(/xyz        the flag  x  is wrong, and the pattern is not looked at    -/

namespace StartPage.Rule

variable {expression : String} {lead pattern flags : List Char} {f : Fault}

/-! ### Slashes -/

/-- The pattern and the flags between the first three slashes of a text. -/
inductive Cut : List Char → List Char → List Char → Prop
  | unflagged {lead pattern : List Char} (hlead : '/' ∉ lead) (hpattern : '/' ∉ pattern) :
      Cut (lead ++ '/' :: pattern) pattern []
  | flagged {lead pattern flags : List Char} (hlead : '/' ∉ lead) (hpattern : '/' ∉ pattern)
      (hflags : '/' ∉ flags) : Cut (lead ++ '/' :: (pattern ++ '/' :: flags)) pattern flags
  | longer {lead pattern flags rest : List Char} (hlead : '/' ∉ lead) (hpattern : '/' ∉ pattern)
      (hflags : '/' ∉ flags) :
      Cut (lead ++ '/' :: (pattern ++ '/' :: (flags ++ '/' :: rest))) pattern flags

theorem fields_append_slash (hlead : '/' ∉ lead) (rest : List Char) :
    Text.fields '/' (lead ++ '/' :: rest) = lead :: Text.fields '/' rest :=
  Text.splitBy_append_cons rfl rest fun _ hc => beq_false_of_ne fun heq => hlead (heq ▸ hc)

theorem fields_of_no_slash (hlead : '/' ∉ lead) : Text.fields '/' lead = [lead] :=
  Text.splitBy_of_none fun _ hc => beq_false_of_ne fun heq => hlead (heq ▸ hc)

theorem parts?_of_no_slash (h : '/' ∉ expression.toList) : parts? expression = Option.none := by
  rw [parts?, fields_of_no_slash h]

theorem Cut.parts? (h : Cut expression.toList pattern flags) :
    parts? expression = some (pattern, flags) := by
  rw [Rule.parts?]
  generalize expression.toList = text at h
  cases h with
  | unflagged hlead hpattern => rw [fields_append_slash hlead, fields_of_no_slash hpattern]
  | flagged hlead hpattern hflags =>
    rw [fields_append_slash hlead, fields_append_slash hpattern, fields_of_no_slash hflags]
  | longer hlead hpattern hflags =>
    rw [fields_append_slash hlead, fields_append_slash hpattern, fields_append_slash hflags]

theorem exists_cut {text : List Char} (h : '/' ∈ text) : ∃ pattern flags, Cut text pattern flags := by
  obtain ⟨lead, after, rfl, hlead⟩ := List.eq_append_cons_of_mem h
  by_cases hafter : '/' ∈ after
  · obtain ⟨pattern, later, rfl, hpattern⟩ := List.eq_append_cons_of_mem hafter
    by_cases hlater : '/' ∈ later
    · obtain ⟨flags, rest, rfl, hflags⟩ := List.eq_append_cons_of_mem hlater
      exact ⟨pattern, flags, .longer hlead hpattern hflags⟩
    · exact ⟨pattern, later, .flagged hlead hpattern hlater⟩
  · exact ⟨after, [], .unflagged hlead hafter⟩

/-! ### Flags -/

theorem isFlag_iff {c : Char} : isFlag c = true ↔ c ∈ "gimsuyd".toList :=
  List.contains_iff_mem

theorem find?_flag_eq_none :
    flags.find? (!isFlag ·) = Option.none ↔ ∀ c ∈ flags, c ∈ "gimsuyd".toList := by
  simp only [List.find?_eq_none, Bool.not_eq_true', Bool.not_eq_false, isFlag_iff]

theorem find?_flag_eq_some {c : Char} :
    flags.find? (!isFlag ·) = some c ↔ c ∉ "gimsuyd".toList ∧
      ∃ good later, flags = good ++ c :: later ∧ ∀ d ∈ good, d ∈ "gimsuyd".toList := by
  simp only [List.find?_eq_some_iff_append, Bool.not_eq_true', Bool.not_not, isFlag_iff,
    ← Bool.not_eq_true]

/-! ### Patterns

    Whatever the language of patterns is: of a pattern only the outcome of reading it is used. -/

variable [Pattern.Reader]

/-- The pattern that an expression stands for, and whether it asks for all matches. -/
inductive Means (expression : String) : Pattern → Bool → Prop
  | mk {pattern flags : List Char} {p : Pattern} (hcut : Cut expression.toList pattern flags)
      (hflags : ∀ c ∈ flags, c ∈ "gimsuyd".toList)
      (hp : Pattern.Reader.read? (switches flags) pattern = some p) :
      Means expression p (flags.contains 'g')

/-- What is wrong with an expression: it has no slash, some first flag that is none, or else a malformed
    pattern. -/
inductive Fails (expression : String) : Fault → Prop
  | noPattern (h : '/' ∉ expression.toList) : Fails expression (.noPattern expression)
  | badFlag {pattern good later : List Char} {c : Char}
      (hcut : Cut expression.toList pattern (good ++ c :: later))
      (hgood : ∀ d ∈ good, d ∈ "gimsuyd".toList) (hc : c ∉ "gimsuyd".toList) :
      Fails expression (.badFlag c expression)
  | badPattern {pattern flags : List Char} (hcut : Cut expression.toList pattern flags)
      (hflags : ∀ c ∈ flags, c ∈ "gimsuyd".toList)
      (hp : Pattern.Reader.read? (switches flags) pattern = Option.none) :
      Fails expression (.badPattern expression)

theorem Means.compile {p : Pattern} {all : Bool} (h : Means expression p all) :
    compile expression = .ok ⟨p.program, all⟩ := by
  cases h with
  | mk hcut hflags hp =>
    rw [Rule.compile, hcut.parts?]
    dsimp only
    rw [find?_flag_eq_none.2 hflags]
    dsimp only
    rw [hp]

theorem Fails.compile (h : Fails expression f) : compile expression = .error f := by
  cases h with
  | noPattern hslash => rw [Rule.compile, parts?_of_no_slash hslash]
  | badFlag hcut hgood hc =>
    rw [Rule.compile, hcut.parts?]
    dsimp only
    rw [find?_flag_eq_some.2 ⟨hc, _, _, rfl, hgood⟩]
  | badPattern hcut hflags hp =>
    rw [Rule.compile, hcut.parts?]
    dsimp only
    rw [find?_flag_eq_none.2 hflags]
    dsimp only
    rw [hp]

theorem means_or_fails (expression : String) :
    (∃ p all, Means expression p all) ∨ ∃ f, Fails expression f := by
  by_cases hslash : '/' ∈ expression.toList
  · obtain ⟨pattern, flags, hcut⟩ := exists_cut hslash
    cases hfind : flags.find? (!isFlag ·) with
    | some c =>
      obtain ⟨hc, good, later, rfl, hgood⟩ := find?_flag_eq_some.1 hfind
      exact .inr ⟨_, .badFlag hcut hgood hc⟩
    | none =>
      have hflags := find?_flag_eq_none.1 hfind
      cases hp : Pattern.Reader.read? (switches flags) pattern with
      | none => exact .inr ⟨_, .badPattern hcut hflags hp⟩
      | some p => exact .inl ⟨p, _, .mk hcut hflags hp⟩
  · exact .inr ⟨_, .noPattern hslash⟩

/-- An expression is made ready unless there is something wrong with it, and that is the fault. -/
theorem compile_eq_error_iff : compile expression = .error f ↔ Fails expression f := by
  refine ⟨fun h => ?_, Fails.compile⟩
  rcases means_or_fails expression with ⟨p, all, hmeans⟩ | ⟨f', hfails⟩
  · rw [hmeans.compile] at h
    cases h
  · rw [hfails.compile] at h
    cases h
    exact hfails

/-! ### Applying -/

theorem apply_of_empty {rule : Rule} (h : rule.expression = "") (input : String) :
    rule.apply input = .ok input := by
  rw [apply, h]
  exact if_pos rfl

theorem apply_of_ne {rule : Rule} (h : rule.expression ≠ "") (input : String) :
    rule.apply input = (compile rule.expression).map fun ready =>
      .ofList (ready.program.replace ready.all (substitute · rule.replacement.toList)
        input.toList) := by
  have hnonempty : ¬ rule.expression.isEmpty = true := by rwa [String.isEmpty_iff]
  rw [apply, if_neg hnonempty]
  cases compile rule.expression with
  | error f => rfl
  | ok ready => rfl

theorem Means.ne_empty {p : Pattern} {all : Bool} (h : Means expression p all) :
    expression ≠ "" := by
  rintro rfl
  have hcompile := h.compile
  rw [Fails.compile (.noPattern (by decide))] at hcompile
  cases hcompile

theorem Means.apply {rule : Rule} {p : Pattern} {all : Bool} (h : Means rule.expression p all)
    (input : String) :
    rule.apply input = .ok (.ofList (p.program.replace all (substitute · rule.replacement.toList)
      input.toList)) := by
  rw [apply_of_ne h.ne_empty, h.compile]
  rfl

end StartPage.Rule
