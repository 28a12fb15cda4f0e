import StartPage.Proofs.Rule.Expression
import StartPage.Proofs.Typed

/-!
    Rules that fail. What is wrong is wrong with the expression, so that a rule fails on every text or
    on none, and always in the same way. A query with such a rule does not get to an address, with one
    slot for all words or a slot for each; it still asks for words when there are none.

        /(/g     s: x     ──▶   Invalid expression '/(/g': ...
                 s:       ──▶   s:                                   -/

namespace StartPage

variable {rule : Rule} {f : Fault} {content keyword word : String} {words : List String}

theorem Template.wordsFor_ne_nil (given : word ≠ Template.blankWord) (rest : List String) :
    Entry.wordsFor (word :: rest) ≠ [] := by
  cases rest with
  | nil =>
    have hlast : [word].getLast? ≠ some blankWord := fun h => given (Option.some.inj h)
    rw [Entry.wordsFor, if_neg hlast]
    exact List.cons_ne_nil word []
  | cons w ws =>
    rw [Entry.wordsFor]
    split
    · exact List.cons_ne_nil word _
    · exact List.cons_ne_nil word _

section Reader

variable [Pattern.Reader]

theorem Rule.apply_eq_error_iff {input : String} :
    rule.apply input = .error f ↔ rule.expression ≠ "" ∧ Fails rule.expression f := by
  by_cases hempty : rule.expression = ""
  · rw [apply_of_empty hempty]
    exact ⟨nofun, fun h => absurd hempty h.1⟩
  · rw [apply_of_ne hempty, ← compile_eq_error_iff]
    refine ⟨fun h => ⟨hempty, ?_⟩, fun h => by rw [h.2]; rfl⟩
    cases hcompile : compile rule.expression with
    | error f' =>
      rw [hcompile] at h
      cases h
      rfl
    | ok ready =>
      rw [hcompile] at h
      cases h

/-! ### Queries with a rule that fails -/

namespace Template

/-- There is some text that the rule is applied to: the first word, or all words. -/
theorem fill_of_fails (fails : ∀ input, rule.apply input = .error f) (given : words ≠ [])
    (content : String) : fill content rule words = .error f := by
  rw [fill]
  split
  · cases words with
    | nil => exact absurd rfl given
    | cons w ws =>
      rw [fillNumbered, fails]
      rfl
  · rw [fails]
    rfl

theorem expand_of_fails (fails : ∀ input, rule.apply input = .error f)
    (given : word ≠ "" ∧ word ≠ blankWord) (content keyword : String) (rest : List String) :
    expand content keyword rule (word :: rest) = .error f := by
  rw [expand_of_given given, fill_of_fails fails (wordsFor_ne_nil given.2 rest)]
  rfl

theorem expand_of_bare (bare : ∀ word ∈ words.head?, word = "" ∨ word = blankWord)
    (content keyword : String) (rule : Rule) :
    expand content keyword rule words = .ok (.prompt (keyword ++ ": ")) := by
  have hbare : isBare words = true := by
    cases words with
    | nil => rfl
    | cons w ws => simpa [isBare, or_comm] using bare w rfl
  rw [expand, if_pos hbare]

end Template

namespace Entry

variable {e : Entry}

theorem execute_of_fails (hkind : e.kind = .query keyword rule)
    (fails : ∀ input, rule.apply input = .error f) (given : word ≠ "" ∧ word ≠ Template.blankWord)
    (rest : List String) : e.execute (word :: rest) = (e, .error f.message) := by
  have hinvalid : f.kind ≠ .conflict := by
    obtain ⟨-, h⟩ := Rule.apply_eq_error_iff.1 (fails "")
    cases h <;> nofun
  have hexpand : e.expand (word :: rest) = .error f := by
    rw [expand, hkind]
    exact Template.expand_of_fails fails given e.content keyword rest
  rw [execute, hexpand]
  dsimp only
  rw [Response.ofFault, if_neg hinvalid]

theorem execute_of_bare (hkind : e.kind = .query keyword rule)
    (bare : ∀ word ∈ words.head?, word = "" ∨ word = Template.blankWord) :
    e.execute words = (e, .updateInput (keyword ++ ": ")) := by
  have hexpand : e.expand words = .ok (.prompt (keyword ++ ": ")) := by
    rw [expand, hkind]
    exact Template.expand_of_bare bare e.content keyword rule
  rw [execute, hexpand]

end Entry

/-- A rule fails just for what is wrong with its expression, on every text or on none. A query with a
    rule that fails stays as it is and says what is wrong, unless it only asks for words. -/
theorem Rule.fails_by_expression (rule : Rule) :
    (∀ input f, rule.apply input = .error f ↔ rule.expression ≠ "" ∧ Fails rule.expression f) ∧
      (∀ input other f, rule.apply input = .error f ↔ rule.apply other = .error f) ∧
        ∀ (e : Entry) (keyword : String), e.kind = .query keyword rule →
          (∀ words : List String, (∀ word ∈ words.head?, word = "" ∨ word = "_blank") →
            e.execute words = (e, .updateInput (keyword ++ ": "))) ∧
          ∀ f, rule.expression ≠ "" → Fails rule.expression f →
            ∀ (word : String) (rest : List String), word ≠ "" → word ≠ "_blank" →
              e.execute (word :: rest) = (e, .error f.message) := by
  refine ⟨fun input f => apply_eq_error_iff, fun input other f => ?_, fun e keyword hkind => ⟨?_, ?_⟩⟩
  · rw [apply_eq_error_iff, apply_eq_error_iff]
  · exact fun words bare => Entry.execute_of_bare hkind bare
  · intro f hnonempty hfails word rest hword hblank
    have fails : ∀ input, rule.apply input = .error f :=
      fun input => apply_eq_error_iff.2 ⟨hnonempty, hfails⟩
    exact Entry.execute_of_fails hkind fails ⟨hword, hblank⟩ rest

end Reader

/-- Two flags that are none, and a pattern that is malformed; what follows the third slash means
    nothing. -/
def unruly : Rule := ⟨"s/(/gx?/z", "$1"⟩

/-- A query with a slot for each of two words. -/
def pair : Entry := (Entry.query "pair" "p" "example.com/$\x7b1\x7d/$\x7b2\x7d").setRule unruly

/-- The first of the two flags is named, and the pattern is not looked at. -/
theorem Rule.fails_by_expression_flag :
    unruly.expression ≠ "" ∧ Fails unruly.expression (.badFlag 'x' unruly.expression) ∧
      pair.execute ["é", "_blank"] = (pair, .error (Fault.badFlag 'x' unruly.expression).message) ∧
      pair.execute ["_blank", "é"] = (pair, .updateInput "p: ") := by
  have hnonempty : unruly.expression ≠ "" := by decide
  have hcut : Cut (['s'] ++ '/' :: (['('] ++ '/' :: (['g', 'x', '?'] ++ '/' :: ['z']))) ['(']
      (['g'] ++ 'x' :: ['?']) := .longer (by decide) (by decide) (by decide)
  have hfails : Fails unruly.expression (.badFlag 'x' unruly.expression) :=
    .badFlag hcut (List.forall_mem_singleton.2 (by decide)) (by decide)
  obtain ⟨-, -, hquery⟩ := fails_by_expression unruly
  obtain ⟨hprompts, hsays⟩ := hquery pair "p" (by decide)
  exact ⟨hnonempty, hfails, hsays _ hnonempty hfails "é" ["_blank"] (by decide) (by decide),
    hprompts ["_blank", "é"] (by decide)⟩

end StartPage
