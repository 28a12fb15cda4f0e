import StartPage.Proofs.Pattern.Parts
import StartPage.Proofs.Rule.Expression
import StartPage.Proofs.Rule.Reading

/-!
    What rules leave alone. A rule that can be applied cuts every text into matches and the characters
    outside them, and only the matches are written anew. Hence nothing changes when a match is
    replaced by itself, or when there is none.

        /b*/g   and   [$&]    x b b y   ──▶   [] x [bb] y []     -/

namespace StartPage.Rule

open Pattern (Cuts Part)

variable {expression : String} {text : List Char}

/-- The expression asks for all matches. -/
def asksForAll (expression : String) : Bool := (parts? expression).any (·.2.contains 'g')

/-! ### Parts that are written anew -/

/-- What is written in the place of a part. -/
def written (replacement : List Char) : Part → List Char
  | .plain c => [c]
  | .hit m => substitute m replacement

theorem replace_eq (p : Pattern.Program) (all : Bool) (replacement input : List Char) :
    p.replace all (substitute · replacement) input =
      (p.parts all input).flatMap (written replacement) :=
  rfl

theorem written_plain (replacement cs : List Char) :
    (cs.map Part.plain).flatMap (written replacement) = cs := by
  induction cs with
  | nil => rfl
  | cons c r ih => rw [List.map_cons, List.flatMap_cons, ih, written, List.singleton_append]

theorem written_itself : written ['$', '&'] = Part.source := by
  funext part
  cases part with
  | plain c => rfl
  | hit m => rw [written, substitute_named .text, substitute, List.append_nil, Part.source]

section Reader

/-! ### Expressions that are accepted

    Whatever the language of patterns is. -/

variable [Pattern.Reader]

/-- The pattern of an expression matches in a text from one place to another. The empty expression has
    no pattern. -/
def Matches (expression : String) (text : List Char) (i j : Nat) : Prop :=
  ∃ p all, Means expression p all ∧ p.Spans text i j

/-- A rule with this expression can be applied to some text. -/
def IsAccepted (expression : String) : Prop :=
  ∃ replacement input output, (⟨expression, replacement⟩ : Rule).apply input = .ok output

theorem IsAccepted.means (h : IsAccepted expression) :
    expression = "" ∨ ∃ p all, Means expression p all := by
  obtain ⟨replacement, input, output, happly⟩ := h
  by_cases hempty : expression = ""
  · exact .inl hempty
  · refine .inr ((means_or_fails expression).resolve_right ?_)
    rintro ⟨f, hfails⟩
    rw [apply_of_ne hempty, hfails.compile] at happly
    cases happly

theorem Means.asksForAll {p : Pattern} {all : Bool} (h : Means expression p all) :
    asksForAll expression = all := by
  cases h with
  | mk hcut => rw [Rule.asksForAll, hcut.parts?, Option.any_some]

/-- An expression stands for one pattern. -/
theorem Means.unique {p q : Pattern} {all also : Bool} (hp : Means expression p all)
    (hq : Means expression q also) : q = p := by
  cases hp with
  | mk hcut hflags hparse =>
    cases hq with
    | mk hcut' hflags' hparse' =>
      have hparts := hcut.parts?
      rw [hcut'.parts?] at hparts
      cases hparts
      exact Option.some.inj (hparse'.symm.trans hparse)

theorem Means.matches_eq {p : Pattern} {all : Bool} (h : Means expression p all)
    (text : List Char) : Matches expression text = p.Spans text := by
  funext i j
  refine propext ⟨?_, fun hspans => ⟨p, all, h, hspans⟩⟩
  rintro ⟨q, also, hq, hspans⟩
  rwa [h.unique hq] at hspans

theorem not_matches_empty (text : List Char) (i j : Nat) : ¬ Matches "" text i j := by
  rintro ⟨p, all, hmeans, -⟩
  exact hmeans.ne_empty rfl

/-- A text is cut in one way, whatever matches are replaced by. -/
theorem IsAccepted.exists_parts (h : IsAccepted expression) (input : String) :
    ∃ parts, Cuts (Matches expression input.toList) (asksForAll expression) true [] input.toList parts ∧
      ∀ replacement, (⟨expression, replacement⟩ : Rule).apply input =
        .ok (.ofList (parts.flatMap (written replacement.toList))) := by
  rcases h.means with rfl | ⟨p, all, hmeans⟩
  · refine ⟨_, Pattern.cuts_plain (not_matches_empty _) [] input.toList, fun replacement => ?_⟩
    rw [apply_of_empty rfl, written_plain, String.ofList_toList]
  · refine ⟨p.program.parts all input.toList, ?_, fun replacement => ?_⟩
    · rw [hmeans.matches_eq, hmeans.asksForAll]
      exact Pattern.cuts_parts p all input.toList
    · have hmeans' : Means (⟨expression, replacement⟩ : Rule).expression p all := hmeans
      rw [hmeans'.apply, replace_eq]

/-- A rule that can be applied writes its matches anew and nothing else: a match that is replaced by
    itself makes no difference, and neither does a rule that does not match. -/
theorem apply_keeps_rest (accepted : IsAccepted expression) (input : String) :
    (⟨expression, "$&"⟩ : Rule).apply input = .ok input ∧
      ((∀ i ≤ input.toList.length, ∀ j, ¬ Matches expression input.toList i j) →
        ∀ replacement, (⟨expression, replacement⟩ : Rule).apply input = .ok input) ∧
      ∃ parts,
        Cuts (Matches expression input.toList) (asksForAll expression) true [] input.toList parts ∧
          ∀ replacement, (⟨expression, replacement⟩ : Rule).apply input =
            .ok (.ofList (parts.flatMap (written replacement.toList))) := by
  obtain ⟨parts, hcuts, happly⟩ := accepted.exists_parts input
  refine ⟨?_, fun unmatched replacement => ?_, parts, hcuts, happly⟩
  · have hsame : written "$&".toList = Part.source := written_itself
    rw [happly, hsame, hcuts.sources, String.ofList_toList]
  · have hplain := hcuts.eq_plain (fun i hi => unmatched i (by simpa using hi))
    rw [happly, hplain, written_plain, String.ofList_toList]

end Reader

/-- At the end of every line, so many of one letter and then another. -/
def lineEnds : String := "/b*é$/gm"

theorem means_lineEnds :
    Means lineEnds (.seq (.loop (.one (CharSet.single 'b')) 0 Option.none true)
      (.seq (.one (CharSet.single 'é')) (.anchor .lineEnd))) true := by
  have hcut : Cut ([] ++ '/' :: (['b', '*', 'é', '$'] ++ '/' :: ['g', 'm'])) ['b', '*', 'é', '$']
      ['g', 'm'] := .flagged (by decide) (by decide) (by decide)
  have htext : lineEnds.toList = [] ++ '/' :: (['b', '*', 'é', '$'] ++ '/' :: ['g', 'm']) := rfl
  rw [← htext] at hcut
  exact .mk hcut (by simp) rfl

theorem apply_keeps_rest_lineEnds :
    IsAccepted lineEnds ∧
      (⟨lineEnds, "$&"⟩ : Rule).apply "é\nbbé" = .ok "é\nbbé" ∧
      (∀ i ≤ "bé!".toList.length, ∀ j, ¬ Matches lineEnds "bé!".toList i j) ∧
      (⟨lineEnds, "$1"⟩ : Rule).apply "bé!" = .ok "bé!" := by
  have accepted : IsAccepted lineEnds :=
    ⟨"", "", "", Fault.eq_ok_of_toOption (by decide +kernel)⟩
  have unmatched : ∀ i ≤ "bé!".toList.length, ∀ j, ¬ Matches lineEnds "bé!".toList i j := by
    intro i _ j hmatch
    rw [means_lineEnds.matches_eq] at hmatch
    obtain ⟨k, -, l, ⟨⟨c, hc, hset⟩, rfl⟩, hend, -⟩ := hmatch
    rw [CharSet.contains_single, beq_iff_eq] at hset
    subst hset
    obtain ⟨hlt, -⟩ := List.getElem?_eq_some_iff.1 hc
    have honly : ∀ k < 3, "bé!".toList[k]? = some 'é' → k = 1 := by decide
    rw [honly k hlt hc] at hend
    exact absurd hend (by decide)
  obtain ⟨hitself, -⟩ := apply_keeps_rest accepted "é\nbbé"
  obtain ⟨-, hunmatched, -⟩ := apply_keeps_rest accepted "bé!"
  exact ⟨accepted, hitself, unmatched, hunmatched unmatched "$1"⟩

end StartPage.Rule
