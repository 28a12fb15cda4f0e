import StartPage.Entry
import StartPage.Proofs.Address
import StartPage.Proofs.Form
import StartPage.Proofs.Template
import StartPage.Proofs.Url.Reread

/-!
    What becomes of the words typed after a query whose template ends in its only slot, after the
    question mark. They arrive in the address as they were typed: what stands after the address of
    the template decodes to them. Without a scheme in the template, a star or an exclamation mark
    among them makes the whole no address.

        x.org/?q=${}   and   it's (1/2)   ──▶   https://x.org/?q=it%27s+(1%2F2)   -/

namespace StartPage

namespace Form

theorem spared_of_isEncoded {c : Char} (h : isEncoded c = true) : 0x20 < c.toNat ∧ c ≠ '#' := by
  have hlookup : (!isEncoded c || decide (0x20 < c.toNat ∧ c ≠ '#')) = true :=
    Ascii.forall_of_lookup (p := fun c => !isEncoded c || decide (0x20 < c.toNat ∧ c ≠ '#'))
      (by decide +kernel) (lt_of_isEncoded h)
  simpa [h] using hlookup

/-- The two marks that stand for themselves in an encoded text and may not stand in a path. -/
def isAwkward (c : Char) : Bool := c == '!' || c == '*'

theorem all_isPathChar_encodeChar (c : Char) :
    (encodeChar c).all Address.isPathChar = !isAwkward c := by
  have hbyte : ∀ d ∈ Url.byteChars, Address.isPathChar d = true := Ascii.forall_mem (by decide)
  have hbytes : (Url.encodeBytes c).all Address.isPathChar = true :=
    List.all_eq_true.2 fun d hd => hbyte d (Url.mem_encodeBytes hd)
  unfold encodeChar
  split
  · next hblank =>
    subst hblank
    decide
  split
  · next hplain =>
    have hlookup : (!isPlain c || (Address.isPathChar c == !isAwkward c)) = true :=
      Ascii.forall_of_lookup (p := fun c => !isPlain c || (Address.isPathChar c == !isAwkward c))
        (by decide +kernel) (lt_of_isPlain hplain)
    simpa [hplain] using hlookup
  · next hplain =>
    have hawkward : isAwkward c = false := by
      refine Bool.eq_false_iff.2 fun hmark => hplain ?_
      rcases Bool.or_eq_true_iff.1 hmark with hc | hc
      · rw [eq_of_beq hc]
        decide
      · rw [eq_of_beq hc]
        decide
    rw [hbytes, hawkward]
    rfl

/-- An encoded text may stand in a path if none of the two marks was in the text. -/
theorem all_isPathChar_encode (s : String) :
    (encode s).toList.all Address.isPathChar = !s.toList.any isAwkward := by
  rw [encode, String.toList_ofList]
  induction s.toList with
  | nil => rfl
  | cons c r ih => rw [List.flatMap_cons, List.all_append, all_isPathChar_encodeChar, ih,
      List.any_cons, Bool.not_or]

end Form

namespace Entry

/-- The words of the query: all that were typed but a request for a new context at the end. -/
def wordsFor (words : List String) : List String :=
  if words.getLast? = some Template.blankWord then words.dropLast else words

end Entry

/-- Words that were typed fill the template. -/
theorem Template.expand_of_given [Pattern.Reader] {word : String} (given : word ≠ "" ∧ word ≠ blankWord)
    (content keyword : String) (rule : Rule) (rest : List String) :
    expand content keyword rule (word :: rest) =
      (fill content rule (Entry.wordsFor (word :: rest))).map fun location =>
        .target location ((word :: rest).getLast? == some blankWord) := by
  have hbare : isBare (word :: rest) = false := by
    simp [isBare, given]
  have hblank : takeBlank (word :: rest) =
      (Entry.wordsFor (word :: rest), (word :: rest).getLast? == some blankWord) := by
    unfold takeBlank Entry.wordsFor
    split
    · next hlast => rw [hlast, beq_self_eq_true]
    · next hlast => rw [beq_false_of_ne hlast]
  rw [expand, if_neg (by rw [hbare]; exact Bool.false_ne_true), hblank]
  dsimp only
  cases fill content rule (Entry.wordsFor (word :: rest)) with
  | error f => rfl
  | ok location => rfl

/-- A query whose template ends in its only slot, after a question mark and with no fragment. -/
structure Entry.AsksAfter (e : Entry) (base : String) (rule : Rule) : Prop where
  query : ∃ keyword, e.kind = .query keyword rule
  content : e.content = base ++ String.ofList Template.slot
  asks : '?' ∈ base.toList
  unmarked : '#' ∉ base.toList
  unslotted : '$' ∉ base.toList

namespace Entry

variable {e : Entry} {base : String} {rule : Rule}

/-- The template is filled at its end with what the rule makes of the words. -/
theorem AsksAfter.expand {word : String} (h : e.AsksAfter base rule) (rest : List String)
    (given : word ≠ "" ∧ word ≠ Template.blankWord) :
    e.expand (word :: rest) =
      (rule.apply (" ".intercalate (wordsFor (word :: rest)))).map fun t =>
        .target (base ++ Form.encode t) ((word :: rest).getLast? == some Template.blankWord) := by
  obtain ⟨keyword, hkind⟩ := h.query
  rw [Entry.expand, hkind]
  dsimp only
  rw [Template.expand_of_given given, h.content, Template.fill_append_slot h.unslotted]
  cases rule.apply (" ".intercalate (wordsFor (word :: rest))) with
  | error f => rfl
  | ok t => rfl

theorem execute_of_expand {words : List String} {location : String} {newContext : Bool}
    (h : e.expand words = .ok (.target location newContext)) :
    e.execute words =
      match Address.resolve location with
      | .error f => (e, .ofFault f)
      | .ok u => ({ e with hits := e.hits + 1 }, .navigate u.href newContext) := by
  cases hurl : Address.resolve location with
  | error f => simp only [execute, h, hurl]
  | ok u => simp only [execute, h, hurl]

/-- The encoded words go to the query of the address, in which apostrophes are written as bytes. -/
theorem query_encode (typed : String) :
    String.ofList (Url.encode Url.inQuery (Form.encode typed).toList) =
      Form.inQuery (Form.encode typed) := by
  rw [Form.encode_inQuery, String.ofList_toList]

/-! ### Templates with a scheme -/

/-- Typed words arrive: they stand, encoded, behind the address of the template and nowhere else, and
    decoding gives back what the rule made of them. -/
theorem typed_arrives {typed : String} {u : Url} (word : String) (rest : List String)
    (h : e.AsksAfter base rule)
    (named : Address.NamesScheme base.toList) (ends : base.toList.getLast? = some '=')
    (resolves : Address.resolve base = .ok u) (given : word ≠ "" ∧ word ≠ "_blank")
    (applied : rule.apply (" ".intercalate (wordsFor (word :: rest))) = .ok typed) :
    e.execute (word :: rest) =
        ({ e with hits := e.hits + 1 },
          .navigate (u.href ++ Form.inQuery (Form.encode typed))
            ((word :: rest).getLast? == some "_blank")) ∧
      Url.ofUtf8? (Form.decode (Form.inQuery (Form.encode typed))) = some typed.toList := by
  have hexpand := h.expand rest given
  rw [applied] at hexpand
  have hends : ∀ c ∈ base.toList.getLast?, 0x20 < c.toNat := by
    intro c hc
    rw [← Option.some.inj (ends.symm.trans hc)]
    decide
  obtain ⟨v, hv, hhref⟩ := Address.resolve_append_of_named resolves named h.asks h.unmarked hends
    fun c hc => Form.spared_of_isEncoded (Form.isEncoded_of_mem_encode hc)
  refine ⟨?_, ?_⟩
  · rw [execute_of_expand hexpand, hv]
    dsimp only
    rw [hhref, query_encode]
    rfl
  · rw [Form.decode_inQuery_encode, Url.ofUtf8?_bytes]

/-- A query with its words at the end. -/
def search (base : String) (rule : Rule) : Entry :=
  (Entry.query "search" "s" (base ++ "$\x7b\x7d")).setRule rule

theorem asksAfter_search {base : String} (rule : Rule) (asks : '?' ∈ base.toList)
    (unmarked : '#' ∉ base.toList) (unslotted : '$' ∉ base.toList) :
    (search base rule).AsksAfter base rule :=
  ⟨⟨_, rfl⟩, rfl, asks, unmarked, unslotted⟩

/-- Blanks are written as commas. -/
def commas : Rule := ⟨"/ /g", ","⟩

theorem typed_arrives_commas :
    Address.NamesScheme "http://[::1]:80/a/../?q=".toList ∧
      commas.apply "it\x27s a ü" = .ok "it\x27s,a,ü" ∧
      (search "http://[::1]:80/a/../?q=" commas).execute ["it\x27s", "a", "ü", "_blank"] =
        ({ search "http://[::1]:80/a/../?q=" commas with hits := 1 },
          .navigate "http://[::1]/?q=it%27s%2Ca%2C%C3%BC" true) ∧
      Url.ofUtf8? (Form.decode "it%27s%2Ca%2C%C3%BC") = some "it\x27s,a,ü".toList := by
  have named : Address.NamesScheme "http://[::1]:80/a/../?q=".toList := .inl (by decide)
  have resolves : Address.resolve "http://[::1]:80/a/../?q=" =
      .ok ⟨.http, [], [], .ipv6 [0, 0, 0, 0, 0, 0, 0, 1], none, [[]], some "q=".toList, none⟩ :=
    Fault.eq_ok_of_toOption (by decide +kernel)
  have applied : commas.apply "it\x27s a ü" = .ok "it\x27s,a,ü" :=
    Fault.eq_ok_of_toOption (by decide +kernel)
  obtain ⟨hexecute, hdecode⟩ := typed_arrives "it\x27s" ["a", "ü", "_blank"]
    (asksAfter_search commas (by decide) (by decide) (by decide)) named (by decide) resolves
    (by decide) applied
  have hsent : Form.inQuery (Form.encode "it\x27s,a,ü") = "it%27s%2Ca%2C%C3%BC" := by
    decide +kernel
  rw [hsent] at hexecute hdecode
  exact ⟨named, applied, hexecute, hdecode⟩

/-! ### Templates without a scheme -/

/-- Without a scheme in the template the words arrive just if there is no star and no exclamation mark
    among them; otherwise the whole is no address. -/
theorem typed_arrives_unnamed {typed : String} {u : Url} (word : String) (rest : List String)
    (h : e.AsksAfter base rule)
    (unruled : rule.expression = "") (unnamed : ¬ Address.NamesScheme base.toList)
    (resolves : Address.resolve base = .ok u) (given : word ≠ "" ∧ word ≠ "_blank")
    (joined : " ".intercalate (wordsFor (word :: rest)) = typed) :
    e.execute (word :: rest) =
      if typed.toList.any Form.isAwkward then
        (e, .ofFault (.unresolvable (base ++ Form.encode typed)))
      else
        ({ e with hits := e.hits + 1 },
          .navigate (u.href ++ Form.inQuery (Form.encode typed))
            ((word :: rest).getLast? == some "_blank")) := by
  have happlied : rule.apply typed = .ok typed := by simp [Rule.apply, unruled]
  have hexpand := h.expand rest given
  rw [joined, happlied] at hexpand
  have hmark : '#' ∉ (Form.encode typed).toList := fun hmem =>
    (Form.spared_of_isEncoded (Form.isEncoded_of_mem_encode hmem)).2 rfl
  have hresolve := Address.resolve_append_of_unnamed resolves unnamed h.asks h.unmarked hmark
  rw [Form.all_isPathChar_encode] at hresolve
  rw [execute_of_expand hexpand]
  cases hawkward : typed.toList.any Form.isAwkward with
  | true =>
    have hnone : Address.resolve (base ++ Form.encode typed) =
        .error (.unresolvable (base ++ Form.encode typed)) := by simpa [hawkward] using hresolve
    rw [hnone]
    rfl
  | false =>
    obtain ⟨v, hv, hhref⟩ : ∃ v, Address.resolve (base ++ Form.encode typed) = .ok v ∧
        v.href = u.href ++ String.ofList (Url.encode Url.inQuery (Form.encode typed).toList) := by
      simpa [hawkward] using hresolve
    rw [hv]
    dsimp only
    rw [hhref, query_encode]
    rfl

/-- The address of the site itself. -/
def site : Url :=
  ⟨.https, [], [], .name "example.com".toList, none, [[]], some "q=".toList, none⟩

theorem resolve_site : Address.resolve "example.com/?q=" = .ok site := by
  have hhost : Host.parse? "example.com".toList = some (.name "example.com".toList) :=
    Host.parse?_plain (Ascii.forall_mem (by decide +kernel)) (by unfold Url.Idna.IsUncoded; decide) (by decide)
      (by decide +kernel)
  have hsite : Url.site? .https "example.com".toList =
      some ⟨.https, [], [], .name "example.com".toList, none, [], none, none⟩ :=
    Url.site?_of_host (Ascii.forall_mem (by decide)) (by decide) hhost
  have hparse : Url.parse? .https "//example.com/?q=".toList = some site := by
    rw [@Url.parse?_eq .https "//example.com/?q=".toList "example.com".toList "/".toList "?q=".toList
      (by decide) (Ascii.forall_mem (by decide)) (Ascii.forall_mem (by decide))
      (by rintro c ⟨⟩; rfl) (by rintro c ⟨⟩; rfl), hsite]
    decide
  exact Address.resolve_eq_ok.2 (.inr ⟨by decide, by decide +kernel, hparse⟩)

theorem typed_arrives_unnamed_parenthesis :
    Address.resolve "example.com/?q=" = .ok site ∧
      (search "example.com/?q=" .none).execute ["it\x27s", "(1/2)"] =
        ({ search "example.com/?q=" .none with hits := 1 },
          .navigate "https://example.com/?q=it%27s+(1%2F2)" false) := by
  have hexecute := typed_arrives_unnamed "it\x27s" ["(1/2)"]
    (asksAfter_search .none (by decide) (by decide) (by decide)) rfl
    (by rw [Address.namesScheme_iff]; decide) resolve_site (by decide) rfl
  exact ⟨resolve_site, hexecute.trans (by decide +kernel)⟩

/-- A star alone makes it no address. -/
theorem typed_arrives_unnamed_star :
    ¬ Address.NamesScheme "example.com/?q=".toList ∧
      Address.resolve "example.com/?q=" = .ok site ∧
      (search "example.com/?q=" .none).execute ["*"] =
        (search "example.com/?q=" .none,
          .error "Failed to execute file. Attempted URL was: example.com/?q=*") :=
  ⟨by rw [Address.namesScheme_iff]; decide, resolve_site, by decide +kernel⟩

end Entry
end StartPage
