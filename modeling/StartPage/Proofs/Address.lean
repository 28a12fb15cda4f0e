import StartPage.Address
import StartPage.Proofs.Ascii
import StartPage.Proofs.Url.Query

/-!
    Texts that stand for addresses, and what they stand for when more is written at their end. After
    a question mark, text that looks like an address goes on looking like one as long as the
    characters of paths follow.

        x.org/?q=   ++  a+b     looks like an address
        x.org/?q=   ++  a!      does not                  -/

namespace StartPage.Address

open Url (parse?)

/-! ### Schemes -/

theorem after?_eq_some {pat cs rest : List Char} :
    Text.after? pat cs = some rest ↔ cs = pat ++ rest :=
  ⟨Text.eq_append_of_after?, fun h => h ▸ Text.after?_append pat rest⟩

theorem isSome_after? {pat cs : List Char} : (Text.after? pat cs).isSome ↔ pat <+: cs := by
  rw [Option.isSome_iff_exists]
  exact exists_congr fun _ => after?_eq_some.trans eq_comm

/-- A pattern that does not hold a character of the text ends before what is written after it. -/
theorem prefix_of_append {c : Char} {pat cs more : List Char} (h : c ∈ cs) (hpat : c ∉ pat)
    (starts : pat <+: cs ++ more) : pat <+: cs := by
  rcases List.prefix_or_prefix_of_prefix starts (List.prefix_append cs more) with hp | hp
  · exact hp
  · exact absurd (hp.subset h) hpat

/-- What stands after the scheme and its colon; it starts with two slashes. -/
theorem scheme?_eq_some {cs rest : List Char} {scheme : Scheme} :
    scheme? cs = some (scheme, rest) ↔
      cs = scheme.text ++ ':' :: rest ∧ "//".toList <+: rest := by
  have hhttp : "http:".toList = Scheme.http.text ++ [':'] := by decide
  have hhttps : "https:".toList = Scheme.https.text ++ [':'] := by decide
  unfold scheme?
  constructor
  · intro h
    split at h
    · next r hr =>
      split at h
      · next hslashes =>
        cases h
        refine ⟨?_, isSome_after?.1 hslashes⟩
        rw [after?_eq_some.1 hr, hhttp, List.append_assoc, List.singleton_append]
      · cases h
    · split at h
      · next r hr =>
        split at h
        · next hslashes =>
          cases h
          refine ⟨?_, isSome_after?.1 hslashes⟩
          rw [after?_eq_some.1 hr, hhttps, List.append_assoc, List.singleton_append]
        · cases h
      · cases h
  · rintro ⟨rfl, hslashes⟩
    cases scheme with
    | http =>
      have hrest : Text.after? "http:".toList (Scheme.http.text ++ ':' :: rest) = some rest := by
        rw [after?_eq_some, hhttp, List.append_assoc, List.singleton_append]
      rw [hrest]
      exact if_pos (isSome_after?.2 hslashes)
    | https =>
      have hother : Text.after? "http:".toList (Scheme.https.text ++ ':' :: rest) = none := rfl
      have hrest : Text.after? "https:".toList (Scheme.https.text ++ ':' :: rest) = some rest := by
        rw [after?_eq_some, hhttps, List.append_assoc, List.singleton_append]
      rw [hother, hrest]
      exact if_pos (isSome_after?.2 hslashes)

/-- A text that names its scheme. -/
def NamesScheme (cs : List Char) : Prop := "http://".toList <+: cs ∨ "https://".toList <+: cs

theorem namesScheme_iff {cs : List Char} : NamesScheme cs ↔ (scheme? cs).isSome := by
  have hhttp : "http://".toList = Scheme.http.text ++ ':' :: "//".toList := by decide
  have hhttps : "https://".toList = Scheme.https.text ++ ':' :: "//".toList := by decide
  rw [NamesScheme, hhttp, hhttps, Option.isSome_iff_exists]
  constructor
  · rintro (⟨t, rfl⟩ | ⟨t, rfl⟩)
    · exact ⟨(.http, "//".toList ++ t), scheme?_eq_some.2 ⟨by simp, List.prefix_append ..⟩⟩
    · exact ⟨(.https, "//".toList ++ t), scheme?_eq_some.2 ⟨by simp, List.prefix_append ..⟩⟩
  · rintro ⟨⟨scheme, rest⟩, h⟩
    obtain ⟨rfl, t, rfl⟩ := scheme?_eq_some.1 h
    cases scheme with
    | http => exact .inl ⟨t, by simp⟩
    | https => exact .inr ⟨t, by simp⟩

theorem scheme?_append {cs rest : List Char} {scheme : Scheme} (h : scheme? cs = some (scheme, rest))
    (more : List Char) : scheme? (cs ++ more) = some (scheme, rest ++ more) := by
  obtain ⟨rfl, hslashes⟩ := scheme?_eq_some.1 h
  exact scheme?_eq_some.2 ⟨by simp, hslashes.trans (List.prefix_append rest more)⟩

/-- A text with a question mark does not come to name a scheme by what is written after it. -/
theorem scheme?_append_of_none {cs : List Char} (h : scheme? cs = none) (asks : '?' ∈ cs)
    (more : List Char) : scheme? (cs ++ more) = none := by
  refine Option.not_isSome_iff_eq_none.1 fun hsome => ?_
  have hnone : ¬ NamesScheme cs := by simp [namesScheme_iff, h]
  rcases namesScheme_iff.2 hsome with hp | hp
  · exact hnone (.inl (prefix_of_append asks (by decide) hp))
  · exact hnone (.inr (prefix_of_append asks (by decide) hp))

theorem resolve_eq_ok {raw : String} {u : Url} :
    resolve raw = .ok u ↔
      (∃ scheme rest, scheme? raw.toList = some (scheme, rest) ∧ parse? scheme rest = some u) ∨
      (scheme? raw.toList = none ∧ looksLikeAddress raw.toList = true ∧
        parse? .https ("//".toList ++ raw.toList) = some u) := by
  unfold resolve
  dsimp only
  cases hscheme : scheme? raw.toList with
  | some found =>
    obtain ⟨scheme, rest⟩ := found
    cases hurl : parse? scheme rest with
    | none => simp [hurl]
    | some v => simp [hurl]
  | none =>
    by_cases hlooks : looksLikeAddress raw.toList = true
    · cases hurl : parse? .https ("//".toList ++ raw.toList) with
      | none => simp [hlooks]
      | some v => simp [hlooks]
    · simp [hlooks]

/-! ### Text that looks like an address -/

theorem lt_of_isPathChar {c : Char} (h : isPathChar c = true) : c.toNat < 128 := by
  have hsign : ∀ d ∈ "-@:%._+~#=".toList ++ "?&/()\x27".toList, d.toNat < 128 :=
    Ascii.forall_mem (by decide)
  simp only [isPathChar, isHostChar, Bool.or_eq_true, List.contains_iff_mem] at h
  rcases h with (h | h) | h
  · exact Ascii.lt_of_isAlphanum h
  · exact hsign c (List.mem_append_left _ h)
  · exact hsign c (List.mem_append_right _ h)

theorem visible_of_isPathChar {c : Char} (h : isPathChar c = true) : 0x20 < c.toNat := by
  have hlookup : (!isPathChar c || decide (0x20 < c.toNat)) = true :=
    Ascii.forall_of_lookup (p := fun c => !isPathChar c || decide (0x20 < c.toNat))
      (by decide +kernel) (lt_of_isPathChar h)
  simpa [h] using hlookup

theorem isPathChar_of_isHostChar {c : Char} (h : isHostChar c = true) : isPathChar c = true := by
  rw [isPathChar, h, Bool.true_or]

theorem isPathChar_of_isLower {c : Char} (h : c.isLower = true) : isPathChar c = true := by
  have halnum : c.isAlphanum = true := by
    delta Char.isAlphanum Char.isAlpha
    simp [h]
  simp [isPathChar, isHostChar, halnum]

theorem isPathChar_of_isDomainEnd {cs : List Char} (h : isDomainEnd cs = true) :
    ∀ c ∈ cs, isPathChar c = true := by
  simp only [isDomainEnd, Bool.and_eq_true, List.all_eq_true] at h
  intro c hc
  rw [← List.takeWhile_append_dropWhile (p := Char.isLower) (l := cs)] at hc
  rcases List.mem_append.1 hc with hc | hc
  · exact isPathChar_of_isLower (List.mem_takeWhile_imp hc)
  · exact h.2 c hc

theorem isPathChar_of_isDomain {cs : List Char} {n : Nat} (h : isDomain n cs = true) :
    ∀ c ∈ cs, isPathChar c = true := by
  induction cs generalizing n with
  | nil => nofun
  | cons d r ih =>
    simp only [isDomain, Bool.or_eq_true, Bool.and_eq_true, beq_iff_eq] at h
    refine List.forall_mem_cons.2 ?_
    rcases h with ⟨⟨⟨rfl, -⟩, -⟩, hend⟩ | ⟨⟨hhost, -⟩, hrest⟩
    · exact ⟨by decide, isPathChar_of_isDomainEnd hend⟩
    · exact ⟨isPathChar_of_isHostChar hhost, ih hrest⟩

/-- All characters but the first are those of paths. -/
theorem isPathChar_of_looksLikeAddress {c : Char} {cs : List Char}
    (h : looksLikeAddress (c :: cs) = true) : ∀ d ∈ cs, isPathChar d = true := by
  simp only [looksLikeAddress, Bool.and_eq_true, Bool.or_eq_true, Option.any_eq_true] at h
  rcases h.2 with hdomain | ⟨rest, hrest, hdomain⟩
  · exact isPathChar_of_isDomain hdomain
  · rw [after?_eq_some.1 hrest]
    exact List.forall_mem_append.2 ⟨Ascii.forall_mem (by decide), isPathChar_of_isDomain hdomain⟩

/-! ### Text that goes on -/

theorem isDomainEnd_append {cs : List Char} (asks : '?' ∈ cs) (more : List Char) :
    isDomainEnd (cs ++ more) = (isDomainEnd cs && more.all isPathChar) := by
  obtain ⟨htake, hdrop⟩ := Url.cut_append (p := Char.isLower) asks (by decide) more
  have hpath : cs.dropWhile Char.isLower ≠ [] :=
    List.ne_nil_of_mem (Url.mem_dropWhile asks (by decide))
  simp only [isDomainEnd, htake, hdrop, List.all_append, List.head?_append_of_ne_nil _ hpath,
    Bool.and_assoc]

theorem isDomain_append {cs : List Char} (asks : '?' ∈ cs) (more : List Char) (n : Nat) :
    isDomain n (cs ++ more) = (isDomain n cs && more.all isPathChar) := by
  induction cs generalizing n with
  | nil => cases asks
  | cons c r ih =>
    rw [List.cons_append, isDomain, isDomain]
    by_cases hc : c = '?'
    · subst hc
      have hdot : ('?' == '.') = false := by decide
      have hhost : isHostChar '?' = false := by decide
      simp [hdot, hhost]
    · have hr : '?' ∈ r := (List.mem_cons.1 asks).resolve_left (Ne.symm hc)
      simp only [isDomainEnd_append hr, ih hr, Bool.and_or_distrib_right, Bool.and_assoc]

theorem after?_append_of_mem {pat cs : List Char} (asks : '?' ∈ cs) (hpat : '?' ∉ pat)
    (more : List Char) : Text.after? pat (cs ++ more) = (Text.after? pat cs).map (· ++ more) := by
  cases hrest : Text.after? pat cs with
  | some rest =>
    rw [Option.map_some, after?_eq_some, after?_eq_some.1 hrest, List.append_assoc]
  | none =>
    rw [Option.map_none, ← Option.not_isSome_iff_eq_none, isSome_after?]
    intro hstarts
    refine absurd (isSome_after?.2 (prefix_of_append asks hpat hstarts)) ?_
    simp [hrest]

/-- After a question mark the characters of paths may follow, and no others. -/
theorem looksLikeAddress_append {c : Char} {cs : List Char} (asks : '?' ∈ cs) (more : List Char) :
    looksLikeAddress (c :: cs ++ more) =
      (looksLikeAddress (c :: cs) && more.all isPathChar) := by
  rw [List.cons_append, looksLikeAddress, looksLikeAddress,
    after?_append_of_mem asks (by decide), isDomain_append asks]
  cases hrest : Text.after? "www.".toList cs with
  | none => simp [Bool.and_assoc]
  | some rest =>
    have hasks : '?' ∈ rest := by
      rw [after?_eq_some.1 hrest] at asks
      exact (List.mem_append.1 asks).resolve_left (by decide)
    simp only [Option.map_some, Option.any_some, isDomain_append hasks, Bool.and_assoc,
      ← Bool.and_or_distrib_right]

variable {base more : String} {u : Url}

/-- What is written at the end of an address goes to its query. -/
theorem resolve_append_of_named (h : resolve base = .ok u) (named : NamesScheme base.toList)
    (asks : '?' ∈ base.toList) (unmarked : '#' ∉ base.toList)
    (ends : ∀ c ∈ base.toList.getLast?, 0x20 < c.toNat)
    (visible : ∀ c ∈ more.toList, 0x20 < c.toNat ∧ c ≠ '#') :
    ∃ v, resolve (base ++ more) = .ok v ∧
      v.href = u.href ++ String.ofList (Url.encode Url.inQuery more.toList) := by
  obtain ⟨⟨scheme, rest⟩, hscheme⟩ := Option.isSome_iff_exists.1 (namesScheme_iff.1 named)
  have hbase := (scheme?_eq_some.1 hscheme).1
  have hparse : parse? scheme rest = some u := by
    rcases resolve_eq_ok.1 h with ⟨scheme', rest', hscheme', hparse⟩ | ⟨hnone, -⟩
    · obtain ⟨rfl, rfl⟩ := Prod.mk.inj (Option.some.inj (hscheme.symm.trans hscheme'))
      exact hparse
    · rw [hscheme] at hnone
      cases hnone
  have hasks : '?' ∈ rest := by
    have hmark : '?' ∉ scheme.text := by cases scheme <;> decide
    rw [hbase] at asks
    simpa [hmark] using asks
  have hends : ∀ c ∈ rest.getLast?, 0x20 < c.toNat := by
    intro c hc
    refine ends c ?_
    rw [hbase, List.getLast?_append, List.getLast?_cons, Option.mem_def.1 hc]
    rfl
  have hunmarked : '#' ∉ rest := fun hmem => unmarked (by rw [hbase]; simp [hmem])
  obtain ⟨v, hv, hhref⟩ := Url.parse?_append hparse hasks hunmarked hends visible
  refine ⟨v, resolve_eq_ok.2 (.inl ⟨scheme, rest ++ more.toList, ?_, hv⟩), ?_⟩
  · rw [String.toList_append, scheme?_append hscheme]
  · rw [Url.href, hhref, String.ofList_append, Url.href]

/-- A question mark that starts a text is followed by no address. -/
theorem asks_of_resolve {c : Char} {cs : List Char} (h : resolve base = .ok u)
    (unnamed : ¬ NamesScheme base.toList) (hbase : base.toList = c :: cs) (asks : '?' ∈ base.toList) :
    '?' ∈ cs := by
  rcases resolve_eq_ok.1 h with ⟨scheme, rest, hscheme, -⟩ | ⟨-, hlooks, hparse⟩
  · exact absurd (namesScheme_iff.2 (by simp [hscheme])) unnamed
  rw [hbase] at asks hlooks hparse
  refine (List.mem_cons.1 asks).resolve_left fun hc => ?_
  subst hc
  have hvisible : ∀ d ∈ '?' :: cs, 0x20 < d.toNat :=
    List.forall_mem_cons.2 ⟨by decide, fun d hd =>
      visible_of_isPathChar (isPathChar_of_looksLikeAddress hlooks d hd)⟩
  have hdrop : (Url.clean ("//".toList ++ '?' :: cs)).dropWhile Url.isSlash = '?' :: cs :=
    Url.dropWhile_clean_slashes hvisible fun d hd => Option.some.inj hd ▸ rfl
  rw [Url.parse?_eq_none hdrop (by decide)] at hparse
  cases hparse

/-- What is written at the end of an address without its scheme goes to its query if it consists of
    characters of paths; otherwise the whole is no address. -/
theorem resolve_append_of_unnamed (h : resolve base = .ok u) (unnamed : ¬ NamesScheme base.toList)
    (asks : '?' ∈ base.toList) (unmarked : '#' ∉ base.toList) (hmore : '#' ∉ more.toList) :
    if more.toList.all isPathChar then
      ∃ v, resolve (base ++ more) = .ok v ∧
        v.href = u.href ++ String.ofList (Url.encode Url.inQuery more.toList)
    else resolve (base ++ more) = .error (.unresolvable (base ++ more)) := by
  obtain ⟨c, cs, hbase⟩ := List.exists_cons_of_ne_nil (List.ne_nil_of_mem asks)
  have hasks := asks_of_resolve h unnamed hbase asks
  have hnone : scheme? (base ++ more).toList = none := by
    have hscheme : scheme? base.toList = none := by
      simpa [namesScheme_iff, Option.not_isSome_iff_eq_none] using unnamed
    rw [String.toList_append, scheme?_append_of_none hscheme asks]
  rcases resolve_eq_ok.1 h with ⟨scheme, rest, hscheme, -⟩ | ⟨-, hlooks, hparse⟩
  · exact absurd (namesScheme_iff.2 (by simp [hscheme])) unnamed
  have hgoes : looksLikeAddress (base ++ more).toList = more.toList.all isPathChar := by
    rw [String.toList_append, hbase, looksLikeAddress_append hasks, ← hbase, hlooks, Bool.true_and]
  split
  · next hall =>
    have hvisible : ∀ d ∈ more.toList, 0x20 < d.toNat ∧ d ≠ '#' := fun d hd =>
      ⟨visible_of_isPathChar (List.all_eq_true.1 hall d hd), fun heq => hmore (heq ▸ hd)⟩
    have hends : ∀ d ∈ ("//".toList ++ base.toList).getLast?, 0x20 < d.toNat := by
      intro d hd
      rw [hbase] at hd hlooks
      refine visible_of_isPathChar (isPathChar_of_looksLikeAddress hlooks d ?_)
      obtain ⟨b, r, rfl⟩ := List.exists_cons_of_ne_nil (List.ne_nil_of_mem hasks)
      refine List.mem_of_getLast? ?_
      simpa using hd
    have hunmarked : '#' ∉ "//".toList ++ base.toList := fun hmem =>
      (List.mem_append.1 hmem).elim (by decide) unmarked
    obtain ⟨v, hv, hhref⟩ := Url.parse?_append hparse (List.mem_append_right _ asks) hunmarked
      hends hvisible
    refine ⟨v, resolve_eq_ok.2 (.inr ⟨hnone, hgoes.trans hall, ?_⟩), ?_⟩
    · rw [String.toList_append, ← List.append_assoc, hv]
    · rw [Url.href, hhref, String.ofList_append, Url.href]
  · next hsome =>
    simp only [resolve, hnone, hgoes, if_neg hsome]

end StartPage.Address
