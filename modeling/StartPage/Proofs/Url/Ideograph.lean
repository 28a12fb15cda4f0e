import StartPage.Proofs.Url.Reread

/-!
    Names of ideographs. Such a label is valid, so a name of up to a thousand of them is a host. Where
    they lie far apart the code is longer than what is decoded: the name can be read once and not
    again. -/

namespace StartPage.Url

open Unicode (isIdeograph)

namespace Idna

variable {cs : List Char}

theorem isPlain_of_isIdeograph {c : Char} (h : isIdeograph c = true) : isPlain c = true := by
  rw [isPlain, Unicode.readInName?_of_isIdeograph h]
  exact beq_self_eq_true _

theorem ne_of_isIdeograph {c d : Char} (h : isIdeograph c = true) (hd : isIdeograph d = false) :
    c ≠ d := by
  rintro rfl
  rw [h] at hd
  cases hd

theorem isAllowed_of_isIdeograph {c : Char} (h : isIdeograph c = true) : isForbidden c = false := by
  have hsign : ∀ d ∈ "#%/:<>?@[\\]^|".toList, isIdeograph d = false := Ascii.forall_mem (by decide)
  have hnone : c ∉ "#%/:<>?@[\\]^|".toList := fun hmem =>
    ne_of_isIdeograph h (hsign c hmem) rfl
  simp only [isIdeograph, Bool.and_eq_true, decide_eq_true_eq] at h
  simp only [isForbidden, Bool.or_eq_false_iff, decide_eq_false_iff_not, beq_eq_false_iff_ne,
    List.contains_eq_mem]
  exact ⟨⟨by omega, by omega⟩, hnone⟩

theorem joinersInPlace_of_ideographs (h : ∀ c ∈ cs, isIdeograph c = true) (before : List Char) :
    joinersInPlace before cs = true := by
  induction cs generalizing before with
  | nil => rfl
  | cons c r ih =>
    have hc := h c List.mem_cons_self
    rw [joinersInPlace, if_neg (ne_of_isIdeograph hc (by decide)),
      if_neg (ne_of_isIdeograph hc (by decide)), ih fun d hd => h d (List.mem_cons_of_mem c hd)]
    rfl

theorem unmarked_of_ideographs (h : ∀ c ∈ cs, isIdeograph c = true) :
    Text.after? "xn--".toList cs = none := by
  refine Option.eq_none_iff_forall_ne_some.2 fun code hcode => ?_
  have hx : 'x' ∈ cs := by
    rw [Text.eq_append_of_after? hcode]
    exact List.mem_append_left _ (by decide)
  exact absurd (h 'x' hx) (by decide)

theorem isValid_of_ideographs (h : ∀ c ∈ cs, isIdeograph c = true) : isValid cs = true := by
  have halone : ∀ c ∈ cs, Unicode.standsAlone c = true := fun c hc =>
    Unicode.standsAlone_of_isIdeograph (h c hc)
  have hplain : cs.all isPlain = true := List.all_eq_true.2 fun c hc => isPlain_of_isIdeograph (h c hc)
  have hhead : (cs.head?.any fun c => (Unicode.Category.of c).isMark) = false := by
    cases cs with
    | nil => rfl
    | cons c r =>
      have hcategory : Unicode.Category.of c = .lo := if_pos (h c List.mem_cons_self)
      simp [hcategory, Unicode.Category.isMark]
  rw [isValid, Unicode.composed_of_forall halone, Unicode.decomposed_of_forall halone, hplain, hhead,
    joinersInPlace_of_ideographs h, unmarked_of_ideographs h]
  simp

/-- A label of ideographs, at most as many as are encoded. -/
structure AreIdeographs (cs : List Char) : Prop where
  nonempty : cs ≠ []
  ideographs : ∀ c ∈ cs, isIdeograph c = true
  short : cs.length ≤ maxPlain

/-- The name of a label in ASCII. -/
def encodedName (cs : List Char) : List Char := "xn--".toList ++ Punycode.encode cs

theorem AreIdeographs.label? (h : AreIdeographs cs) : label? cs = some ⟨encodedName cs, cs⟩ := by
  have hbasic : cs.all Punycode.isBasic = false := by
    obtain ⟨c, r, rfl⟩ := List.exists_cons_of_ne_nil h.nonempty
    have hc := h.ideographs c List.mem_cons_self
    simp only [isIdeograph, Bool.and_eq_true, decide_eq_true_eq] at hc
    have hhigh : Punycode.isBasic c = false := by
      simp only [Punycode.isBasic, decide_eq_false_iff_not]
      omega
    rw [List.all_cons, hhigh, Bool.false_and]
  have hencoded : (decide (cs.length ≤ maxPlain) && isValid cs) = true := by
    rw [decide_eq_true h.short, isValid_of_ideographs h.ideographs]
    rfl
  rw [Idna.label?, unmarked_of_ideographs h.ideographs, hbasic]
  exact if_pos hencoded

theorem AreIdeographs.toAscii? (h : AreIdeographs cs) : toAscii? cs = some (encodedName cs) := by
  have hform : Unicode.nameForm? cs = some cs :=
    Unicode.nameForm?_of_forall
      (fun c hc => Unicode.standsAlone_of_isIdeograph (h.ideographs c hc))
      (fun c hc => Unicode.readInName?_of_isIdeograph (h.ideographs c hc))
  have hfields : Text.fields '.' cs = [cs] := Text.splitBy_of_none fun c hc =>
    beq_false_of_ne (ne_of_isIdeograph (h.ideographs c hc) (by decide))
  have hallowed : cs.any isForbidden = false :=
    List.any_eq_false.2 fun c hc => by simp [isAllowed_of_isIdeograph (h.ideographs c hc)]
  have hleft : runsLeft cs = false := by
    refine List.any_eq_false.2 fun c hc => ?_
    simpa using Unicode.direction_of_standing (.inr (h.ideographs c hc))
  have hread : [cs].mapM Idna.label? = some [⟨encodedName cs, cs⟩] := by
    rw [Text.mapM_eq_some_iff, List.map_singleton, h.label?, List.map_singleton]
  rw [Idna.toAscii?, hform, Option.bind_eq_bind, Option.bind_some, hfields, hread]
  simp only [Option.bind_eq_bind, Option.bind_some, List.any_cons, List.any_nil, hallowed, hleft,
    Bool.or_false, Bool.false_and, Bool.false_eq_true, if_false, List.map_cons, List.map_nil,
    List.intercalate_singleton]

theorem AreIdeographs.undotted (h : AreIdeographs cs) :
    ∀ c ∈ encodedName cs, (c == '.') = false := by
  refine List.forall_mem_append.2 ⟨Ascii.forall_mem (by decide), fun c hc => ?_⟩
  rcases Punycode.mem_encode hc with ⟨hmem, -⟩ | rfl | ⟨d, hd, rfl⟩
  · exact beq_false_of_ne (ne_of_isIdeograph (h.ideographs c hmem) (by decide))
  · decide
  · exact (by decide : ∀ d < 36, (Punycode.digitChar d == '.') = false) d hd

/-- The name of such a label is no number. -/
theorem AreIdeographs.endsInNumber (h : AreIdeographs cs) :
    Host.endsInNumber (encodedName cs) = false := by
  have hlabels : Host.labelsOf (encodedName cs) = [encodedName cs] := by
    rw [Host.labelsOf, Text.fields, Text.splitBy_of_none h.undotted]
    rfl
  rw [Host.endsInNumber, hlabels]
  rfl

/-- Such a label is a host. -/
theorem AreIdeographs.parse? (h : AreIdeographs cs) :
    Host.parse? cs = some (.name (encodedName cs)) := by
  have hbracket : cs.head? ≠ some '[' := fun hhead =>
    absurd (h.ideographs '[' (List.mem_of_head? hhead)) (by decide)
  have hpercent : '%' ∉ cs := fun hmem => absurd (h.ideographs '%' hmem) (by decide)
  rw [Host.parse?_of_unencoded hbracket hpercent, h.toAscii?, Option.bind_some, Host.ofAscii?,
    h.endsInNumber]
  rfl

variable {start count : Nat}

end Idna
end StartPage.Url
