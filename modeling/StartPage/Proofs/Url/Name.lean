import StartPage.Proofs.Text
import StartPage.Proofs.Unicode
import StartPage.Proofs.Url.Percent
import StartPage.Proofs.Url.PunycodeInverse
import StartPage.Url.Host

/-!
    Domain names in ASCII, read again. Every label of such a name is a plain text or a code, and is
    read as the label it came of, unless its code is longer than what is decoded.

        münchen.example  ──▶  xn--mnchen-3ya.example  ──▶  xn--mnchen-3ya.example -/

namespace StartPage.Url.Idna

open Unicode (standsAlone)

variable {text : List Char} {l : Label}

/-- A character that stands in names in ASCII. -/
structure IsNameChar (c : Char) : Prop where
  basic : Punycode.isBasic c = true
  plain : isPlain c = true
  allowed : isForbidden c = false

instance (c : Char) : Decidable (IsNameChar c) :=
  decidable_of_iff (Punycode.isBasic c = true ∧ isPlain c = true ∧ isForbidden c = false)
    ⟨fun ⟨basic, plain, allowed⟩ => ⟨basic, plain, allowed⟩, fun h => ⟨h.basic, h.plain, h.allowed⟩⟩

theorem lt_of_isBasic {c : Char} (h : Punycode.isBasic c = true) : c.toNat < 0x80 := of_decide_eq_true h

theorem readInName?_of_isPlain {c : Char} (h : isPlain c = true) :
    Unicode.readInName? c = some [c] := eq_of_beq h

/-! ### Labels -/

/-- A label as it is read: a plain text in ASCII, or a text that needs encoding, with its code. -/
inductive Label.IsRead : Label → Prop
  | plain {text : List Char} (basic : ∀ c ∈ text, Punycode.isBasic c = true)
      (plain : ∀ c ∈ text, isPlain c = true)
      (unmarked : Text.after? "xn--".toList text = none) : IsRead ⟨text, text⟩
  | coded {text : List Char} (needed : text.all Punycode.isBasic = false)
      (valid : isValid text = true) : IsRead (.coded text)

theorem exists_of_decodeLabel? {code : List Char} (h : decodeLabel? code = some l) :
    ∃ text, Punycode.decode? code = some text ∧ text.all Punycode.isBasic = false ∧
      isValid text = true ∧ l = .coded text := by
  obtain ⟨text, hdecoded, h⟩ := Option.bind_eq_some_iff.1 h
  rw [Option.ite_none_right_eq_some] at h
  obtain ⟨hvalid, hlabel⟩ := h
  simp only [Bool.and_eq_true, Bool.not_eq_true'] at hvalid
  obtain ⟨⟨-, needed⟩, valid⟩ := hvalid
  exact ⟨text, hdecoded, needed, valid, (Option.some.inj hlabel).symm⟩

/-- A code in lower case is kept as it stands. -/
theorem ascii_of_decodeLabel? {code : List Char} (h : decodeLabel? code = some l)
    (lower : ∀ c ∈ code, c.isUpper = false) : l.ascii = "xn--".toList ++ code := by
  obtain ⟨text, hdecoded, -, -, rfl⟩ := exists_of_decodeLabel? h
  rw [Label.coded, Punycode.encode_of_decode? hdecoded lower]

/-- The code of a label is short enough to be decoded, if the label has one. -/
def isReadable (label : List Char) : Bool :=
  (Text.after? "xn--".toList label).all (·.length ≤ maxEncoded)

/-- A label that was read is read again as what it was, if its code is short enough. -/
theorem Label.IsRead.label?_ascii (h : l.IsRead) :
    label? l.ascii = if isReadable l.ascii then some l else none := by
  cases h with
  | plain basic plain unmarked =>
    have hbasic := List.all_eq_true.2 basic
    have hplain := List.all_eq_true.2 plain
    rw [label?, isReadable, unmarked, hbasic, hplain]
    rfl
  | @coded text needed valid =>
    have hcode : Text.after? "xn--".toList (Label.coded text).ascii = some (Punycode.encode text) :=
      Text.after?_append ..
    have hread : label? (Label.coded text).ascii = decodeLabel? (Punycode.encode text) := by
      rw [label?, hcode]
    rw [hread, decodeLabel?, Punycode.decode?_encode, isReadable, hcode]
    simp only [Option.bind_eq_bind, Option.bind_some, Option.all_some, needed, valid, Bool.not_false,
      Bool.and_true]

/-- The characters of labels stand in names if they are allowed. -/
theorem Label.IsRead.isNameChar (h : l.IsRead) (allowed : ∀ c ∈ l.text, isForbidden c = false) :
    ∀ c ∈ l.ascii, IsNameChar c := by
  cases h with
  | plain basic plain unmarked => exact fun c hc => ⟨basic c hc, plain c hc, allowed c hc⟩
  | @coded text needed valid =>
    refine List.forall_mem_append.2 ⟨Ascii.forall_mem (by decide +kernel), fun c hc => ?_⟩
    rcases Punycode.mem_encode hc with ⟨hmem, basic⟩ | rfl | ⟨d, hd, rfl⟩
    · -- taking the label apart left this character alone, and all that came of it are plain
      have halone : standsAlone c = true := Unicode.standsAlone_of_lt (lt_of_isBasic basic)
      have hplain : (Unicode.decomposed text).all isPlain = true := by
        simp only [isValid, Bool.and_eq_true] at valid
        exact valid.1.1.1.2
      exact ⟨basic, List.all_eq_true.1 hplain c (Unicode.mem_decomposed halone hmem), allowed c hmem⟩
    · decide +kernel
    · exact (by decide +kernel : ∀ d < 36, IsNameChar (Punycode.digitChar d)) d hd

/-! ### Names -/

/-- The labels of a name, as they are read. -/
structure AreLabels (labels : List Label) : Prop where
  nonempty : labels ≠ []
  read : ∀ l ∈ labels, l.IsRead
  dotless : ∀ l ∈ labels, '.' ∉ l.ascii
  allowed : ∀ l ∈ labels, ∀ c ∈ l.text, isForbidden c = false
  directed : (labels.any (runsLeft ·.text) && !labels.all (isOneWay ·.text)) = false

/-- The name that labels make up. -/
def nameOf (labels : List Label) : List Char := ['.'].intercalate (labels.map (·.ascii))

theorem AreLabels.fields {labels : List Label} (h : AreLabels labels) :
    Text.fields '.' (nameOf labels) = labels.map (·.ascii) := by
  refine Text.splitBy_intercalate (by decide) (by simpa using h.nonempty) fun piece hpiece c hc => ?_
  obtain ⟨l, hl, rfl⟩ := List.mem_map.1 hpiece
  exact beq_false_of_ne fun hdot : c = '.' => h.dotless l hl (hdot ▸ hc)

theorem AreLabels.isNameChar {labels : List Label} (h : AreLabels labels) :
    ∀ c ∈ nameOf labels, IsNameChar c := by
  intro c hc
  rcases Text.mem_intercalate hc with rfl | ⟨piece, hpiece, hc⟩
  · decide +kernel
  · obtain ⟨l, hl, rfl⟩ := List.mem_map.1 hpiece
    exact (h.read l hl).isNameChar (h.allowed l hl) c hc

/-- All labels of a name can be read again. -/
def areReadable (name : List Char) : Bool := (Text.fields '.' name).all isReadable

/-- A name in ASCII is read as itself, if the codes of its labels are short enough. -/
theorem AreLabels.toAscii? {labels : List Label} (h : AreLabels labels) :
    toAscii? (nameOf labels) =
      if areReadable (nameOf labels) then some (nameOf labels) else none := by
  have hform : Unicode.nameForm? (nameOf labels) = some (nameOf labels) :=
    Unicode.nameForm?_of_forall
      (fun c hc => Unicode.standsAlone_of_lt (lt_of_isBasic (h.isNameChar c hc).basic))
      (fun c hc => readInName?_of_isPlain (h.isNameChar c hc).plain)
  have hallowed : labels.any (·.text.any isForbidden) = false := by
    simpa using h.allowed
  rw [Idna.toAscii?, hform, Option.bind_eq_bind, Option.bind_some, areReadable, h.fields,
    List.all_map]
  by_cases hshort : labels.all (isReadable ∘ (·.ascii)) = true
  · have hread : (labels.map (·.ascii)).mapM label? = some labels := by
      rw [Text.mapM_eq_some_iff, List.map_map]
      refine List.map_congr_left fun l hl => ?_
      exact (h.read l hl).label?_ascii.trans (if_pos (List.all_eq_true.1 hshort l hl))
    rw [hread, if_pos hshort, Option.bind_eq_bind, Option.bind_some, hallowed, h.directed]
    rfl
  · have hread : (labels.map (·.ascii)).mapM label? = none := by
      refine Option.eq_none_iff_forall_ne_some.2 fun read hread => hshort (List.all_eq_true.2 ?_)
      have hmap := Text.mapM_eq_some_iff.1 hread
      intro l hl
      have hmem : label? l.ascii ∈ read.map some :=
        hmap ▸ List.mem_map_of_mem (List.mem_map_of_mem hl)
      obtain ⟨l', -, hl'⟩ := List.mem_map.1 hmem
      rw [(h.read l hl).label?_ascii] at hl'
      by_contra hlong
      have hnone : some l' = none := hl'.trans (if_neg hlong)
      cases hnone
    rw [hread, if_neg hshort]
    rfl

/-- No label of a plain name reads as a code. -/
def IsUncoded (name : List Char) : Prop :=
  ∀ label ∈ Text.fields '.' name, Text.after? "xn--".toList label = none

/-- A plain name in ASCII is made up of labels that can be read again. -/
theorem areLabels_of_plain {name : List Char} (h : ∀ c ∈ name, IsNameChar c) (uncoded : IsUncoded name) :
    ∃ labels, AreLabels labels ∧ name = nameOf labels ∧ areReadable name = true := by
  have hchar : ∀ label ∈ Text.fields '.' name, ∀ c ∈ label, IsNameChar c :=
    fun label hlabel c hc => h c (Text.mem_of_mem_splitBy hlabel hc).1
  have hmember : ∀ l ∈ (Text.fields '.' name).map fun t => Label.mk t t,
      ∃ t ∈ Text.fields '.' name, Label.mk t t = l := fun l => List.mem_map.1
  have hleft : ((Text.fields '.' name).map fun t => Label.mk t t).any (runsLeft ·.text) = false := by
    refine List.any_eq_false.2 fun l hl => ?_
    obtain ⟨t, ht, rfl⟩ := hmember l hl
    simp only [runsLeft, List.any_eq_true, not_exists, not_and, decide_eq_true_eq, List.mem_cons,
      List.not_mem_nil, or_false, not_or]
    exact fun c hc => Unicode.direction_of_standing (.inl (lt_of_isBasic (hchar t ht c hc).basic))
  refine ⟨(Text.fields '.' name).map fun t => ⟨t, t⟩, ⟨?_, ?_, ?_, ?_, by rw [hleft]; rfl⟩, ?_, ?_⟩
  · exact mt List.map_eq_nil_iff.1 (Text.splitBy_ne_nil _ name)
  · intro l hl
    obtain ⟨t, ht, rfl⟩ := hmember l hl
    exact .plain (fun c hc => (hchar t ht c hc).basic) (fun c hc => (hchar t ht c hc).plain)
      (uncoded t ht)
  · intro l hl hdot
    obtain ⟨t, ht, rfl⟩ := hmember l hl
    exact absurd (Text.mem_of_mem_splitBy ht hdot).2 (by decide)
  · intro l hl c hc
    obtain ⟨t, ht, rfl⟩ := hmember l hl
    exact (hchar t ht c hc).allowed
  · rw [nameOf, List.map_map]
    exact (Text.intercalate_fields '.' name).symm.trans
      (congrArg _ (List.map_id _).symm)
  · refine List.all_eq_true.2 fun label hlabel => ?_
    rw [isReadable, uncoded label hlabel]
    rfl

end StartPage.Url.Idna
