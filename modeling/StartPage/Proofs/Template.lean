import StartPage.Proofs.Text
import StartPage.Template

/-!
    Templates with one slot at the end. All words go into it together, encoded, after the rule was
    applied to them; what stands before the slot is kept.

        x.org/?q=  ++  ${}      and  blue whale     ──▶  x.org/?q=blue+whale -/

namespace StartPage

namespace Text

variable {c : Char} {cs : List Char}

/-- A pattern is not found where its first character does not stand. -/
theorem not_isPrefixOf_cons {d : Char} (h : d ≠ c) (pat rest : List Char) :
    (c :: pat).isPrefixOf (d :: rest) = false := by
  simp [List.isPrefixOf, Ne.symm h]

theorem occursIn_append_of_not_mem (h : c ∉ cs) (pat rest : List Char) :
    occursIn (c :: pat) (cs ++ rest) = occursIn (c :: pat) rest := by
  induction cs with
  | nil => rfl
  | cons d r ih =>
    obtain ⟨hd, hr⟩ := not_or.1 (mt List.mem_cons.2 h)
    rw [List.cons_append, occursIn, not_isPrefixOf_cons (Ne.symm hd), Bool.false_or, ih hr]

theorem replaceAll_append_of_not_mem (h : c ∉ cs) (pat new rest : List Char) :
    replaceAll (c :: pat) new (cs ++ rest) = cs ++ replaceAll (c :: pat) new rest := by
  induction cs with
  | nil => rfl
  | cons d r ih =>
    obtain ⟨hd, hr⟩ := not_or.1 (mt List.mem_cons.2 h)
    rw [replaceAll, List.cons_append, replaceFrom, not_isPrefixOf_cons (Ne.symm hd),
      if_neg Bool.false_ne_true, ← replaceAll, ih hr, List.cons_append]

theorem replaceFirst_append (pat new rest : List Char) :
    replaceFirst pat new (pat ++ rest) = new ++ rest := by
  cases hcs : pat ++ rest with
  | nil =>
    obtain ⟨rfl, rfl⟩ := List.append_eq_nil_iff.1 hcs
    rw [replaceFirst, List.isEmpty_nil, if_pos rfl, List.append_nil]
  | cons d r => rw [replaceFirst, ← hcs, after?_append]

theorem replaceFirst_append_of_not_mem (h : c ∉ cs) (pat new rest : List Char) :
    replaceFirst (c :: pat) new (cs ++ rest) = cs ++ replaceFirst (c :: pat) new rest := by
  induction cs with
  | nil => rfl
  | cons d r ih =>
    obtain ⟨hd, hr⟩ := not_or.1 (mt List.mem_cons.2 h)
    rw [List.cons_append, replaceFirst, after?, if_neg hd, ih hr, List.cons_append]

end Text

namespace Template

variable {base : String}

/-- A template that ends in its only slot takes all words there. -/
theorem fill_append_slot (h : '$' ∉ base.toList) (rule : Rule) (words : List String) :
    fill (base ++ String.ofList slot) rule words =
      (rule.apply (" ".intercalate words)).map fun t => base ++ Form.encode t := by
  have hcontent : (base ++ String.ofList slot).toList = base.toList ++ slot := by
    rw [String.toList_append, String.toList_ofList]
  have hnumbered : Text.occursIn (numberedSlot 1) (base.toList ++ slot) = false := by
    refine (Text.occursIn_append_of_not_mem h _ slot).trans ?_
    decide +kernel
  have hfilled : ∀ new, Text.replaceAll slot new (base.toList ++ slot) = base.toList ++ new := by
    intro new
    refine (Text.replaceAll_append_of_not_mem h _ new slot).trans ?_
    rw [← slot]
    simp [Text.replaceAll, Text.replaceFrom, slot]
  rw [fill, hcontent, hnumbered, if_neg Bool.false_ne_true]
  cases rule.apply (" ".intercalate words) with
  | error f => rfl
  | ok t =>
    show Except.ok _ = Except.ok _
    rw [hfilled, String.ofList_append, String.ofList_toList, String.ofList_toList]

end Template
end StartPage
