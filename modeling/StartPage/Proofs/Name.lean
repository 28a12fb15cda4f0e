import StartPage.Entry

/-!
    Names and keywords by the rules. A name that was made by the rules ends in its extension and
    has no space, and the rules leave such a name alone; likewise for keywords and colons. -/

namespace StartPage

namespace Text

theorem not_mem_without (c : Char) (s : String) : c ∉ (without c s).toList := by
  simp [without]

theorem without_of_not_mem {c : Char} {s : String} (h : c ∉ s.toList) : without c s = s := by
  have hfilter : s.toList.filter (· != c) = s.toList :=
    List.filter_eq_self.2 fun d hd => by
      have : d ≠ c := fun heq => h (heq ▸ hd)
      simpa using this
  rw [without, hfilter, String.ofList_toList]

theorem not_mem_recolour {old new : Char} (h : new ≠ old) (s : String) :
    old ∉ (recolour old new s).toList := by
  rw [recolour, String.toList_ofList]
  intro hmem
  obtain ⟨c, -, hc⟩ := List.mem_map.1 hmem
  by_cases hold : c = old
  · rw [if_pos hold] at hc
    exact h hc
  · rw [if_neg hold] at hc
    exact hold hc

theorem recolour_of_not_mem {old : Char} (new : Char) {s : String} (h : old ∉ s.toList) :
    recolour old new s = s := by
  have hmap : s.toList.map (fun c => if c = old then new else c) = s.toList.map id :=
    List.map_congr_left fun c hc => if_neg fun heq : c = old => h (heq ▸ hc)
  rw [recolour, hmap, List.map_id, String.ofList_toList]

end Text

namespace Name

theorem endsIn_iff {ending s : String} : endsIn ending s = true ↔ ending.toList <:+ s.toList :=
  List.isSuffixOf_iff_suffix

theorem suffix_normalize (name extension : String) :
    extension.toList <:+ (normalize name extension).toList := by
  simp only [normalize]
  split
  · next h => exact endsIn_iff.1 h
  · rw [String.toList_append]
    exact List.suffix_append ..

theorem not_mem_normalize {extension : String} (h : ' ' ∉ extension.toList) (name : String) :
    ' ' ∉ (normalize name extension).toList := by
  have hname : ' ' ∉ (Text.recolour ' ' '_' name).toList :=
    Text.not_mem_recolour (by decide) name
  simp only [normalize]
  split
  · exact hname
  · rw [String.toList_append, List.mem_append]
    exact fun hmem => hmem.elim hname h

/-- The rules leave a name alone that follows them. -/
theorem normalize_of_suffix {name extension : String} (ending : extension.toList <:+ name.toList)
    (spaceless : ' ' ∉ name.toList) : normalize name extension = name := by
  rw [normalize, Text.recolour_of_not_mem '_' spaceless, if_pos (endsIn_iff.2 ending)]

/-- Rules that were applied once change nothing more. -/
theorem normalize_normalize {extension : String} (h : ' ' ∉ extension.toList) (name : String) :
    normalize (normalize name extension) extension = normalize name extension :=
  normalize_of_suffix (suffix_normalize name extension) (not_mem_normalize h name)

end Name

/-- Extensions have no space. -/
theorem EntryKind.not_mem_extension (kind : EntryKind) : ' ' ∉ kind.extension.toList := by
  cases kind with
  | link => decide
  | query _ _ => exact (by decide : ' ' ∉ Name.queryExtension.toList)

end StartPage
