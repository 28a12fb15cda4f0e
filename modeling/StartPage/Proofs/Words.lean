import StartPage.Page.Dispatch
import StartPage.Proofs.Text

/-!
    Words, operators and paths as they are written. A line of words with a space between any two is
    read as these words; an operator is cut at its first colon; and the path of an entry is cut
    after the folder, if the folder's name has no slash.

        ["s:", "blue", "whale"]   ──▶  "s: blue whale"    ──▶  ["s:", "blue", "whale"]
        "s" and "a:b"             ──▶  "s:a:b"            ──▶  "s" and "a:b"
        sites and a/b.lnk         ──▶  "sites/a/b.lnk"    ──▶  sites and a/b.lnk         -/

namespace StartPage

namespace Text

/-- A text without blanks. -/
def Blankless (s : String) : Prop := ∀ c ∈ s.toList, isBlank c = false

instance (s : String) : Decidable (Blankless s) :=
  decidable_of_iff (s.toList.all (!isBlank ·) = true) (by simp [Blankless])

/-- A word of a line: it is not empty and has no blank. -/
structure IsWord (word : String) : Prop where
  nonempty : word ≠ ""
  blankless : Blankless word

instance (word : String) : Decidable (IsWord word) :=
  decidable_of_iff (word ≠ "" ∧ Blankless word)
    ⟨fun ⟨nonempty, blankless⟩ => ⟨nonempty, blankless⟩, fun h => ⟨h.nonempty, h.blankless⟩⟩

theorem Blankless.append {s t : String} (hs : Blankless s) (ht : Blankless t) :
    Blankless (s ++ t) := by
  intro c hc
  rw [String.toList_append] at hc
  rcases List.mem_append.1 hc with hc | hc
  · exact hs c hc
  · exact ht c hc

theorem words_of_isWord {word : String} (h : IsWord word) : words word.toList = [word.toList] := by
  rw [words, splitBy_of_none h.blankless]
  simp [h.nonempty]

/-- A blank after a word ends it. -/
theorem words_append {word : String} (h : IsWord word) (rest : List Char) :
    words (word.toList ++ ' ' :: rest) = word.toList :: words rest := by
  rw [words, splitBy_append_cons (by decide) rest h.blankless, List.filter_cons_of_pos, ← words]
  simp [h.nonempty]

end Text

namespace Page

/-- A line of words is read as these words. -/
theorem wordsOf_intercalate : ∀ {words : List String}, (∀ word ∈ words, Text.IsWord word) →
    wordsOf (" ".intercalate words) = words
  | [], _ => by decide
  | [word], h => by
    rw [String.intercalate_singleton, wordsOf, Text.words_of_isWord (h word List.mem_cons_self),
      List.map_singleton, String.ofList_toList]
  | word :: next :: words, h => by
    have hnext := wordsOf_intercalate fun w hw => h w (List.mem_cons_of_mem word hw)
    have hline : (" ".intercalate (word :: next :: words)).toList =
        word.toList ++ ' ' :: (" ".intercalate (next :: words)).toList := by
      rw [String.intercalate_cons_cons, String.toList_append, String.toList_append]
      simp
    rw [wordsOf, hline, Text.words_append (h word List.mem_cons_self), List.map_cons,
      String.ofList_toList, ← wordsOf, hnext]

/-- What follows the first colon of an operator is its first word. -/
theorem wordInOperator_append {keyword : String} (h : ':' ∉ keyword.toList) (rest : String) :
    wordInOperator (keyword ++ ":" ++ rest) = if rest = "" then [] else [rest] := by
  have hcut : Text.cutAt? ':' (keyword ++ ":" ++ rest).toList =
      some (keyword.toList, rest.toList) := by
    rw [String.toList_append, String.toList_append, List.append_assoc]
    exact Text.cutAt?_append_cons rest.toList h
  rw [wordInOperator, hcut]
  split
  · next c r heq =>
    obtain ⟨-, hrest⟩ := Prod.mk.inj (Option.some.inj heq)
    have hne : rest ≠ "" := by
      rintro rfl
      cases hrest
    rw [if_neg hne, ← hrest, String.ofList_toList]
  · next hnone =>
    have hempty : rest.toList = [] := by
      cases hr : rest.toList with
      | nil => rfl
      | cons c r => exact absurd (by rw [hr]) (hnone keyword.toList c r)
    rw [if_pos (String.toList_eq_nil_iff.1 hempty)]

end Page

theorem Store.keywordOf_append {keyword : String} (h : ':' ∉ keyword.toList) (rest : String) :
    Store.keywordOf (keyword ++ ":" ++ rest) = keyword := by
  have hkeyword : ∀ c ∈ keyword.toList, (c != ':') = true := by
    intro c hc
    have hne : c ≠ ':' := fun heq => h (heq ▸ hc)
    simpa using hne
  rw [Store.keywordOf, String.toList_append, String.toList_append, List.append_assoc,
    List.takeWhile_append_of_pos hkeyword]
  simp [String.ofList_toList]

/-- The path of an entry leads to it where the folder's name has no slash. -/
theorem Path.ofText_text {folder entry : String} (h : '/' ∉ folder.toList) (named : entry ≠ "") :
    Path.ofText (Path.text folder entry) = ⟨folder, some entry⟩ := by
  have hcut : Text.cutAt? '/' (Path.text folder entry).toList =
      some (folder.toList, entry.toList) := by
    rw [Path.text, String.toList_append, String.toList_append, List.append_assoc]
    exact Text.cutAt?_append_cons entry.toList h
  cases hentry : entry.toList with
  | nil => exact absurd (String.toList_eq_nil_iff.1 hentry) named
  | cons c r =>
    rw [Path.ofText, hcut, hentry]
    dsimp only
    rw [String.ofList_toList, ← hentry, String.ofList_toList]

end StartPage
