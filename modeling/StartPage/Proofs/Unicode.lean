import Mathlib.Data.List.Perm.Basic
import StartPage.Proofs.Ascii
import StartPage.Proofs.Text
import StartPage.Unicode.Direction
import StartPage.Unicode.NameForm

/-!
    Characters that stand alone: those of ASCII, and the ideographs of their own plane. A text of
    them is its own decomposed and composed form, and in a domain name it is read as itself, apart
    from capital letters. -/

namespace StartPage

namespace CharSet

theorem exists_of_within {n : Nat} : ∀ {rs : List (Nat × Nat)}, within n rs = true →
    ∃ r ∈ rs, r.1 ≤ n ∧ n ≤ r.2
  | (a, b) :: r, h => by
    rw [within] at h
    split at h
    · cases h
    split at h
    · exact ⟨(a, b), List.mem_cons_self, by dsimp only; omega⟩
    · obtain ⟨x, hx, hn⟩ := exists_of_within h
      exact ⟨x, List.mem_cons_of_mem _ hx, hn⟩

/-- Joining ranges adds no member. -/
theorem exists_of_consRange {n a b : Nat} {rs : List (Nat × Nat)}
    (h : ∃ r ∈ consRange a b rs, r.1 ≤ n ∧ n ≤ r.2) : ∃ r ∈ (a, b) :: rs, r.1 ≤ n ∧ n ≤ r.2 := by
  induction rs generalizing b with
  | nil => exact h
  | cons x r ih =>
    obtain ⟨a', b'⟩ := x
    rw [consRange] at h
    split at h
    · next htouch =>
      obtain ⟨y, hy, hn⟩ := ih h
      rcases List.mem_cons.1 hy with rfl | hy
      · by_cases hb : n ≤ b
        · exact ⟨(a, b), List.mem_cons_self, hn.1, hb⟩
        · refine ⟨(a', b'), List.mem_cons_of_mem _ List.mem_cons_self, ?_⟩
          dsimp only at hn ⊢
          omega
      · exact ⟨y, List.mem_cons_of_mem _ (List.mem_cons_of_mem _ hy), hn⟩
    · exact h

theorem exists_of_joinSorted {n : Nat} : ∀ {rs : List (Nat × Nat)},
    (∃ r ∈ joinSorted rs, r.1 ≤ n ∧ n ≤ r.2) → ∃ r ∈ rs, r.1 ≤ n ∧ n ≤ r.2
  | [], h => h
  | (a, b) :: rs, h => by
    obtain ⟨x, hx, hn⟩ := exists_of_consRange h
    rcases List.mem_cons.1 hx with rfl | hx
    · exact ⟨_, List.mem_cons_self, hn⟩
    · obtain ⟨y, hy, hm⟩ := exists_of_joinSorted ⟨x, hx, hn⟩
      exact ⟨y, List.mem_cons_of_mem _ hy, hm⟩

theorem insertRange_perm (x : Nat × Nat) (rs : List (Nat × Nat)) :
    (insertRange x rs).Perm (x :: rs) := by
  induction rs with
  | nil => exact .refl _
  | cons y r ih =>
    rw [insertRange]
    split
    · exact .refl _
    · exact (ih.cons y).trans (.swap x y r)

theorem foldr_insertRange_perm (rs : List (Nat × Nat)) : (rs.foldr insertRange []).Perm rs := by
  induction rs with
  | nil => exact .refl _
  | cons x r ih => exact (insertRange_perm x _).trans (ih.cons x)

/-- A table has no member below and above all its ranges. -/
theorem not_contains_ofText {table : String} {low high : Nat}
    (h : ∀ r ∈ (tableWords table).map rangeOfWord, low ≤ r.1 ∧ r.2 < high) {c : Char}
    (hc : c.toNat < low ∨ high ≤ c.toNat) : (ofText table).contains c = false := by
  refine Bool.eq_false_iff.2 fun hmem => ?_
  obtain ⟨r, hr, hn⟩ := exists_of_joinSorted (exists_of_within hmem)
  have hbounds := h r ((foldr_insertRange_perm _).mem_iff.1 hr)
  omega

end CharSet

namespace Unicode

variable {c : Char} {cs : List Char}

theorem standsAlone_of_lt (h : c.toNat < 0x80) : standsAlone c = true := by
  have hlow : c.toNat < firstComposite := by
    unfold firstComposite
    omega
  simp [standsAlone, hlow]

theorem standsAlone_of_isIdeograph (h : isIdeograph c = true) : standsAlone c = true := by
  rw [standsAlone, h, Bool.or_true]

/-! ### Decomposed and composed forms -/

theorem markClass_of_standsAlone (h : standsAlone c = true) : markClass c = 0 := if_pos h

theorem takeApart_of_standsAlone (h : standsAlone c = true) : takeApart c = [c] := by
  have hparts : parts? c = none := if_pos h
  rw [takeApart, takeApartIn, hparts]

theorem insertMark_perm (c : Char) (cs : List Char) : (insertMark c cs).Perm (c :: cs) := by
  induction cs with
  | nil => exact .refl _
  | cons d r ih =>
    rw [insertMark]
    split
    · exact (ih.cons d).trans (.swap c d r)
    · exact .refl _

theorem orderMarks_perm (cs : List Char) : (orderMarks cs).Perm cs := by
  induction cs with
  | nil => exact .refl _
  | cons c r ih => exact (insertMark_perm c _).trans (ih.cons c)

theorem orderMarks_of_forall (h : ∀ c ∈ cs, standsAlone c = true) : orderMarks cs = cs := by
  induction cs with
  | nil => rfl
  | cons c r ih =>
    have hr := ih fun d hd => h d (List.mem_cons_of_mem c hd)
    show insertMark c (orderMarks r) = c :: r
    rw [hr]
    cases r with
    | nil => rfl
    | cons d r' =>
      have hd : markClass d = 0 := markClass_of_standsAlone (h d (by simp))
      exact if_neg fun hclass => hclass.1 hd

theorem decomposed_of_forall (h : ∀ c ∈ cs, standsAlone c = true) : decomposed cs = cs := by
  have happart : cs.flatMap takeApart = cs := by
    rw [List.flatMap_congr fun c hc => takeApart_of_standsAlone (h c hc), List.flatMap_singleton']
  rw [decomposed, happart, orderMarks_of_forall h]

/-- Characters that stand alone are still there after a text is taken apart. -/
theorem mem_decomposed (h : standsAlone c = true) (hc : c ∈ cs) : c ∈ decomposed cs := by
  refine (orderMarks_perm _).mem_iff.2 (List.mem_flatMap.2 ⟨c, hc, ?_⟩)
  rw [takeApart_of_standsAlone h]
  exact List.mem_singleton_self c

/-- Such characters are put after what was there before. -/
theorem foldl_push_of_forall (h : ∀ c ∈ cs, standsAlone c = true) (done : List Char)
    (base : Option Char) :
    (cs.foldl Composing.push ⟨done, base, []⟩).finish =
      (Composing.finish ⟨done, base, []⟩) ++ cs := by
  induction cs generalizing done base with
  | nil => exact (List.append_nil _).symm
  | cons c r ih =>
    have hr := ih fun d hd => h d (List.mem_cons_of_mem c hd)
    have hc := h c List.mem_cons_self
    have hclass : markClass c = 0 := markClass_of_standsAlone hc
    cases base with
    | none =>
      have hpush : Composing.push ⟨done, none, []⟩ c = ⟨done, some c, []⟩ := if_pos hclass
      rw [List.foldl_cons, hpush, hr]
      simp [Composing.finish]
    | some b =>
      have hjoined : joined? b c = none := if_pos hc
      have hpush : Composing.push ⟨done, some b, []⟩ c = ⟨b :: done, some c, []⟩ := by
        simp [Composing.push, Composing.isBlocked, hjoined, hclass]
      rw [List.foldl_cons, hpush, hr]
      simp [Composing.finish]

theorem composed_of_forall (h : ∀ c ∈ cs, standsAlone c = true) : composed cs = cs := by
  rw [composed, decomposed_of_forall h, foldl_push_of_forall h]
  rfl

/-! ### Names -/

theorem readInName?_of_isIdeograph (h : isIdeograph c = true) : readInName? c = some [c] := by
  have hlow : ¬ c.toNat < 0x80 := by
    simp only [isIdeograph, Bool.and_eq_true, decide_eq_true_eq] at h
    omega
  rw [readInName?, if_neg hlow, if_pos h]

/-- A text that is read character by character as it stands. -/
theorem nameForm?_of_forall (alone : ∀ c ∈ cs, standsAlone c = true)
    (plain : ∀ c ∈ cs, readInName? c = some [c]) : nameForm? cs = some cs := by
  have hread : cs.mapM readInName? = some (cs.map ([·])) := by
    rw [Text.mapM_eq_some_iff, List.map_map]
    exact List.map_congr_left plain
  have hflat : (cs.map ([·])).flatten = cs := by
    rw [← List.flatMap_def, List.flatMap_singleton']
  rw [nameForm?, decomposed_of_forall alone, hread]
  show some (composed (cs.map ([·])).flatten) = some cs
  rw [hflat, composed_of_forall alone]

/-! ### Direction -/

/-- Neither ASCII characters nor the ideographs run from right to left. -/
theorem direction_of_standing (h : c.toNat < 0x80 ∨ isIdeograph c = true) :
    Direction.of c ≠ .rightToLeft ∧ Direction.of c ≠ .arabicNumber := by
  have hbounds : c.toNat < 0x80 ∨ 0x20000 ≤ c.toNat := by
    simp only [isIdeograph, Bool.and_eq_true, decide_eq_true_eq] at h
    omega
  have hnumber : arabicNumbers.contains c = false :=
    CharSet.not_contains_ofText (by decide +kernel) hbounds
  have hblock : rightToLeftBlocks.contains c = false :=
    CharSet.not_contains_ofText (by decide +kernel) hbounds
  unfold Direction.of
  rw [hnumber, hblock]
  split
  · decide
  simp only [Bool.false_eq_true, if_false]
  split
  · decide
  split <;> decide

end Unicode
end StartPage
