import Mathlib.Data.List.Basic

/-!
    ASCII characters, of which there are so few that what holds of all of them can be looked up, and
    lists of characters that are short enough for that. -/

namespace StartPage.Ascii

/-- What holds of the first 128 code points holds of every ASCII character. -/
theorem forall_of_lookup {p : Char → Bool} (h : ∀ n < 128, p (Char.ofNat n) = true) {c : Char}
    (hc : c.toNat < 128) : p c = true := by
  have hp := h c.toNat hc
  rwa [Char.ofNat_toNat] at hp

/-- What is looked up character by character holds of all of them. -/
theorem forall_mem {P : Char → Prop} [DecidablePred P] {cs : List Char}
    (h : cs.all (fun c => decide (P c)) = true) : ∀ c ∈ cs, P c := by simpa using h

theorem lt_of_isAlphanum {c : Char} (h : c.isAlphanum = true) : c.toNat < 128 := by
  delta Char.isAlphanum Char.isAlpha Char.isUpper Char.isLower Char.isDigit at h
  simp only [Bool.or_eq_true, Bool.and_eq_true, decide_eq_true_eq, ge_iff_le,
    UInt32.le_iff_toNat_le] at h
  have hval : c.val.toNat = c.toNat := rfl
  have hends : 'Z'.val.toNat = 90 ∧ 'z'.val.toNat = 122 ∧ '9'.val.toNat = 57 := by decide
  omega

end StartPage.Ascii
