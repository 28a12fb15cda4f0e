import StartPage.Json.Number

/-!
    Decimal text of integers. Every integer of 64 bits, signed or unsigned, is read back from the
    text that it is printed as.

        -1024  ──▶  "-1024"  ──▶  -1024

    The digits run into the significand one by one, and while they spell a number that fits none of
    them is dropped. -/

namespace StartPage.Json

/-- The value that a decimal digit has by its code point. -/
def digitValue (c : Char) : Nat := c.toNat - '0'.toNat

theorem digit?_of_isDigit {c : Char} (h : c.isDigit) : digit? c = some (digitValue c) := by
  have hc : '0' ≤ c ∧ c ≤ '9' := by simpa [Char.isDigit, Char.le_def] using h
  rw [digit?, if_pos (by simpa using hc)]
  rfl

theorem takeDigits_of_isDigit : ∀ {cs : List Char}, (∀ c ∈ cs, c.isDigit) →
    takeDigits cs = (cs.map digitValue, [])
  | [], _ => rfl
  | c :: r, h => by
    have hc := digit?_of_isDigit (h c List.mem_cons_self)
    have hr := takeDigits_of_isDigit fun d hd => h d (List.mem_cons_of_mem c hd)
    simp only [takeDigits, hc, hr, List.map_cons]

/-! ### Digits of a natural number -/

/-- Digits only make a number greater. -/
theorem le_ofDigitChars : ∀ (cs : List Char) (n : Nat), n ≤ Nat.ofDigitChars 10 cs n
  | [], n => by simp
  | c :: r, n => by
    rw [Nat.ofDigitChars_cons]
    have hr := le_ofDigitChars r (10 * n + (c.toNat - '0'.toNat))
    omega

/-- The significand takes in every digit of a number that fits. -/
theorem foldl_push_digits : ∀ (cs : List Char) (n taken : Nat),
    Nat.ofDigitChars 10 cs n ≤ maxSignificand →
    (cs.map digitValue).foldl Significand.push ⟨n, 0, taken⟩ =
      ⟨Nat.ofDigitChars 10 cs n, 0, taken + cs.length⟩
  | [], n, taken, _ => by simp
  | c :: r, n, taken, h => by
    rw [Nat.ofDigitChars_cons] at h ⊢
    have hc : n * 10 + digitValue c = 10 * n + (c.toNat - '0'.toNat) := by
      rw [digitValue, Nat.mul_comm]
    have hle : 10 * n + (c.toNat - '0'.toNat) ≤ maxSignificand :=
      Nat.le_trans (le_ofDigitChars r _) h
    have hpush : Significand.push ⟨n, 0, taken⟩ (digitValue c) =
        ⟨10 * n + (c.toNat - '0'.toNat), 0, taken + 1⟩ := by
      rw [Significand.push, if_pos (by simpa [hc] using hle)]
      simp only [hc]
    rw [List.map_cons, List.foldl_cons, hpush, foldl_push_digits r _ _ h, List.length_cons]
    congr 1
    omega

theorem ofDigits_toDigits {n : Nat} (h : n ≤ maxSignificand) :
    Significand.ofDigits 0 ((Nat.toDigits 10 n).map digitValue) =
      ⟨n, 0, (Nat.toDigits 10 n).length⟩ := by
  have hn : Nat.ofDigitChars 10 (Nat.toDigits 10 n) 0 = n := Nat.ofDigitChars_ten_toDigits
  rw [Significand.ofDigits, foldl_push_digits _ _ _ (by rw [hn]; exact h), hn, Nat.zero_add]

theorem isDigit_of_mem_toDigits {n : Nat} {c : Char} (h : c ∈ Nat.toDigits 10 n) : c.isDigit :=
  Nat.isDigit_of_mem_toDigits (by omega) (by omega) h

/-- A number above zero is not written with a zero in front. -/
theorem toDigits_head {n : Nat} (h : 0 < n) :
    ∃ c r, Nat.toDigits 10 n = c :: r ∧ 0 < digitValue c := by
  induction n using Nat.strongRecOn with
  | ind n ih =>
    by_cases hn : n < 10
    · refine ⟨n.digitChar, [], Nat.toDigits_of_lt_base hn, ?_⟩
      rw [digitValue, Nat.toNat_digitChar_of_lt_ten hn]
      have : '0'.toNat = 48 := rfl
      omega
    · obtain ⟨c, r, hr, hc⟩ := ih (n / 10) (by omega) (by omega)
      refine ⟨c, r ++ [(n % 10).digitChar], ?_, hc⟩
      rw [Nat.toDigits_of_base_le (by omega) (by omega), hr, List.cons_append]

theorem readUnsigned_toDigits (negative : Bool) {n : Nat} (h : n ≤ maxSignificand) :
    readUnsigned negative (Nat.toDigits 10 n) =
      if !negative then some (.int n)
      else if 0 < n && n ≤ 0x8000_0000_0000_0000 then some (.int (-n))
      else some (.float (-n.toUInt64.toFloat)) := by
  have htake := takeDigits_of_isDigit fun c hc => isDigit_of_mem_toDigits (n := n) hc
  have hvalue := ofDigits_toDigits h
  rcases Nat.eq_zero_or_pos n with rfl | hpos
  · rfl
  · obtain ⟨c, r, hcr, hc⟩ := toDigits_head hpos
    rw [hcr] at htake hvalue ⊢
    obtain ⟨d, hd⟩ : ∃ d, digitValue c = d + 1 := ⟨digitValue c - 1, by omega⟩
    rw [List.map_cons, hd] at htake hvalue
    simp [readUnsigned, htake, hvalue]

/-! ### Integers -/

theorem toList_toString_ofNat (m : Nat) :
    (toString (Int.ofNat m)).toList = Nat.toDigits 10 m := Nat.toList_repr

theorem toList_toString_negSucc (m : Nat) :
    (toString (Int.negSucc m)).toList = '-' :: Nat.toDigits 10 (m + 1) := by
  show ("-" ++ (m + 1).repr).toList = _
  rw [String.toList_append, Nat.toList_repr]
  rfl

/-- Reading inverts printing on the integers of 64 bits. -/
theorem readNumber?_toString {n : Int} (low : -0x8000_0000_0000_0000 ≤ n)
    (high : n < 0x1_0000_0000_0000_0000) : readNumber? (toString n).toList = some (.int n) := by
  cases n with
  | ofNat m =>
    have hm : m ≤ maxSignificand := by
      have : (m : Int) < 0x1_0000_0000_0000_0000 := high
      rw [maxSignificand]
      omega
    have hread := readUnsigned_toDigits false hm
    rw [toList_toString_ofNat]
    rcases hd : Nat.toDigits 10 m with - | ⟨c, r⟩
    · exact absurd hd Nat.toDigits_ne_nil
    · have hc : c.isDigit := isDigit_of_mem_toDigits (by rw [hd]; exact List.mem_cons_self)
      have hsign : c ≠ '-' := by
        rintro rfl
        exact absurd hc (by decide)
      rw [readNumber?.eq_def]
      split
      · next heq => exact absurd (List.cons.inj heq).1 hsign
      · rw [← hd, hread]
        rfl
  | negSucc m =>
    have hm : m + 1 ≤ 0x8000_0000_0000_0000 := by
      have : -0x8000_0000_0000_0000 ≤ -((m : Int) + 1) := by simpa [Int.negSucc_eq] using low
      omega
    rw [toList_toString_negSucc, readNumber?]
    rw [readUnsigned_toDigits true (by rw [maxSignificand]; omega)]
    rw [if_neg (by decide), if_pos (by simpa using hm)]
    rfl

end StartPage.Json
