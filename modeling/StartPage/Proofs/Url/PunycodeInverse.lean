import Mathlib.Data.List.TakeWhile
import StartPage.Proofs.Ascii
import StartPage.Proofs.Url.Punycode

/-!
    Labels and their codes, one to one. The encoder writes the numbers that a reader needs for the label,
    so that every label is read from its code. Since there is one row of numbers for a label, no other
    code in lower case stands for it.

        münchen   ──▶   mnchen - 3ya   ──▶   ü at place 1   ──▶   münchen            -/

namespace StartPage.Url.Punycode

variable {label basic ds pre suf : List Char} {s t u : Decoder} {e : Encoder} {c : Char}
  {n index code next basics : Nat}

/-! ### What the encoder writes -/

/-- The encoder, on its way past the places of the label for a code point, and what a reader makes of
    the text so far. `pre` is passed and `suf` is still to come; the reader has all the characters
    that are lower, and those of the code point that are passed. -/
structure Follows (start : List Char) (s : Decoder) (basics code : Nat) (pre suf : List Char)
    (e : Encoder) (t : Decoder) : Prop where
  written : ∃ ds, e.text = start ++ ds ∧ Writes s ds t
  label : t.label = pre.filter (·.toNat ≤ code) ++ suf.filter (·.toNat < code)
  placed : e.placed = t.label.length
  bias : e.bias = t.bias
  first : (e.placed == basics) = (t.index == 0)
  basics : basics ≤ e.placed
  behind : t.code ≤ code
  count : t.index + e.steps =
    (code - t.code) * (e.placed + 1) + (pre.filter (·.toNat ≤ code)).length

variable {start : List Char}

/-- Passing a place: a lower character is counted, one of the code point is written, and a higher one
    makes no difference. -/
theorem Follows.pass (h : Follows start s basics code pre (c :: suf) e t) :
    ∃ u, Follows start s basics code (pre ++ [c]) suf (e.pass basics code c) u := by
  have hcount := h.count
  have hlabel := h.label
  rcases Nat.lt_trichotomy c.toNat code with hc | rfl | hc
  · have hpass : e.pass basics code c = { e with steps := e.steps + 1 } := if_pos hc
    refine ⟨t, ?_⟩
    rw [hpass]
    refine ⟨h.written, ?_, h.placed, h.bias, h.first, h.basics, h.behind, ?_⟩
    · simp [hlabel, hc, Nat.le_of_lt hc]
    · have hlow : [c].filter (·.toNat ≤ code) = [c] := by simp [Nat.le_of_lt hc]
      rw [List.filter_append, List.length_append, hlow, List.length_singleton]
      dsimp only
      omega
  · have hpass : e.pass basics c.toNat c =
        ⟨e.text ++ digits 36 e.bias e.steps, e.placed + 1, 0,
          adapt e.steps (e.placed + 1) (e.placed == basics)⟩ := by
      rw [Encoder.pass, if_neg (Nat.lt_irrefl _), if_pos rfl]
    have hreaches : t.Reaches e.steps c (pre.filter (·.toNat ≤ c.toNat)).length :=
      ⟨h.behind, by simp [hlabel], h.placed ▸ hcount⟩
    obtain ⟨ds, htext, hwrites⟩ := h.written
    refine ⟨t.put e.steps c (pre.filter (·.toNat ≤ c.toNat)).length, ?_⟩
    rw [hpass]
    refine ⟨⟨_, by rw [htext, h.bias, List.append_assoc], hwrites.next hreaches⟩, ?_, ?_, ?_, ?_,
      Nat.le_succ_of_le h.basics, Nat.le_refl _, ?_⟩
    · simp [Decoder.put, hlabel]
    · rw [hreaches.length_put, h.placed]
    · rw [Decoder.put, ← h.placed, h.first]
    · have hfirst : (e.placed + 1 == basics) = false :=
        beq_false_of_ne (Nat.ne_of_gt (Nat.lt_succ_of_le h.basics))
      exact hfirst
    · simp [Decoder.put]
  · have hpass : e.pass basics code c = e := by
      rw [Encoder.pass, if_neg (Nat.lt_asymm hc), if_neg (Nat.ne_of_gt hc)]
    refine ⟨t, ?_⟩
    rw [hpass]
    refine ⟨h.written, ?_, h.placed, h.bias, h.first, h.basics, h.behind, ?_⟩
    · simp [hlabel, Nat.not_lt_of_gt hc, Nat.not_le_of_gt hc]
    · simpa [Nat.not_le_of_gt hc] using hcount

theorem Follows.foldl_pass (h : Follows start s basics code pre suf e t) :
    ∃ u, Follows start s basics code (pre ++ suf) [] (suf.foldl (Encoder.pass basics code) e) u := by
  induction suf generalizing pre e t with
  | nil => exact ⟨t, by rwa [List.append_nil]⟩
  | cons c suf ih =>
    obtain ⟨u, hu⟩ := h.pass
    obtain ⟨v, hv⟩ := ih hu
    exact ⟨v, by rwa [List.append_assoc] at hv⟩

/-- All places are passed for a code point, and the next one is up. -/
theorem Follows.onward (h : Follows start s basics code label [] e t) :
    Follows start s basics (code + 1) [] label { e with steps := e.steps + 1 } t := by
  have hlabel : t.label = label.filter (·.toNat ≤ code) := by
    rw [h.label, List.filter_nil, List.append_nil]
  have hcount := h.count
  have hbehind := h.behind
  rw [← hlabel, ← h.placed] at hcount
  refine ⟨h.written, ?_, h.placed, h.bias, h.first, h.basics, Nat.le_succ_of_le hbehind, ?_⟩
  · simp only [hlabel, List.filter_nil, List.nil_append, Nat.lt_succ_iff]
  · have hnext : code + 1 - t.code = code - t.code + 1 := by omega
    dsimp only
    rw [hnext, Nat.add_mul, Nat.one_mul, List.filter_nil, List.length_nil]
    omega

/-- Code points of no character are skipped. -/
theorem Follows.skip (h : Follows start s basics next [] label e t) (ahead : next ≤ code)
    (absent : ∀ c ∈ label, c.toNat < code → c.toNat < next) :
    Follows start s basics code [] label
      { e with steps := e.steps + (code - next) * (e.placed + 1) } t := by
  have hcount := h.count
  have hbehind := h.behind
  refine ⟨h.written, ?_, h.placed, h.bias, h.first, h.basics, Nat.le_trans hbehind ahead, ?_⟩
  · rw [h.label, List.filter_nil, List.filter_nil]
    refine congrArg _ (List.filter_congr fun c hc => ?_)
    exact decide_eq_decide.2 ⟨fun hlt => Nat.lt_of_lt_of_le hlt ahead, absent c hc⟩
  · have hdistance : code - t.code = (next - t.code) + (code - next) := by omega
    dsimp only
    rw [List.filter_nil, List.length_nil] at hcount ⊢
    rw [hdistance, Nat.add_mul]
    omega

/-- A run over code points among which are those of all characters that are left. -/
theorem Follows.run {codes : List Nat} (h : Follows start s basics next [] label e t)
    (ascending : codes.Pairwise (· < ·)) (ahead : ∀ code ∈ codes, next ≤ code)
    (listed : ∀ c ∈ label, next ≤ c.toNat → c.toNat ∈ codes) :
    ∃ ds u, (Encoder.run label basics next e codes).text = start ++ ds ∧ Writes s ds u ∧
      u.label = label := by
  induction codes generalizing next e t with
  | nil =>
    obtain ⟨ds, htext, hwrites⟩ := h.written
    refine ⟨ds, t, htext, hwrites, ?_⟩
    rw [h.label, List.filter_nil, List.nil_append, List.filter_eq_self]
    intro c hc
    exact decide_eq_true (Nat.lt_of_not_le fun hle => absurd (listed c hc hle) List.not_mem_nil)
  | cons code codes ih =>
    obtain ⟨hfirst, hrest⟩ := List.pairwise_cons.1 ascending
    have absent : ∀ c ∈ label, c.toNat < code → c.toNat < next := by
      refine fun c hc hlt => Nat.lt_of_not_le fun hle => ?_
      rcases List.mem_cons.1 (listed c hc hle) with heq | hmem
      · omega
      · exact absurd (hfirst _ hmem) (Nat.lt_asymm hlt)
    obtain ⟨u, hu⟩ := (h.skip (ahead code List.mem_cons_self) absent).foldl_pass
    refine ih hu.onward hrest hfirst fun c hc hle => ?_
    rcases List.mem_cons.1 (listed c hc (Nat.le_trans (ahead code List.mem_cons_self)
      (Nat.le_of_succ_le hle))) with heq | hmem
    · omega
    · exact hmem

theorem mem_insertCode {m : Nat} {codes : List Nat} :
    m ∈ insertCode n codes ↔ m = n ∨ m ∈ codes := by
  induction codes with
  | nil => exact List.mem_cons
  | cons k r ih =>
    rw [insertCode]
    split
    · exact List.mem_cons
    split
    · next heq => simp [heq]
    · rw [List.mem_cons, ih, List.mem_cons, or_left_comm]

theorem pairwise_insertCode {codes : List Nat} (h : codes.Pairwise (· < ·)) :
    (insertCode n codes).Pairwise (· < ·) := by
  induction codes with
  | nil => exact List.pairwise_singleton ..
  | cons k r ih =>
    obtain ⟨hk, hr⟩ := List.pairwise_cons.1 h
    rw [insertCode]
    split
    · next hlt =>
      exact List.pairwise_cons.2 ⟨List.forall_mem_cons.2 ⟨hlt, fun m hm =>
        Nat.lt_trans hlt (hk m hm)⟩, h⟩
    split
    · exact h
    · next hge hne =>
      refine List.pairwise_cons.2 ⟨fun m hm => ?_, ih hr⟩
      rcases mem_insertCode.1 hm with rfl | hm
      · omega
      · exact hk m hm

/-- The code points that are gone through ascend, and they are those of the characters. -/
theorem codes_ascending (cs : List Char) :
    (cs.foldr (fun c ns => insertCode c.toNat ns) []).Pairwise (· < ·) ∧
      ∀ m, m ∈ cs.foldr (fun c ns => insertCode c.toNat ns) [] ↔ ∃ c ∈ cs, c.toNat = m := by
  induction cs with
  | nil => simp
  | cons c r ih =>
    refine ⟨pairwise_insertCode ih.1, fun m => ?_⟩
    rw [List.foldr_cons, mem_insertCode, ih.2]
    simp [eq_comm]

/-- What stands in front of the digits. -/
def lead (basic : List Char) : List Char := if basic.isEmpty then [] else basic ++ ['-']

theorem mem_lead (h : c ∈ lead basic) : c ∈ basic ∨ c = '-' := by
  rw [lead] at h
  split at h
  · exact absurd h List.not_mem_nil
  · exact (List.mem_append.1 h).imp_right List.mem_singleton.1

/-- A code is made up of the ASCII characters of the label and of digits that make the reader complete
    it. -/
theorem exists_writes_encode (label : List Char) :
    ∃ ds u, encode label = lead (label.filter isBasic) ++ ds ∧
      Writes (.ofBasic (label.filter isBasic)) ds u ∧ u.label = label := by
  have hstart : Follows (lead (label.filter isBasic)) (.ofBasic (label.filter isBasic))
      (label.filter isBasic).length 0x80 [] label
      ⟨lead (label.filter isBasic), (label.filter isBasic).length, 0, 72⟩
      (.ofBasic (label.filter isBasic)) :=
    ⟨⟨[], (List.append_nil _).symm, .nil⟩, rfl, rfl, rfl, beq_self_eq_true _, Nat.le_refl _,
      Nat.le_refl _, by simp [Decoder.ofBasic]⟩
  obtain ⟨ascending, listed⟩ := codes_ascending (label.filter (!isBasic ·))
  refine hstart.run ascending (fun code hcode => ?_) fun c hc hle => (listed _).2 ⟨c, ?_, rfl⟩
  · obtain ⟨c, hc, rfl⟩ := (listed code).1 hcode
    simpa [isBasic] using (List.mem_filter.1 hc).2
  · exact List.mem_filter.2 ⟨hc, by simpa [isBasic] using hle⟩

/-- A character of the code is an ASCII character of the label, the hyphen, or a digit. -/
theorem mem_encode (h : c ∈ encode label) :
    (c ∈ label ∧ isBasic c = true) ∨ c = '-' ∨ ∃ d < 36, digitChar d = c := by
  obtain ⟨ds, u, hcode, hwrites, -⟩ := exists_writes_encode label
  have hdigits := hwrites.forall_mem (P := fun c => ∃ d < 36, digitChar d = c)
    fun d hd => ⟨d, hd, rfl⟩
  rw [hcode] at h
  rcases List.mem_append.1 h with h | h
  · rcases mem_lead h with h | h
    · exact .inl (List.mem_filter.1 h)
    · exact .inr (.inl h)
  · exact .inr (.inr (hdigits c h))

/-! ### Reading codes -/

/-- A code without hyphens has no ASCII characters in front. -/
theorem splitBasic_of_forall {text : List Char} (h : ∀ c ∈ text, (c != '-') = true) :
    splitBasic text = ([], text) := by
  have hnone : text.reverse.dropWhile (· != '-') = [] :=
    List.dropWhile_eq_nil_iff.2 fun c hc => h c (List.mem_reverse.1 hc)
  rw [splitBasic, hnone]
  rfl

theorem splitBasic_append (hyphenless : ∀ c ∈ ds, (c != '-') = true) :
    splitBasic (lead basic ++ ds) = (basic, ds) := by
  by_cases hbasic : basic = []
  · subst hbasic
    exact splitBasic_of_forall hyphenless
  · have hreverse : ∀ c ∈ ds.reverse, (c != '-') = true :=
      fun c hc => hyphenless c (List.mem_reverse.1 hc)
    have htext : (lead basic ++ ds).reverse = ds.reverse ++ '-' :: basic.reverse := by
      simp [lead, hbasic]
    have htake : (ds.reverse ++ '-' :: basic.reverse).takeWhile (· != '-') =
        ds.reverse ++ ('-' :: basic.reverse).takeWhile (· != '-') :=
      List.takeWhile_append_of_pos hreverse
    have hdrop : (ds.reverse ++ '-' :: basic.reverse).dropWhile (· != '-') =
        ('-' :: basic.reverse).dropWhile (· != '-') := List.dropWhile_append_of_pos hreverse
    simp [splitBasic, htext, htake, hdrop, hbasic]

/-- A label reads back from its code. -/
theorem decode?_encode (label : List Char) : decode? (encode label) = some label := by
  obtain ⟨ds, u, hcode, hwrites, hlabel⟩ := exists_writes_encode label
  have hyphenless : ∀ c ∈ ds, (c != '-') = true :=
    hwrites.forall_mem (P := fun c => (c != '-') = true) (by decide)
  have hbasic : (label.filter isBasic).all isBasic = true :=
    List.all_eq_true.2 fun c hc => (List.mem_filter.1 hc).2
  have hfresh := isFresh_ofBasic (label.filter isBasic)
  have hread := hwrites.foldlM_push? hfresh
  rw [Decoder.ofBasic] at hread
  rw [decode?, hcode, splitBasic_append hyphenless]
  dsimp only
  rw [if_pos hbasic, hread, Option.bind_eq_bind, Option.bind_some, Decoder.finish?,
    if_pos (hwrites.isFresh hfresh).place, hlabel]

/-! ### Codes in lower case -/

theorem lt_of_digit? {d : Nat} (h : digit? c = some d) : c.toNat < 0x80 := by
  have hletter : ∀ {b : Char}, b.toNat < 0x80 → c ≤ b → c.toNat < 0x80 :=
    fun hb hle => Nat.lt_of_le_of_lt hle hb
  unfold digit? at h
  simp only [Bool.and_eq_true, decide_eq_true_eq] at h
  split at h
  · next hc => exact hletter (by decide) hc.2
  split at h
  · next hc => exact hletter (by decide) hc.2
  split at h
  · next hc => exact Ascii.lt_of_isAlphanum (by rw [Char.isAlphanum, hc, Bool.or_true])
  · cases h

/-- A digit in lower case is written as it stands. -/
theorem digitChar_of_digit? {d : Nat} (h : digit? c = some d) (lower : c.isUpper = false) :
    d < 36 ∧ digitChar d = c := by
  have hlookup := Ascii.forall_of_lookup
    (p := fun c => c.isUpper || (digit? c).all fun d => decide (d < 36) && digitChar d == c)
    (by decide +kernel) (lt_of_digit? h)
  simpa [lower, h] using hlookup

/-- The digits of a number that is more than the threshold and a digit. -/
theorem digits_of_le {place bias d : Nat} (hd : d < 36) (hle : threshold place bias ≤ d) (n : Nat) :
    digits place bias (d + n * (36 - threshold place bias)) =
      digitChar d :: digits (place + 36) bias n := by
  have hpos : 0 < 36 - threshold place bias := by omega
  have hlow : d - threshold place bias < 36 - threshold place bias := by omega
  have hrest : d + n * (36 - threshold place bias) - threshold place bias =
      d - threshold place bias + n * (36 - threshold place bias) := by omega
  have hmod : (d - threshold place bias + n * (36 - threshold place bias)) %
      (36 - threshold place bias) = d - threshold place bias := by
    rw [Nat.add_mul_mod_self_right, Nat.mod_eq_of_lt hlow]
  have hdiv : (d - threshold place bias + n * (36 - threshold place bias)) /
      (36 - threshold place bias) = n := by
    rw [Nat.add_mul_div_right _ _ hpos, Nat.div_eq_of_lt hlow, Nat.zero_add]
  rw [digits, if_neg (by omega), hrest, hmod, hdiv, Nat.add_sub_cancel' hle]

/-- Digits in lower case that are read to the end of a number are the digits of one, which may have
    been begun already. -/
theorem exists_number (lower : ∀ c ∈ ds, c.isUpper = false)
    (hread : ds.foldlM Decoder.push? s = some u) (hend : u.place = 36) (hplace : 36 ≤ s.place)
    (begun : ds = [] → 36 < s.place) :
    ∃ n rest t, ds = digits s.place s.bias n ++ rest ∧
      s.insert? (s.number + n * s.weight) = some t ∧ rest.foldlM Decoder.push? t = some u := by
  induction ds generalizing s with
  | nil =>
    obtain rfl := Option.some.inj hread
    exact absurd hend (Nat.ne_of_gt (begun rfl))
  | cons c r ih =>
    obtain ⟨hlower, hrest⟩ := List.forall_mem_cons.1 lower
    rw [List.foldlM_cons] at hread
    obtain ⟨t, hpush, htail⟩ := Option.bind_eq_some_iff.1 hread
    obtain ⟨d, hdigit, -⟩ := Option.bind_eq_some_iff.1 hpush
    obtain ⟨hd, rfl⟩ := digitChar_of_digit? hdigit hlower
    rw [Decoder.push?_digitChar hd] at hpush
    split at hpush
    · next hlast =>
      refine ⟨d, r, t, ?_, hpush, htail⟩
      rw [digits, if_pos hlast, List.singleton_append]
    · next hmore =>
      obtain rfl := Option.some.inj hpush
      obtain ⟨n, rest, t, rfl, hinsert, htail⟩ :=
        ih hrest htail (Nat.le_add_left ..) fun _ => Nat.lt_add_of_pos_left (by omega)
      refine ⟨d + n * (36 - threshold s.place s.bias), rest, t, ?_, ?_, htail⟩
      · rw [digits_of_le hd (Nat.le_of_not_lt hmore), List.cons_append]
      · have hsum : s.number + (d + n * (36 - threshold s.place s.bias)) * s.weight =
            s.number + d * s.weight + n * (s.weight * (36 - threshold s.place s.bias)) := by ring
        rw [hsum]
        exact hinsert

/-- Digits in lower case that are read as whole numbers are the digits of these. -/
theorem exists_writes (lower : ∀ c ∈ ds, c.isUpper = false) (hs : s.IsFresh)
    (hread : ds.foldlM Decoder.push? s = some u) (hend : u.place = 36) : Writes s ds u := by
  induction hlength : ds.length using Nat.strongRecOn generalizing s ds with
  | _ length ih =>
    by_cases hempty : ds = []
    · subst hempty
      obtain rfl := Option.some.inj hread
      exact .nil
    · obtain ⟨n, rest, t, rfl, hinsert, htail⟩ :=
        exists_number lower hread hend (Nat.le_of_eq hs.place.symm) fun h => absurd h hempty
      rw [hs.number, hs.weight, Nat.mul_one, Nat.zero_add] at hinsert
      obtain ⟨c, index, hreaches, rfl⟩ := Decoder.exists_reaches hinsert
      have hshorter : rest.length < length := by
        have hpos := List.length_pos_iff.2 (digits_ne_nil s.place s.bias n)
        rw [← hlength, List.length_append]
        omega
      rw [hs.place]
      exact .cons hreaches (ih rest.length hshorter
        (fun d hd => lower d (List.mem_append_right _ hd)) ⟨rfl, rfl, rfl⟩ htail rfl)

/-! ### Codes are one to one -/

theorem lead_append_splitBasic (text : List Char) :
    lead (splitBasic text).1 ++ (splitBasic text).2 = text := by
  rw [splitBasic]
  split
  · rfl
  · next hbasic =>
    have hparts := List.takeWhile_append_dropWhile (p := (· != '-')) (l := text.reverse)
    cases hdrop : text.reverse.dropWhile (· != '-') with
    | nil =>
      rw [hdrop] at hbasic
      exact absurd rfl hbasic
    | cons c basic =>
      have hhyphen : c = '-' := by
        have hnot := List.head?_dropWhile_not (· != '-') text.reverse
        rw [hdrop] at hnot
        simpa using hnot
      have hlead : lead basic.reverse = basic.reverse ++ ['-'] := by
        rw [hdrop] at hbasic
        exact if_neg (by simpa using hbasic)
      rw [hdrop, hhyphen] at hparts
      have htext := congrArg List.reverse hparts
      rw [List.reverse_reverse, List.reverse_append, List.reverse_cons] at htext
      dsimp only
      rw [List.drop_one, List.tail_cons, hlead]
      exact htext

/-- A code that stands for a label is made up of ASCII characters and of digits that are read to the
    end of a number. -/
theorem exists_of_decode? {text code : List Char} (h : decode? code = some text) :
    ∃ basic ds u, code = lead basic ++ ds ∧ (∀ c ∈ basic, isBasic c = true) ∧
      ds.foldlM Decoder.push? (.ofBasic basic) = some u ∧ u.place = 36 ∧ u.label = text := by
  rw [decode?] at h
  dsimp only at h
  rw [Option.ite_none_right_eq_some] at h
  obtain ⟨hbasic, h⟩ := h
  obtain ⟨u, hread, hfinish⟩ := Option.bind_eq_some_iff.1 h
  rw [Decoder.finish?, Option.ite_none_right_eq_some] at hfinish
  obtain ⟨hend, hlabel⟩ := hfinish
  exact ⟨_, _, u, (lead_append_splitBasic code).symm, List.all_eq_true.1 hbasic, hread, hend,
    Option.some.inj hlabel⟩

/-- The ASCII characters of a label stand in front of the digits. -/
theorem filter_isBasic_of_foldlM {u : Decoder} (hbasic : ∀ c ∈ basic, isBasic c = true)
    (h : ds.foldlM Decoder.push? (.ofBasic basic) = some u) : u.label.filter isBasic = basic :=
  (Decoder.Keeps.foldlM ⟨Nat.le_refl _, List.filter_eq_self.2 hbasic⟩ h).kept

/-- A code in lower case is the one that the label has. -/
theorem encode_of_decode? {text code : List Char} (h : decode? code = some text)
    (lower : ∀ c ∈ code, c.isUpper = false) : encode text = code := by
  obtain ⟨basic, ds, u, rfl, hall, hread, hend, rfl⟩ := exists_of_decode? h
  have hwrites : Writes (.ofBasic basic) ds u := exists_writes
    (fun c hc => lower c (List.mem_append_right _ hc)) (isFresh_ofBasic basic) hread hend
  obtain ⟨ds', u', hencode, hwrites', hlabel⟩ := exists_writes_encode u.label
  rw [filter_isBasic_of_foldlM hall hread] at hencode hwrites'
  rw [hencode, (hwrites'.unique hwrites (isOrdered_ofBasic hall) hlabel).1]

end StartPage.Url.Punycode
