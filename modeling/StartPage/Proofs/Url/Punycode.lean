import Mathlib.Tactic.Ring
import StartPage.Url.Punycode

/-!
    Labels in ASCII as rows of numbers. A number is written in digits, and a reader adds what it reads to
    the number it has begun. When the number ends, one character comes to its place.

        130944   ──▶   j50i   ──▶   9 + 31 · 35 + 26 · 35² + 8 · 35² · 10

    There is only one order in which the characters of a label can have come to their places: the
    highest last, and those of one code point from the left. So there is one row of numbers for it. -/

namespace StartPage.Url.Punycode

variable {basic ds : List Char} {s t u : Decoder} {c : Char} {n index : Nat}

theorem toNat_ofNat {n : Nat} (h : n.isValidChar) : (Char.ofNat n).toNat = n := by
  unfold Char.ofNat
  rw [dif_pos h]
  rfl

/-! ### Digits -/

theorem digit?_digitChar : ∀ {d : Nat}, d < 36 → digit? (digitChar d) = some d := by decide

/-- The digit of a place that others follow. -/
theorem digit_lt (place bias n : Nat) :
    threshold place bias + (n - threshold place bias) % (36 - threshold place bias) < 36 := by
  have hle := threshold_le place bias
  have hmod := Nat.mod_lt (n - threshold place bias) (y := 36 - threshold place bias) (by omega)
  omega

theorem forall_mem_digits {P : Char → Prop} (h : ∀ d < 36, P (digitChar d)) (place bias n : Nat) :
    ∀ c ∈ digits place bias n, P c := by
  fun_induction digits place bias n with
  | case1 place n t hlast =>
    have hle := threshold_le place bias
    exact List.forall_mem_singleton.2 (h n (by omega))
  | case2 place n t hmore ih =>
    exact List.forall_mem_cons.2 ⟨h _ (digit_lt place bias n), ih⟩

theorem digits_ne_nil (place bias n : Nat) : digits place bias n ≠ [] := by
  rw [digits]
  split
  · exact List.cons_ne_nil _ _
  · exact List.cons_ne_nil _ _

theorem Decoder.push?_digitChar {s : Decoder} {d : Nat} (h : d < 36) :
    s.push? (digitChar d) =
      if d < threshold s.place s.bias then s.insert? (s.number + d * s.weight)
      else some { s with
        number := s.number + d * s.weight
        weight := s.weight * (36 - threshold s.place s.bias)
        place := s.place + 36 } := by
  rw [Decoder.push?, digit?_digitChar h]
  rfl

/-- The digits of a number are read as what it adds to the number being read. -/
theorem foldlM_push?_digits (n : Nat) (s : Decoder) (rest : List Char) :
    (digits s.place s.bias n ++ rest).foldlM Decoder.push? s =
      (s.insert? (s.number + n * s.weight)).bind (rest.foldlM Decoder.push?) := by
  generalize hplace : s.place = place
  generalize hbias : s.bias = bias
  fun_induction digits place bias n generalizing s with
  | case1 place n t hlast =>
    subst hplace hbias
    have hle := threshold_le s.place s.bias
    rw [List.singleton_append, List.foldlM_cons, Decoder.push?_digitChar (by omega), if_pos hlast]
    rfl
  | case2 place n t hmore ih =>
    subst hplace hbias
    have hsum : s.number + (t + (n - t) % (36 - t)) * s.weight +
        (n - t) / (36 - t) * (s.weight * (36 - t)) = s.number + n * s.weight := by
      have hsplit : (n - t) % (36 - t) + (36 - t) * ((n - t) / (36 - t)) = n - t :=
        Nat.mod_add_div ..
      have hwhole : t + (n - t) % (36 - t) + (36 - t) * ((n - t) / (36 - t)) = n := by omega
      calc
        _ = s.number + (t + (n - t) % (36 - t) + (36 - t) * ((n - t) / (36 - t))) * s.weight := by
          ring
        _ = _ := by rw [hwhole]
    rw [List.cons_append, List.foldlM_cons, Decoder.push?_digitChar (digit_lt ..), if_neg (by omega)]
    refine (ih { s with
      number := s.number + (t + (n - t) % (36 - t)) * s.weight
      weight := s.weight * (36 - t)
      place := s.place + 36 } rfl rfl).trans ?_
    rw [hsum]
    rfl

/-! ### Characters in their places -/

/-- The number takes the counter on to a place, at the code point of the character. -/
structure Decoder.Reaches (s : Decoder) (n : Nat) (c : Char) (index : Nat) : Prop where
  ahead : s.code ≤ c.toNat
  within : index ≤ s.label.length
  count : s.index + n = (c.toNat - s.code) * (s.label.length + 1) + index

/-- The character is put in the place. -/
def Decoder.put (s : Decoder) (n : Nat) (c : Char) (index : Nat) : Decoder where
  label := s.label.take index ++ c :: s.label.drop index
  code := c.toNat
  index := index + 1
  bias := adapt n (s.label.length + 1) (s.index == 0)
  number := 0
  weight := 1
  place := 36

theorem Decoder.Reaches.insert? (h : s.Reaches n c index) : s.insert? n = some (s.put n c index) := by
  have hlt : index < s.label.length + 1 := Nat.lt_succ_of_le h.within
  have hdiv : (s.index + n) / (s.label.length + 1) = c.toNat - s.code := by
    rw [h.count, Nat.add_comm, Nat.add_mul_div_right _ _ (Nat.succ_pos _), Nat.div_eq_of_lt hlt,
      Nat.zero_add]
  have hmod : (s.index + n) % (s.label.length + 1) = index := by
    rw [h.count, Nat.add_comm, Nat.add_mul_mod_self_right, Nat.mod_eq_of_lt hlt]
  have hcode : s.code + (c.toNat - s.code) = c.toNat := Nat.add_sub_cancel' h.ahead
  have hvalid : c.toNat.isValidChar := c.valid
  rw [Decoder.insert?, hdiv, hmod, hcode, if_pos hvalid, Char.ofNat_toNat]
  rfl

theorem Decoder.Reaches.length_put (h : s.Reaches n c index) :
    (s.put n c index).label.length = s.label.length + 1 := by
  have hwithin := h.within
  simp only [put, List.length_append, List.length_take, List.length_cons, List.length_drop]
  omega

theorem Decoder.exists_reaches (h : s.insert? n = some t) :
    ∃ c index, s.Reaches n c index ∧ t = s.put n c index := by
  by_cases hvalid : (s.code + (s.index + n) / (s.label.length + 1)).isValidChar
  · have hcode := toNat_ofNat hvalid
    have hreaches : s.Reaches n (Char.ofNat (s.code + (s.index + n) / (s.label.length + 1)))
        ((s.index + n) % (s.label.length + 1)) := by
      refine ⟨?_, Nat.le_of_lt_succ (Nat.mod_lt _ (Nat.succ_pos _)), ?_⟩
      · rw [hcode]
        exact Nat.le_add_right ..
      · rw [hcode, Nat.add_sub_cancel_left, Nat.div_add_mod']
    exact ⟨_, _, hreaches, Option.some.inj (h.symm.trans hreaches.insert?)⟩
  · rw [Decoder.insert?, if_neg hvalid] at h
    cases h

/-- No number is being read. -/
structure Decoder.IsFresh (s : Decoder) : Prop where
  number : s.number = 0
  weight : s.weight = 1
  place : s.place = 36

/-- Digits of whole numbers, and what they make of the reader. -/
inductive Writes (s : Decoder) : List Char → Decoder → Prop
  | nil : Writes s [] s
  | next {ds : List Char} {t : Decoder} {n : Nat} {c : Char} {index : Nat} (h : Writes s ds t)
      (hreaches : t.Reaches n c index) : Writes s (ds ++ digits 36 t.bias n) (t.put n c index)

theorem Writes.isFresh (h : Writes s ds t) (hs : s.IsFresh) : t.IsFresh := by
  cases h with
  | nil => exact hs
  | next => exact ⟨rfl, rfl, rfl⟩

theorem foldlM_push?_number (hs : s.IsFresh) (n : Nat) (rest : List Char) :
    (digits 36 s.bias n ++ rest).foldlM Decoder.push? s =
      (s.insert? n).bind (rest.foldlM Decoder.push?) := by
  have hread := foldlM_push?_digits n s rest
  rwa [hs.number, hs.weight, hs.place, Nat.mul_one, Nat.zero_add] at hread

/-- The digits are read as what they make of the reader. -/
theorem Writes.foldlM_push? (h : Writes s ds t) (hs : s.IsFresh) :
    ds.foldlM Decoder.push? s = some t := by
  induction h with
  | nil => rfl
  | @next ds t n c index h hreaches ih =>
    have hnumber := foldlM_push?_number (h.isFresh hs) n []
    rw [List.append_nil, hreaches.insert?] at hnumber
    rw [List.foldlM_append, ih]
    exact hnumber

theorem Writes.forall_mem {P : Char → Prop} (hdigit : ∀ d < 36, P (digitChar d))
    (h : Writes s ds t) : ∀ c ∈ ds, P c := by
  induction h with
  | nil => nofun
  | next _ _ ih => exact List.forall_mem_append.2 ⟨ih, forall_mem_digits hdigit _ _ _⟩

theorem Writes.cons (hreaches : s.Reaches n c index) (h : Writes (s.put n c index) ds u) :
    Writes s (digits 36 s.bias n ++ ds) u := by
  induction h with
  | nil =>
    rw [List.append_nil, ← List.nil_append (digits 36 s.bias n)]
    exact Writes.nil.next hreaches
  | next _ hlater ih =>
    rw [← List.append_assoc]
    exact ih.next hlater

/-- The reader before the digits, with the ASCII characters in place. -/
def Decoder.ofBasic (basic : List Char) : Decoder := ⟨basic, 0x80, 0, 72, 0, 1, 36⟩

theorem isFresh_ofBasic (basic : List Char) : (Decoder.ofBasic basic).IsFresh := ⟨rfl, rfl, rfl⟩

/-! ### The order of characters -/

/-- No character is higher than the last that was put in, and none to the right of it is as high. -/
structure Decoder.IsOrdered (s : Decoder) : Prop where
  before : ∀ c ∈ s.label.take s.index, c.toNat ≤ s.code
  after : ∀ c ∈ s.label.drop s.index, c.toNat < s.code

theorem isOrdered_ofBasic (hbasic : ∀ c ∈ basic, isBasic c = true) :
    (Decoder.ofBasic basic).IsOrdered :=
  ⟨nofun, fun c hc => of_decide_eq_true (hbasic c hc)⟩

/-- The character that comes next is no lower than those before it, and higher than those after it. -/
theorem Decoder.IsOrdered.of_reaches (h : s.IsOrdered) (hreaches : s.Reaches n c index) :
    (∀ d ∈ s.label.take index, d.toNat ≤ c.toNat) ∧ ∀ d ∈ s.label.drop index, d.toNat < c.toNat := by
  have hahead := hreaches.ahead
  have hall : ∀ d ∈ s.label, d.toNat ≤ s.code := by
    intro d hd
    rw [← List.take_append_drop s.index s.label] at hd
    exact (List.mem_append.1 hd).elim (h.before d) fun hd => Nat.le_of_lt (h.after d hd)
  refine ⟨fun d hd => Nat.le_trans (hall d (List.mem_of_mem_take hd)) hahead, fun d hd => ?_⟩
  rcases Nat.eq_or_lt_of_le hahead with heq | hlt
  · -- the counter is still at the same code point, so it has moved to the right
    have hcount := hreaches.count
    rw [← heq, Nat.sub_self, Nat.zero_mul, Nat.zero_add] at hcount
    rw [← heq]
    exact h.after d (List.drop_subset_drop_left s.label (hcount ▸ Nat.le_add_right ..) hd)
  · exact Nat.lt_of_le_of_lt (hall d (List.mem_of_mem_drop hd)) hlt

theorem Decoder.IsOrdered.put (h : s.IsOrdered) (hreaches : s.Reaches n c index) :
    (s.put n c index).IsOrdered := by
  obtain ⟨hbefore, hafter⟩ := h.of_reaches hreaches
  have hlength : (s.label.take index ++ [c]).length = index + 1 := by
    rw [List.length_append, List.length_take_of_le hreaches.within, List.length_singleton]
  have hlabel : (s.put n c index).label = (s.label.take index ++ [c]) ++ s.label.drop index := by
    rw [List.append_assoc, List.singleton_append]
    rfl
  refine ⟨fun d hd => ?_, fun d hd => ?_⟩
  · rw [hlabel, Decoder.put, List.take_left' hlength] at hd
    rcases List.mem_append.1 hd with hd | hd
    · exact hbefore d hd
    · rw [List.mem_singleton.1 hd]
      exact Nat.le_refl _
  · rw [hlabel, Decoder.put, List.drop_left' hlength] at hd
    exact hafter d hd

theorem Writes.isOrdered (h : Writes s ds t) (hs : s.IsOrdered) : t.IsOrdered := by
  induction h with
  | nil => exact hs
  | next _ hreaches ih => exact ih.put hreaches

theorem Writes.length_le (h : Writes s ds t) : s.label.length ≤ t.label.length := by
  induction h with
  | nil => exact Nat.le_refl _
  | next _ hreaches ih =>
    rw [hreaches.length_put]
    exact Nat.le_succ_of_le ih

theorem not_highest_twice {before mid after : List Char} {d : Char}
    (hafter : ∀ x ∈ mid ++ d :: after, x.toNat < c.toNat)
    (hbefore : ∀ x ∈ before ++ c :: mid, x.toNat ≤ d.toNat) : False := by
  have hd := hafter d (List.mem_append_right _ List.mem_cons_self)
  have hc := hbefore c (List.mem_append_right _ List.mem_cons_self)
  omega

/-- There is one place for the last of the highest characters of a text. -/
theorem parts_unique {before after before' after' : List Char} {d : Char}
    (heq : before ++ c :: after = before' ++ d :: after')
    (hbefore : ∀ x ∈ before, x.toNat ≤ c.toNat) (hafter : ∀ x ∈ after, x.toNat < c.toNat)
    (hbefore' : ∀ x ∈ before', x.toNat ≤ d.toNat) (hafter' : ∀ x ∈ after', x.toNat < d.toNat) :
    before = before' ∧ c = d ∧ after = after' := by
  rcases List.append_eq_append_iff.1 heq with ⟨mid, rfl, hmid⟩ | ⟨mid, rfl, hmid⟩
  · cases mid with
    | nil =>
      obtain ⟨hc, hrest⟩ := List.cons.inj hmid
      exact ⟨(List.append_nil _).symm, hc, hrest⟩
    | cons x mid =>
      obtain ⟨rfl, rfl⟩ := List.cons.inj hmid
      exact (not_highest_twice hafter hbefore').elim
  · cases mid with
    | nil =>
      obtain ⟨hc, hrest⟩ := List.cons.inj hmid
      exact ⟨List.append_nil _, hc.symm, hrest.symm⟩
    | cons x mid =>
      obtain ⟨rfl, rfl⟩ := List.cons.inj hmid
      exact (not_highest_twice hafter' hbefore).elim

/-- There is one row of numbers for a label: the last one puts in the last of its highest characters. -/
theorem Writes.unique {ds' : List Char} (h : Writes s ds t) (h' : Writes s ds' u)
    (hs : s.IsOrdered) (hlabel : t.label = u.label) : ds = ds' ∧ t = u := by
  induction h generalizing ds' u with
  | nil =>
    cases h' with
    | nil => exact ⟨rfl, rfl⟩
    | next h' hreaches' =>
      have hlength := h'.length_le
      rw [hlabel, hreaches'.length_put] at hlength
      omega
  | @next ds t n c index h hreaches ih =>
    cases h' with
    | nil =>
      have hlength := h.length_le
      rw [← hlabel, hreaches.length_put] at hlength
      omega
    | @next ds' t' n' c' index' h' hreaches' =>
      obtain ⟨hbefore, hafter⟩ := (h.isOrdered hs).of_reaches hreaches
      obtain ⟨hbefore', hafter'⟩ := (h'.isOrdered hs).of_reaches hreaches'
      obtain ⟨htake, rfl, hdrop⟩ := parts_unique hlabel hbefore hafter hbefore' hafter'
      have hsame : t.label = t'.label := by
        rw [← List.take_append_drop index t.label, htake, hdrop, List.take_append_drop]
      have hindex : index = index' := by
        rw [← List.length_take_of_le hreaches.within, htake,
          List.length_take_of_le hreaches'.within]
      obtain ⟨rfl, rfl⟩ := ih h' hsame
      subst hindex
      have hnumber : n = n' := Nat.add_left_cancel (hreaches.count.trans hreaches'.count.symm)
      subst hnumber
      exact ⟨rfl, rfl⟩

/-! ### Characters far apart -/

/-- These are the ASCII characters of the label, and the counter is beyond them. -/
structure Decoder.Keeps (basic : List Char) (s : Decoder) : Prop where
  high : 0x80 ≤ s.code
  kept : s.label.filter isBasic = basic

theorem Decoder.Keeps.put (h : s.Keeps basic) (hreaches : s.Reaches n c index) :
    (s.put n c index).Keeps basic := by
  have hc : 0x80 ≤ c.toNat := Nat.le_trans h.high hreaches.ahead
  have hbasic : isBasic c = false := decide_eq_false (Nat.not_lt.2 hc)
  refine ⟨hc, ?_⟩
  rw [Decoder.put, List.filter_append, List.filter_cons_of_neg (by simp [hbasic]),
    ← List.filter_append, List.take_append_drop, h.kept]

theorem Decoder.Keeps.push? (h : s.Keeps basic) (hpush : s.push? c = some t) : t.Keeps basic := by
  obtain ⟨d, -, hpush⟩ := Option.bind_eq_some_iff.1 hpush
  dsimp only at hpush
  split at hpush
  · obtain ⟨c, index, hreaches, rfl⟩ := Decoder.exists_reaches hpush
    exact h.put hreaches
  · obtain rfl := Option.some.inj hpush
    exact ⟨h.high, h.kept⟩

theorem Decoder.Keeps.foldlM (h : s.Keeps basic) (hread : ds.foldlM Decoder.push? s = some u) :
    u.Keeps basic := by
  induction ds generalizing s with
  | nil =>
    obtain rfl := Option.some.inj hread
    exact h
  | cons c r ih =>
    rw [List.foldlM_cons] at hread
    obtain ⟨t, hpush, htail⟩ := Option.bind_eq_some_iff.1 hread
    exact ih (h.push? hpush) htail

end StartPage.Url.Punycode
