import Mathlib.Data.List.TakeWhile
import Mathlib.Tactic.Linarith
import Mathlib.Tactic.Ring
import StartPage.Proofs.Text
import StartPage.Url.Host

/-!
    Numeric hosts, written and read. An IPv4 address is read back from its four bytes in decimal, and
    an IPv6 address from its pieces in hexadecimal, of which the longest run of zeros is left out.

        0x7F000001                 ⇄   127.0.0.1
        [1, 0, 0, 0, 0, 0, 0, 2]   ⇄   1::2              -/

namespace StartPage.Host

/-! ### IPv4 -/

/-- A byte in decimal is a part with its value, and no label but a number. -/
theorem part?_byte : ∀ b < 256, part? (toString b).toList = some b := by decide +kernel

theorem byte_text : ∀ b < 256, (toString b).toList.all Char.isDigit = true ∧ (toString b).toList ≠ [] := by
  decide +kernel

theorem bytesOf_lt (n : Nat) : ∀ b ∈ bytesOf n, b < 256 := by
  simp only [bytesOf, List.mem_cons, List.not_mem_nil, or_false]
  omega

/-- The number that four bytes make up. -/
theorem ipv4OfParts?_bytesOf {n : Nat} (h : n < 2 ^ 32) : ipv4OfParts? (bytesOf n) = some n := by
  have hsum : n % 256 + (n / 0x100 % 256 * 256 + (n / 0x1_0000 % 256 * 65536 +
      n / 0x100_0000 % 256 * 16777216)) = n := by omega
  have hbytes : ∀ k, ¬ 255 < n / k % 256 := fun k => by omega
  simp [ipv4OfParts?, bytesOf, hbytes]
  omega

theorem hexDigit?_digitChar : ∀ {d : Nat}, d < 16 → Text.hexDigit? (Nat.digitChar d) = some d := by
  decide

/-- What hexadecimal digits make of a number that they are written behind. -/
def hexValue (n : Nat) (cs : List Char) : Nat :=
  cs.foldl (fun n c => n * 16 + (Text.hexDigit? c).getD 0) n

theorem hexValue_pieceText (n : Nat) : hexValue 0 (pieceText n) = n := by
  unfold pieceText
  induction n using Nat.base_induction 16 (by decide) with
  | single m hm =>
    rw [Nat.toDigits_of_lt_base hm]
    simp [hexValue, hexDigit?_digitChar hm]
  | digit m k hk hm ih =>
    rw [← Nat.toDigits_append_toDigits (by decide) hm hk, hexValue, List.foldl_append,
      Nat.toDigits_of_lt_base hk]
    show hexValue (hexValue 0 (Nat.toDigits 16 m)) [k.digitChar] = 16 * m + k
    rw [ih]
    simp [hexValue, hexDigit?_digitChar hk, Nat.mul_comm]

/-- Pieces are written with hexadecimal digits. -/
theorem forall_mem_pieceText {P : Char → Prop} (h : ∀ d < 16, P (Nat.digitChar d)) (n : Nat) :
    ∀ c ∈ pieceText n, P c := by
  unfold pieceText
  induction n using Nat.base_induction 16 (by decide) with
  | single m hm =>
    rw [Nat.toDigits_of_lt_base hm]
    exact List.forall_mem_singleton.2 (h m hm)
  | digit m k hk hm ih =>
    rw [← Nat.toDigits_append_toDigits (by decide) hm hk, Nat.toDigits_of_lt_base hk]
    exact List.forall_mem_append.2 ⟨ih, List.forall_mem_singleton.2 (h k hk)⟩

theorem isHex_pieceText (n : Nat) : ∀ c ∈ pieceText n, (Text.hexDigit? c).isSome :=
  forall_mem_pieceText (P := fun c => (Text.hexDigit? c).isSome) (by decide) n

theorem length_pieceText {n : Nat} (h : n < 65536) : (pieceText n).length ≤ 4 :=
  (Nat.length_toDigits_le_iff (by decide) (by decide)).2 h

/-- Hexadecimal digits are read up to a character that is none. -/
theorem readPiece_append {left n : Nat} {cs rest : List Char}
    (h : ∀ c ∈ cs, (Text.hexDigit? c).isSome) (hlength : cs.length ≤ left)
    (ends : ∀ c ∈ rest.head?, Text.hexDigit? c = none) :
    readPiece left n (cs ++ rest) = (hexValue n cs, cs.length, rest) := by
  induction cs generalizing left n with
  | nil =>
    cases left with
    | zero => rfl
    | succ left =>
      cases rest with
      | nil => rfl
      | cons c r =>
        rw [List.nil_append, readPiece, ends c rfl]
        rfl
  | cons c r ih =>
    obtain ⟨d, hd⟩ := Option.isSome_iff_exists.1 (h c List.mem_cons_self)
    cases left with
    | zero => simp at hlength
    | succ left =>
      have hr := @ih left (n * 16 + d) (fun e he => h e (List.mem_cons_of_mem c he))
        (by simpa using hlength)
      rw [List.cons_append, readPiece, hd]
      dsimp only
      rw [hr]
      simp [hexValue, hd]

/-- A piece is read to the colon behind it. -/
theorem readPiece_pieceText {n : Nat} (h : n < 65536) (rest : List Char)
    (ends : ∀ c ∈ rest.head?, Text.hexDigit? c = none) :
    readPiece 4 0 (pieceText n ++ rest) = (n, (pieceText n).length, rest) := by
  rw [readPiece_append (isHex_pieceText n) (length_pieceText h) ends, hexValue_pieceText]

theorem pieceText_ne_nil (n : Nat) : pieceText n ≠ [] := Nat.toDigits_ne_nil

/-- A piece starts with no colon. -/
theorem exists_pieceText (n : Nat) : ∃ c r, pieceText n = c :: r ∧ c ≠ ':' := by
  obtain ⟨c, r, hpiece⟩ := List.exists_cons_of_ne_nil (pieceText_ne_nil n)
  refine ⟨c, r, hpiece, ?_⟩
  rintro rfl
  have hhex := isHex_pieceText n ':' (by rw [hpiece]; exact List.mem_cons_self)
  cases hhex

/-! ### Reading an IPv6 address -/

variable {p : Pieces} {n : Nat}

theorem readPieces_last (h : n < 65536) (room : p.read.length ≠ 8) (fuel : Nat) :
    readPieces p (fuel + 1) (pieceText n) = Pieces.finish ⟨n :: p.read, p.gap⟩ := by
  obtain ⟨c, r, hpiece, hc⟩ := exists_pieceText n
  have hread := readPiece_pieceText h [] nofun
  rw [List.append_nil] at hread
  rw [hpiece] at hread ⊢
  rw [readPieces, if_neg room, hread]
  · rfl
  · nofun
  · exact fun _ heq => absurd (List.cons.inj heq).1 hc

theorem readPieces_next (h : n < 65536) (room : p.read.length ≠ 8) (fuel : Nat) {c : Char}
    {r : List Char} :
    readPieces p (fuel + 1) (pieceText n ++ ':' :: c :: r) =
      readPieces ⟨n :: p.read, p.gap⟩ fuel (c :: r) := by
  obtain ⟨d, s, hpiece, hd⟩ := exists_pieceText n
  have hread := readPiece_pieceText h (':' :: c :: r)
    (fun e he => by rw [← Option.some.inj he]; rfl)
  rw [hpiece, List.cons_append] at hread ⊢
  rw [readPieces, if_neg room, hread]
  · rfl
  · nofun
  · exact fun _ heq => absurd (List.cons.inj heq).1 hd

theorem readPieces_gap (room : p.read.length ≠ 8) (hgap : p.gap = none) (fuel : Nat) (r : List Char) :
    readPieces p (fuel + 1) (':' :: r) = readPieces ⟨p.read, some p.read.length⟩ fuel r := by
  rw [readPieces, if_neg room, hgap]
  rfl

theorem colonJoin_singleton (n : Nat) : colonJoin [n] = pieceText n := by simp [colonJoin]

theorem colonJoin_cons (n m : Nat) (ms : List Nat) :
    colonJoin (n :: m :: ms) = pieceText n ++ ':' :: colonJoin (m :: ms) := by simp [colonJoin]

/-- Pieces start with no colon. -/
theorem exists_colonJoin {ps : List Nat} (nonempty : ps ≠ []) :
    ∃ c r, colonJoin ps = c :: r ∧ c ≠ ':' := by
  obtain ⟨n, ms, rfl⟩ := List.exists_cons_of_ne_nil nonempty
  obtain ⟨c, r, hpiece, hc⟩ := exists_pieceText n
  cases ms with
  | nil => exact ⟨c, r, by rw [colonJoin_singleton, hpiece], hc⟩
  | cons m ms =>
    exact ⟨c, r ++ ':' :: colonJoin (m :: ms), by rw [colonJoin_cons, hpiece, List.cons_append], hc⟩

theorem length_le_colonJoin (ps : List Nat) : ps.length ≤ (colonJoin ps).length := by
  induction ps with
  | nil => exact Nat.le_refl 0
  | cons n ps ih =>
    have hpos := List.length_pos_of_ne_nil (pieceText_ne_nil n)
    cases ps with
    | nil =>
      rw [colonJoin_singleton]
      exact hpos
    | cons m ms =>
      simp only [colonJoin_cons, List.length_append, List.length_cons] at ih ⊢
      omega

/-- Pieces with colons between them are read one by one. -/
theorem readPieces_colonJoin {ps : List Nat} (h : ∀ n ∈ ps, n < 65536)
    (room : p.read.length + ps.length ≤ 8) {fuel : Nat} (hfuel : ps.length ≤ fuel) :
    readPieces p fuel (colonJoin ps) = Pieces.finish ⟨ps.reverse ++ p.read, p.gap⟩ := by
  induction ps generalizing p fuel with
  | nil => cases fuel <;> rfl
  | cons n ps ih =>
    have hn := h n List.mem_cons_self
    rw [List.length_cons] at room hfuel
    obtain ⟨fuel, rfl⟩ := Nat.exists_eq_succ_of_ne_zero (show fuel ≠ 0 by omega)
    cases ps with
    | nil =>
      rw [colonJoin_singleton, readPieces_last hn (by omega)]
      rfl
    | cons m ms =>
      have hrest := @ih ⟨n :: p.read, p.gap⟩ (fun k hk => h k (List.mem_cons_of_mem n hk))
        (by simp only [List.length_cons] at room ⊢; omega) fuel (by omega)
      obtain ⟨c, r, hcs, -⟩ := exists_colonJoin (List.cons_ne_nil m ms)
      rw [colonJoin_cons, hcs, readPieces_next hn (by omega), ← hcs, hrest]
      simp

/-- Pieces before a double colon are read up to its second colon. -/
theorem readPieces_colonJoin_append {ps : List Nat} (nonempty : ps ≠ []) (h : ∀ n ∈ ps, n < 65536)
    (room : p.read.length + ps.length ≤ 8) (fuel : Nat) (r : List Char) :
    readPieces p (fuel + ps.length) (colonJoin ps ++ ':' :: ':' :: r) =
      readPieces ⟨ps.reverse ++ p.read, p.gap⟩ fuel (':' :: r) := by
  induction ps generalizing p with
  | nil => exact absurd rfl nonempty
  | cons n ps ih =>
    have hn := h n List.mem_cons_self
    rw [List.length_cons] at room
    cases ps with
    | nil =>
      rw [colonJoin_singleton, List.length_singleton, readPieces_next hn (by omega)]
      rfl
    | cons m ms =>
      have hrest := ih (p := ⟨n :: p.read, p.gap⟩) (List.cons_ne_nil m ms)
        (fun k hk => h k (List.mem_cons_of_mem n hk))
        (by simp only [List.length_cons] at room ⊢; omega)
      obtain ⟨c, s, hcs, -⟩ := exists_colonJoin (List.cons_ne_nil m ms)
      rw [colonJoin_cons, hcs, List.append_assoc, List.cons_append, List.cons_append,
        List.length_cons, ← Nat.add_assoc, readPieces_next hn (by omega), ← List.cons_append, ← hcs,
        hrest]
      simp

/-- The pieces are what stands before the longest run of zeros, the run, and what stands after. -/
theorem exists_longestRun (ps : List Nat) (start : Nat) (h : 0 < (longestRun start ps).2) :
    ∃ front back, ps = front ++ List.replicate (longestRun start ps).2 0 ++ back ∧
      (longestRun start ps).1 = start + front.length := by
  induction ps generalizing start with
  | nil => exact absurd h (Nat.lt_irrefl 0)
  | cons n ps ih =>
    by_cases hlongest : (longestRun (start + 1) ps).2 ≤ zeros (n :: ps)
    · have hrun : longestRun start (n :: ps) = (start, zeros (n :: ps)) := by
        simp [longestRun, hlongest]
      have hzeros : (n :: ps).takeWhile (· == 0) = List.replicate (zeros (n :: ps)) 0 :=
        List.eq_replicate_iff.2 ⟨rfl, fun k hk => by simpa using List.mem_takeWhile_imp hk⟩
      refine ⟨[], (n :: ps).dropWhile (· == 0), ?_, by rw [hrun]; rfl⟩
      rw [hrun, List.nil_append, ← hzeros, List.takeWhile_append_dropWhile]
    · have hrun : longestRun start (n :: ps) = longestRun (start + 1) ps := by
        simp [longestRun, hlongest]
      obtain ⟨front, back, hps, hstart⟩ := ih (start + 1) (by omega)
      rw [hrun]
      refine ⟨n :: front, back, ?_, ?_⟩
      · rw [List.cons_append, List.cons_append, ← hps]
      · rw [hstart, List.length_cons]
        omega

/-- An IPv6 address. -/
structure IsIpv6 (ps : List Nat) : Prop where
  eight : ps.length = 8
  small : ∀ n ∈ ps, n < 65536

theorem finish_gap {front back : List Nat} {n : Nat} (h : front.length + n + back.length = 8) :
    Pieces.finish ⟨back.reverse ++ front.reverse, some front.length⟩ =
      some (front ++ List.replicate n 0 ++ back) := by
  have hfill : 8 - (front.length + back.length) = n := by omega
  simp [Pieces.finish, hfill]

theorem ipv6?_of_ne_colon {c : Char} (h : c ≠ ':') (r : List Char) :
    ipv6? (c :: r) = readPieces ⟨[], none⟩ ((c :: r).length + 1) (c :: r) := by
  unfold ipv6?
  split
  · next heq => exact absurd (List.cons.inj heq).1 h
  · next heq => exact absurd (List.cons.inj heq).1 h
  · next heq => cases heq
  · rfl

/-- Pieces without a run that is left out are read back. -/
theorem ipv6?_colonJoin {ps : List Nat} (h : IsIpv6 ps) : ipv6? (colonJoin ps) = some ps := by
  have nonempty : ps ≠ [] := List.ne_nil_of_length_eq_add_one h.eight
  obtain ⟨c, r, hcs, hc⟩ := exists_colonJoin nonempty
  have hfuel := length_le_colonJoin ps
  have height := h.eight
  rw [hcs, ipv6?_of_ne_colon hc, ← hcs,
    readPieces_colonJoin h.small (by simp [height]) (Nat.le_succ_of_le hfuel)]
  simp [Pieces.finish, height]

/-- Pieces are read back with the zeros that a double colon stands for. -/
theorem ipv6?_gap {front back : List Nat} {n : Nat}
    (h : IsIpv6 (front ++ List.replicate n 0 ++ back)) (run : 2 ≤ n) :
    ipv6? (colonJoin front ++ [':', ':'] ++ colonJoin back) =
      some (front ++ List.replicate n 0 ++ back) := by
  have height : front.length + n + back.length = 8 := by
    simpa [Nat.add_assoc] using h.eight
  have hfront : ∀ m ∈ front, m < 65536 := fun m hm => h.small m (by simp [hm])
  have hback : ∀ m ∈ back, m < 65536 := fun m hm => h.small m (by simp [hm])
  have hfuel := length_le_colonJoin back
  by_cases hempty : front = []
  · subst hempty
    rw [List.length_nil, Nat.zero_add] at height
    have hread := readPieces_colonJoin (p := ⟨[], some 0⟩) hback (by simp; omega)
      (Nat.le_succ_of_le hfuel)
    have htext : colonJoin [] ++ [':', ':'] ++ colonJoin back = ':' :: ':' :: colonJoin back := rfl
    rw [htext, ipv6?, hread]
    exact @finish_gap [] back n (by simpa using height)
  · obtain ⟨c, r, hcs, hc⟩ := exists_colonJoin hempty
    have hlength := length_le_colonJoin front
    -- the steps: one for each piece, and one for the second colon
    obtain ⟨k, hk⟩ : ∃ k, (colonJoin front ++ ':' :: ':' :: colonJoin back).length + 1 =
        (k + back.length) + 1 + front.length :=
      ⟨(colonJoin front ++ ':' :: ':' :: colonJoin back).length - back.length - front.length, by
        simp only [List.length_append, List.length_cons]
        omega⟩
    have htext : colonJoin front ++ [':', ':'] ++ colonJoin back =
        colonJoin front ++ ':' :: ':' :: colonJoin back := by simp
    have hread : ipv6? (colonJoin front ++ ':' :: ':' :: colonJoin back) =
        readPieces ⟨[], none⟩ ((k + back.length) + 1 + front.length)
          (colonJoin front ++ ':' :: ':' :: colonJoin back) := by
      rw [← hk, hcs, List.cons_append, ipv6?_of_ne_colon hc]
    rw [htext, hread, readPieces_colonJoin_append hempty hfront (by simp; omega),
      readPieces_gap (by simp; omega) rfl,
      readPieces_colonJoin hback (by simp; omega) (by omega)]
    simpa using finish_gap height

/-- An IPv6 address is read back from its text. -/
theorem ipv6?_ipv6Text {ps : List Nat} (h : IsIpv6 ps) : ipv6? (ipv6Text ps) = some ps := by
  unfold ipv6Text
  dsimp only
  split
  · exact ipv6?_colonJoin h
  · next hrun =>
    obtain ⟨front, back, hps, hstart⟩ := exists_longestRun ps 0 (by omega)
    generalize (longestRun 0 ps).2 = n at *
    rw [Nat.zero_add] at hstart
    have htake : ps.take front.length = front := by simp [hps]
    have hdrop : ps.drop (front.length + n) = back := by
      have hlength : (front ++ List.replicate n 0).length = front.length + n := by simp
      rw [hps, ← hlength, List.drop_left]
    rw [hstart, htake, hdrop, hps]
    exact ipv6?_gap (hps ▸ h) (by omega)

theorem mem_ipv6Text {ps : List Nat} {c : Char} (h : c ∈ ipv6Text ps) :
    c = ':' ∨ ∃ n ∈ ps, c ∈ pieceText n := by
  have hjoin : ∀ {qs : List Nat}, qs ⊆ ps → c ∈ colonJoin qs → c = ':' ∨ ∃ n ∈ ps, c ∈ pieceText n := by
    intro qs hqs hc
    refine (Text.mem_intercalate hc).imp_right ?_
    rintro ⟨piece, hpiece, hc⟩
    obtain ⟨n, hn, rfl⟩ := List.mem_map.1 hpiece
    exact ⟨n, hqs hn, hc⟩
  unfold ipv6Text at h
  dsimp only at h
  split at h
  · exact hjoin (List.Subset.refl ps) h
  · rcases List.mem_append.1 h with h | h
    · rcases List.mem_append.1 h with h | h
      · exact hjoin (List.take_subset _ ps) h
      · exact .inl (by simpa using h)
    · exact hjoin (List.drop_subset _ ps) h

/-! ### What reading gives -/

/-- The pieces read so far fit an address. -/
structure Pieces.Fit (p : Pieces) : Prop where
  eight : p.read.length ≤ 8
  small : ∀ n ∈ p.read, n < 65536

theorem Pieces.Fit.finish {p : Pieces} {ps : List Nat} (h : p.Fit) (hps : p.finish = some ps) :
    IsIpv6 ps := by
  have height := h.eight
  unfold Pieces.finish at hps
  dsimp only at hps
  split at hps
  · next k hk =>
    obtain rfl := Option.some.inj hps
    refine ⟨?_, fun n hn => ?_⟩
    · simp
      omega
    · simp only [List.mem_append, List.mem_replicate] at hn
      rcases hn with (hn | hn) | hn
      · exact h.small n (List.mem_reverse.1 (List.mem_of_mem_take hn))
      · omega
      · exact h.small n (List.mem_reverse.1 (List.mem_of_mem_drop hn))
  · split at hps
    · next hlength =>
      obtain rfl := Option.some.inj hps
      exact ⟨hlength, fun n hn => h.small n (List.mem_reverse.1 hn)⟩
    · cases hps

theorem Pieces.Fit.cons {p : Pieces} (h : p.Fit) (room : p.read.length ≠ 8) (hn : n < 65536) :
    Pieces.Fit ⟨n :: p.read, p.gap⟩ :=
  ⟨by have height := h.eight; rw [List.length_cons]; omega, List.forall_mem_cons.2 ⟨hn, h.small⟩⟩

end StartPage.Host
