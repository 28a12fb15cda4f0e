import Mathlib.Data.List.TakeWhile
import StartPage.Proofs.Form

/-!
    Texts encoded byte by byte. The UTF-8 form of a text is written in chunks: the longest runs of
    bytes that stand for themselves, and every other byte on its own. Five marks are put back chunk
    by chunk where they were written as bytes. A run has no percent sign and is never taken for such
    a mark, and no byte beyond ASCII is one, so it comes to the same as encoding the text character
    by character.

        a!é b   ──serialize──▶   a  %21  %C3  %A9  +  b   ──restored──▶   a!%C3%A9+b         -/

namespace StartPage.Form

/-- The bytes of a text. -/
def bytes (s : String) : List UInt8 := s.toUTF8.data.toList

/-- The character with the code of a byte. -/
def byteChar (b : UInt8) : Char := Char.ofNat b.toNat

/-- The bytes that stand for themselves. -/
def isUnchanged (b : UInt8) : Bool :=
  (byteChar b).isAlphanum || "*-._".toList.contains (byteChar b)

/-- A byte that does not stand for itself. -/
def serializeByte (b : UInt8) : List Char := if b = 0x20 then ['+'] else Url.encodeByte b

/-- The chunks that bytes are written in. -/
def serialize : List UInt8 → List (List Char)
  | [] => []
  | b :: bs =>
    if isUnchanged b then
      (b :: bs.takeWhile isUnchanged).map byteChar :: serialize (bs.dropWhile isUnchanged)
    else serializeByte b :: serialize bs
termination_by bs => bs.length
decreasing_by
  · exact Nat.lt_succ_of_le (List.length_dropWhile_le ..)
  · exact Nat.lt_succ_self _

/-- The marks that are put back, with the chunks that they were written in. -/
def marks : List (List Char × Char) :=
  [("%21".toList, '!'), ("%27".toList, '\x27'), ("%28".toList, '('), ("%29".toList, ')'),
    ("%7E".toList, '~')]

/-- A chunk, or the mark that it stands for. -/
def restored (chunk : List Char) : List Char := (marks.lookup chunk).elim chunk fun c => [c]

/-- What a byte is written as in the end. -/
def writeByte (b : UInt8) : List Char :=
  if isUnchanged b then [byteChar b] else restored (serializeByte b)

/-! ### Chunks -/

theorem forall_byte {p : UInt8 → Bool} (h : ∀ n < 256, p (UInt8.ofNat n) = true) (b : UInt8) :
    p b = true := by
  have hp := h b.toNat b.toNat_lt
  rwa [UInt8.ofNat_toNat] at hp

/-- Only chunks with a percent sign are marks. -/
theorem restored_of_not_mem {chunk : List Char} (h : '%' ∉ chunk) : restored chunk = chunk := by
  have percent : ∀ m ∈ marks, '%' ∈ m.1 := by simp [marks]
  have hnone : marks.lookup chunk = none := by
    refine List.lookup_eq_none_iff.2 fun m hm => ?_
    have hne : chunk ≠ m.1 := fun heq => h (heq ▸ percent m hm)
    simpa using hne
  rw [restored, hnone, Option.elim_none]

theorem byteChar_ne_of_isUnchanged {b : UInt8} (h : isUnchanged b = true) : byteChar b ≠ '%' := by
  have hlookup : (!isUnchanged b || decide (byteChar b ≠ '%')) = true :=
    forall_byte (p := fun b => !isUnchanged b || decide (byteChar b ≠ '%')) (by decide +kernel) b
  simpa [h] using hlookup

theorem flatMap_writeByte_of_isUnchanged {bs : List UInt8} (h : ∀ b ∈ bs, isUnchanged b = true) :
    bs.flatMap writeByte = bs.map byteChar := by
  rw [← List.flatMap_pure_eq_map]
  exact List.flatMap_congr fun b hb => if_pos (h b hb)

/-- A run is written as it is. -/
theorem restored_run {bs : List UInt8} (h : ∀ b ∈ bs, isUnchanged b = true) :
    restored (bs.map byteChar) = bs.flatMap writeByte := by
  rw [flatMap_writeByte_of_isUnchanged h]
  refine restored_of_not_mem fun hmem => ?_
  obtain ⟨b, hb, hpercent⟩ := List.mem_map.1 hmem
  exact byteChar_ne_of_isUnchanged (h b hb) hpercent

/-- The chunks do not matter: every byte is written on its own. -/
theorem flatMap_restored_serialize (bs : List UInt8) :
    (serialize bs).flatMap restored = bs.flatMap writeByte := by
  induction bs using serialize.induct with
  | case1 => rw [serialize, List.flatMap_nil, List.flatMap_nil]
  | case2 b bs hb ih =>
    have hrun : ∀ d ∈ b :: bs.takeWhile isUnchanged, isUnchanged d = true := by
      intro d hd
      rcases List.mem_cons.1 hd with rfl | hd
      · exact hb
      · exact List.mem_takeWhile_imp hd
    rw [serialize, if_pos hb, List.flatMap_cons, restored_run hrun, ih, ← List.flatMap_append,
      List.cons_append, List.takeWhile_append_dropWhile]
  | case3 b bs hb ih =>
    rw [serialize, if_neg hb, List.flatMap_cons, ih, List.flatMap_cons, writeByte, if_neg hb]

/-! ### Characters -/

theorem le_toNat_ofNat {n : Nat} (low : 128 ≤ n) (high : n < 256) : 128 ≤ (UInt8.ofNat n).toNat := by
  rwa [UInt8.toNat_ofNat_of_lt' high]

/-- A character beyond ASCII has no byte of ASCII in it. -/
theorem le_of_mem_utf8EncodeChar {c : Char} (hc : 128 ≤ c.toNat) {b : UInt8}
    (hb : b ∈ String.utf8EncodeChar c) : 128 ≤ b.toNat := by
  have hone : ¬ c.val.toNat ≤ 127 := Nat.not_le.2 hc
  simp only [String.utf8EncodeChar, if_neg hone] at hb
  split at hb
  · simp only [List.mem_cons, List.not_mem_nil, or_false] at hb
    rcases hb with rfl | rfl <;> exact le_toNat_ofNat (by omega) (by omega)
  split at hb
  · simp only [List.mem_cons, List.not_mem_nil, or_false] at hb
    rcases hb with rfl | rfl | rfl <;> exact le_toNat_ofNat (by omega) (by omega)
  · simp only [List.mem_cons, List.not_mem_nil, or_false] at hb
    rcases hb with rfl | rfl | rfl | rfl <;> exact le_toNat_ofNat (by omega) (by omega)

theorem writeByte_of_le {b : UInt8} (h : 128 ≤ b.toNat) : writeByte b = Url.encodeByte b := by
  have hlookup : (decide (b.toNat < 128) || writeByte b == Url.encodeByte b) = true :=
    forall_byte (p := fun b => decide (b.toNat < 128) || writeByte b == Url.encodeByte b)
      (by decide +kernel) b
  simpa [Nat.not_lt.2 h] using hlookup

/-- Bytes are put together to characters, none of which is split or merged. -/
theorem flatMap_writeByte_utf8EncodeChar (c : Char) :
    (String.utf8EncodeChar c).flatMap writeByte = encodeChar c := by
  rcases Nat.lt_or_ge c.toNat 128 with hlow | hhigh
  · have hlookup := Ascii.forall_of_lookup
      (p := fun c => (String.utf8EncodeChar c).flatMap writeByte == encodeChar c)
      (by decide +kernel) hlow
    exact eq_of_beq hlookup
  · have hblank : c ≠ ' ' := by
      rintro rfl
      exact absurd hhigh (by decide)
    have hplain : ¬ isPlain c = true := fun h => Nat.not_lt.2 hhigh (lt_of_isPlain h)
    rw [encodeChar, if_neg hblank, if_neg hplain, Url.encodeBytes]
    exact List.flatMap_congr fun b hb => writeByte_of_le (le_of_mem_utf8EncodeChar hhigh hb)

/-! ### Texts -/

theorem bytes_eq (s : String) : bytes s = s.toList.flatMap String.utf8EncodeChar := by
  rw [bytes, String.toUTF8_eq_toByteArray, ← String.utf8Encode_toList, List.utf8Encode,
    List.data_toByteArray]

/-- A text is encoded by restoring the marks in the chunks of its bytes. -/
theorem encode_eq_restored (s : String) :
    encode s = String.ofList ((serialize (bytes s)).flatMap restored) := by
  rw [flatMap_restored_serialize, bytes_eq, List.flatMap_assoc, encode]
  exact congrArg String.ofList
    (List.flatMap_congr fun c _ => (flatMap_writeByte_utf8EncodeChar c).symm)

/-! ### Characters of an encoded text -/

/-- Texts that the encoding may give: letters, digits, eleven marks, and bytes in upper-case
    hexadecimal. -/
inductive IsEncoding : List Char → Prop
  | nil : IsEncoding []
  | plain {c : Char} {r : List Char} (h : c.isAlphanum = true ∨ c ∈ "*-._+!'()~".toList)
      (rest : IsEncoding r) : IsEncoding (c :: r)
  | byte {a b : Char} {r : List Char} (ha : a ∈ "0123456789ABCDEF".toList)
      (hb : b ∈ "0123456789ABCDEF".toList) (rest : IsEncoding r) : IsEncoding ('%' :: a :: b :: r)

namespace IsEncoding

variable {r : List Char}

theorem encodeByte_append (b : UInt8) (rest : IsEncoding r) :
    IsEncoding (Url.encodeByte b ++ r) := by
  have hdigit : ∀ {n : Nat}, n < 16 → Url.upperHex n ∈ "0123456789ABCDEF".toList := by decide
  have hb : b.toNat < 256 := b.toNat_lt
  exact .byte (hdigit (by omega)) (hdigit (by omega)) rest

theorem encodeBytes_append (c : Char) (rest : IsEncoding r) :
    IsEncoding (Url.encodeBytes c ++ r) := by
  unfold Url.encodeBytes
  induction String.utf8EncodeChar c with
  | nil => exact rest
  | cons b bs ih =>
    rw [List.flatMap_cons, List.append_assoc]
    exact ih.encodeByte_append b

theorem encodeChar_append (c : Char) (rest : IsEncoding r) : IsEncoding (encodeChar c ++ r) := by
  unfold encodeChar
  split
  · exact .plain (.inr (by decide)) rest
  split
  · next hplain =>
    have hmark : ∀ d ∈ "*-._!'()~".toList, d ∈ "*-._+!'()~".toList :=
      Ascii.forall_mem (by decide)
    refine .plain ((Bool.or_eq_true_iff.1 hplain).imp_right fun h => hmark c ?_) rest
    simpa using h
  · exact rest.encodeBytes_append c

end IsEncoding

theorem isEncoding_encode (s : String) : IsEncoding (encode s).toList := by
  rw [encode, String.toList_ofList]
  induction s.toList with
  | nil => exact .nil
  | cons c r ih =>
    rw [List.flatMap_cons]
    exact ih.encodeChar_append c

/-! ### Decoding -/

theorem encode_injective {s t : String} (h : encode s = encode t) : s = t := by
  have hbytes : s.toList.flatMap String.utf8EncodeChar = t.toList.flatMap String.utf8EncodeChar := by
    rw [← decode_encode, h, decode_encode]
  have hchars : some s.toList = some t.toList := by
    rw [← Url.ofUtf8?_bytes, hbytes, Url.ofUtf8?_bytes]
  exact String.toList_injective (Option.some.inj hchars)

theorem encode_append (s t : String) : encode (s ++ t) = encode s ++ encode t := by
  rw [encode, String.toList_append, List.flatMap_append, String.ofList_append, encode, encode]

/-- The encoding is that of the single bytes, uses no delimiter, can be undone, tells texts apart and
    goes along with putting texts together. -/
theorem encode_reversible (s t : String) :
    encode s = String.ofList ((serialize (bytes s)).flatMap restored) ∧
      IsEncoding (encode s).toList ∧ decode (encode s) = bytes s ∧
      (encode s = encode t ↔ s = t) ∧ encode (s ++ t) = encode s ++ encode t :=
  ⟨encode_eq_restored s, isEncoding_encode s, (decode_encode s).trans (bytes_eq s).symm,
    ⟨encode_injective, congrArg encode⟩, encode_append s t⟩

end StartPage.Form
