import StartPage.Url.Percent

/-!
    Percent-encoding undone and done again. An encoded byte reads back as the byte. What is written
    for a set of characters holds none of them, so to encode it once more changes nothing.

        é?  ──encode──▶  %C3%A9%3F  ──encode──▶  %C3%A9%3F
            ──decode──▶  C3 A9 3F                             -/

namespace StartPage.Url

/-! ### Bytes -/

theorem hexDigit?_upperHex : ∀ {n : Nat}, n < 16 → hexDigit? (upperHex n) = some n := by decide

/-- The value of the two digits of a byte. -/
theorem decode_encodeByte (b : UInt8) (rest : List Char) :
    decode (encodeByte b ++ rest) = b :: decode rest := by
  have hb : b.toNat < 256 := b.toNat_lt
  have hhigh : hexDigit? (upperHex (b.toNat / 16)) = some (b.toNat / 16) :=
    hexDigit?_upperHex (by omega)
  have hlow : hexDigit? (upperHex (b.toNat % 16)) = some (b.toNat % 16) :=
    hexDigit?_upperHex (by omega)
  have hvalue : b.toNat / 16 * 16 + b.toNat % 16 = b.toNat := by omega
  simp only [encodeByte, List.cons_append, List.nil_append, decode, hhigh, hlow, hvalue]
  simp

theorem decode_encodeBytes (c : Char) (rest : List Char) :
    decode (encodeBytes c ++ rest) = String.utf8EncodeChar c ++ decode rest := by
  unfold encodeBytes
  induction String.utf8EncodeChar c with
  | nil => rfl
  | cons b bs ih =>
    rw [List.flatMap_cons, List.append_assoc, decode_encodeByte, ih, List.cons_append]

theorem decode_cons_of_ne {c : Char} (h : c ≠ '%') (rest : List Char) :
    decode (c :: rest) = String.utf8EncodeChar c ++ decode rest := by
  rw [decode]
  exact fun _ _ _ hpercent => absurd hpercent h

/-- A text without percent signs stands for its own bytes. -/
theorem decode_of_not_mem {cs : List Char} (h : '%' ∉ cs) :
    decode cs = cs.flatMap String.utf8EncodeChar := by
  induction cs with
  | nil => rfl
  | cons c r ih =>
    obtain ⟨hc, hr⟩ := not_or.1 (mt List.mem_cons.2 h)
    rw [decode_cons_of_ne (Ne.symm hc), ih hr, List.flatMap_cons]

/-- The bytes of a text read back as the text. -/
theorem ofUtf8?_bytes (cs : List Char) :
    ofUtf8? (cs.flatMap String.utf8EncodeChar) = some cs := by
  have hbytes : (⟨(cs.flatMap String.utf8EncodeChar).toArray⟩ : ByteArray) = cs.utf8Encode := by
    rw [List.utf8Encode, ← List.data_toByteArray]
  have hvalid : cs.utf8Encode.IsValidUTF8 := ByteArray.isValidUTF8_utf8Encode
  rw [ofUtf8?, hbytes, String.fromUTF8?, dif_pos hvalid, Option.map_some]
  exact congrArg some String.toList_ofList

/-! ### Sets -/

/-- The characters that bytes are written with: the percent sign and the digits. -/
def byteChars : List Char := "%0123456789ABCDEF".toList

theorem mem_encodeByte {b : UInt8} {c : Char} (h : c ∈ encodeByte b) : c ∈ byteChars := by
  have hdigit : ∀ {n : Nat}, n < 16 → upperHex n ∈ byteChars := by decide
  have hb : b.toNat < 256 := b.toNat_lt
  simp only [encodeByte, List.mem_cons, List.not_mem_nil, or_false] at h
  rcases h with rfl | rfl | rfl
  · decide
  · exact hdigit (by omega)
  · exact hdigit (by omega)

theorem mem_encodeBytes {c d : Char} (h : d ∈ encodeBytes c) : d ∈ byteChars := by
  obtain ⟨b, -, hd⟩ := List.mem_flatMap.1 h
  exact mem_encodeByte hd

theorem encode_append (set : Char → Bool) (cs ds : List Char) :
    encode set (cs ++ ds) = encode set cs ++ encode set ds := List.flatMap_append

/-- A character of an encoded text stood there before, or writes a byte. -/
theorem mem_encode {set : Char → Bool} {cs : List Char} {c : Char} (h : c ∈ encode set cs) :
    (c ∈ cs ∧ set c = false) ∨ c ∈ byteChars := by
  obtain ⟨d, hd, hc⟩ := List.mem_flatMap.1 h
  split at hc
  · exact .inr (mem_encodeBytes hc)
  · next hset =>
    rw [List.mem_singleton.1 hc]
    exact .inl ⟨hd, by simpa using hset⟩

theorem encode_of_forall {set : Char → Bool} {cs : List Char} (h : ∀ c ∈ cs, set c = false) :
    encode set cs = cs := by
  induction cs with
  | nil => rfl
  | cons c r ih =>
    have hr := ih fun d hd => h d (List.mem_cons_of_mem c hd)
    rw [encode, List.flatMap_cons, if_neg (by simp [h c List.mem_cons_self]), ← encode, hr,
      List.singleton_append]

end StartPage.Url
