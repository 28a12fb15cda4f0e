import StartPage.Form
import StartPage.Proofs.Ascii
import StartPage.Proofs.Url.Percent

/-!
    Words as they are encoded for the query of an address, and what becomes of them in it. Of the
    marks that stand for themselves in an encoded text the query takes all but the apostrophe, which
    it writes as a byte. Decoding gives back the bytes of the words from either form.

        it's (ü)  ──encode──▶  it's+(%C3%BC)  ──query──▶  it%27s+(%C3%BC)  ──decode──▶  it's (ü)   -/

namespace StartPage.Form

open Url (byteChars)

/-- A character of a text in the query of an address: an apostrophe is written as a byte. -/
def queryChar (c : Char) : List Char := if c = '\x27' then "%27".toList else [c]

/-- An encoded text as it stands in the query of an address. -/
def inQuery (s : String) : String := String.ofList (s.toList.flatMap queryChar)

/-! ### Characters -/

/-- The characters of encoded texts. -/
def isEncoded (c : Char) : Bool := c == '+' || isPlain c || byteChars.contains c

theorem lt_of_isPlain {c : Char} (h : isPlain c = true) : c.toNat < 128 := by
  have hmark : ∀ d ∈ "*-._!'()~".toList, d.toNat < 128 := Ascii.forall_mem (by decide)
  rcases Bool.or_eq_true_iff.1 h with h | h
  · exact Ascii.lt_of_isAlphanum h
  · exact hmark c (by simpa using h)

theorem lt_of_isEncoded {c : Char} (h : isEncoded c = true) : c.toNat < 128 := by
  have hbyte : ∀ d ∈ byteChars, d.toNat < 128 := Ascii.forall_mem (by decide)
  simp only [isEncoded, Bool.or_eq_true, beq_iff_eq, List.contains_iff_mem] at h
  rcases h with (rfl | h) | h
  · decide
  · exact lt_of_isPlain h
  · exact hbyte c h

theorem isEncoded_of_mem_encodeChar {c d : Char} (h : d ∈ encodeChar c) : isEncoded d = true := by
  unfold encodeChar at h
  split at h
  · rw [List.mem_singleton.1 h]
    decide
  split at h
  · next hplain => simp [isEncoded, List.mem_singleton.1 h, hplain]
  · simp [isEncoded, Url.mem_encodeBytes h]

theorem isEncoded_of_mem_encode {s : String} {c : Char} (h : c ∈ (encode s).toList) :
    isEncoded c = true := by
  rw [encode, String.toList_ofList] at h
  obtain ⟨d, -, hc⟩ := List.mem_flatMap.1 h
  exact isEncoded_of_mem_encodeChar hc

/-- The query takes the characters of an encoded text as they are, but for apostrophes. -/
theorem inQuery_of_isEncoded {c : Char} (h : isEncoded c = true) :
    (if Url.inQuery c then Url.encodeBytes c else [c]) = queryChar c := by
  have hlookup : (!isEncoded c || Url.inQuery c == (c == '\x27')) = true :=
    Ascii.forall_of_lookup (p := fun c => !isEncoded c || Url.inQuery c == (c == '\x27'))
      (by decide +kernel) (lt_of_isEncoded h)
  have hset : Url.inQuery c = (c == '\x27') := by simpa [h] using hlookup
  unfold queryChar
  by_cases hc : c = '\x27'
  · subst hc
    decide +kernel
  · rw [if_neg (by simpa [hset] using hc), if_neg hc]

/-! ### Texts -/

/-- An encoded text is put into the query by writing its apostrophes as bytes. -/
theorem encode_inQuery (s : String) :
    Url.encode Url.inQuery (encode s).toList = (inQuery (encode s)).toList := by
  rw [inQuery, String.toList_ofList, Url.encode]
  exact List.flatMap_congr fun c hc => inQuery_of_isEncoded (isEncoded_of_mem_encode hc)

/-- What decoding takes a plus sign for. -/
def space (c : Char) : Char := if c = '+' then ' ' else c

theorem map_space_of_bytes {cs : List Char} (h : ∀ c ∈ cs, c ∈ byteChars) :
    cs.map space = cs := by
  have hspace : ∀ c ∈ byteChars, space c = id c := Ascii.forall_mem (by decide)
  rw [List.map_congr_left fun c hc => hspace c (h c hc), List.map_id]

theorem flatMap_queryChar_of_bytes {cs : List Char} (h : ∀ c ∈ cs, c ∈ byteChars) :
    cs.flatMap queryChar = cs := by
  have hquery : ∀ c ∈ byteChars, queryChar c = [c] := Ascii.forall_mem (by decide)
  rw [List.flatMap_congr fun c hc => hquery c (h c hc), List.flatMap_singleton']

theorem decode_map_space_plain {c : Char} (h : isPlain c = true) (rest : List Char) :
    Url.decode ((c :: rest).map space) = String.utf8EncodeChar c ++ Url.decode (rest.map space) := by
  have hplus : c ≠ '+' := by
    rintro rfl
    exact absurd h (by decide)
  have hpercent : c ≠ '%' := by
    rintro rfl
    exact absurd h (by decide)
  rw [List.map_cons, space, if_neg hplus, Url.decode_cons_of_ne hpercent]

/-- Decoding reads a character from its encoded form. -/
theorem decode_map_space_encodeChar (c : Char) (rest : List Char) :
    Url.decode ((encodeChar c ++ rest).map space) =
      String.utf8EncodeChar c ++ Url.decode (rest.map space) := by
  unfold encodeChar
  split
  · next hblank =>
    subst hblank
    exact Url.decode_cons_of_ne (by decide) (rest.map space)
  split
  · next hplain => exact decode_map_space_plain hplain rest
  · rw [List.map_append, map_space_of_bytes fun d => Url.mem_encodeBytes, Url.decode_encodeBytes]

/-- Decoding reads it also where the encoded form stands in a query. -/
theorem decode_encodeChar (c : Char) (rest : List Char) :
    Url.decode (((encodeChar c).flatMap queryChar ++ rest).map space) =
      String.utf8EncodeChar c ++ Url.decode (rest.map space) := by
  by_cases hmark : c = '\x27'
  · subst hmark
    exact Url.decode_encodeByte 0x27 (rest.map space)
  · have hquery : (encodeChar c).flatMap queryChar = encodeChar c := by
      unfold encodeChar
      split
      · rfl
      split
      · rw [List.flatMap_singleton, queryChar, if_neg hmark]
      · exact flatMap_queryChar_of_bytes fun d => Url.mem_encodeBytes
    rw [hquery, decode_map_space_encodeChar]

/-- The bytes of a text can be decoded from what it is encoded to. -/
theorem decode_encode (s : String) : decode (encode s) = s.toList.flatMap String.utf8EncodeChar := by
  rw [encode, decode, String.toList_ofList]
  show Url.decode (List.map space _) = _
  induction s.toList with
  | nil => rfl
  | cons c r ih => rw [List.flatMap_cons, decode_map_space_encodeChar, ih, List.flatMap_cons]

/-- The bytes of a text can be decoded from the query of an address that the text was put into. -/
theorem decode_inQuery_encode (s : String) :
    decode (inQuery (encode s)) = s.toList.flatMap String.utf8EncodeChar := by
  rw [inQuery, encode, decode, String.toList_ofList, String.toList_ofList, List.flatMap_assoc]
  show Url.decode (List.map space _) = _
  induction s.toList with
  | nil => rfl
  | cons c r ih => rw [List.flatMap_cons, decode_encodeChar, ih, List.flatMap_cons]

end StartPage.Form
