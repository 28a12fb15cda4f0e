import StartPage.Proofs.Url.Name
import StartPage.Proofs.Url.Numeric

/-!
    Hosts, written and read. The text of a host that was read is read as that host, unless it is a
    name with a label whose code is too long to be decoded. -/

namespace StartPage.Host

open Url.Idna (IsNameChar AreLabels nameOf areReadable)

/-- A host as it is read. -/
inductive IsRead : Host → Prop
  | name {labels : List Url.Idna.Label} (read : AreLabels labels) (nonempty : nameOf labels ≠ [])
      (noNumber : endsInNumber (nameOf labels) = false) : IsRead (.name (nameOf labels))
  | ipv4 {n : Nat} (small : n < 2 ^ 32) : IsRead (.ipv4 n)
  | ipv6 {ps : List Nat} (pieces : IsIpv6 ps) : IsRead (.ipv6 ps)

/-- The text of the host can be read again: no label of a name has too long a code. -/
def isReadable : Host → Bool
  | .name cs => areReadable cs
  | .ipv4 _ => true
  | .ipv6 _ => true

/-- The host that a name in ASCII stands for. -/
def ofAscii? (name : List Char) : Option Host :=
  if name.isEmpty then none
  else if endsInNumber name then (ipv4? name).map .ipv4
  else some (.name name)

/-- A text that is not in brackets is a name in percent-encoded Unicode. -/
theorem parse?_of_not_bracket {cs : List Char} (h : cs.head? ≠ some '[') :
    parse? cs = (Url.ofUtf8? (Url.decode cs)).bind fun text =>
      (Url.Idna.toAscii? text).bind ofAscii? := by
  unfold parse?
  split
  · exact absurd rfl h
  · rfl

/-- A name without percent signs stands for itself. -/
theorem parse?_of_unencoded {cs : List Char} (h : cs.head? ≠ some '[') (unencoded : '%' ∉ cs) :
    parse? cs = (Url.Idna.toAscii? cs).bind ofAscii? := by
  rw [parse?_of_not_bracket h, Url.decode_of_not_mem unencoded, Url.ofUtf8?_bytes, Option.bind_some]

theorem parse?_of_isNameChar {cs : List Char} (h : ∀ c ∈ cs, IsNameChar c) :
    parse? cs = (Url.Idna.toAscii? cs).bind ofAscii? := by
  refine parse?_of_unencoded (fun hhead => ?_) (fun hmem => ?_)
  · exact absurd (h '[' (List.mem_of_head? hhead)).allowed (by decide)
  · exact absurd (h '%' hmem).allowed (by decide)

/-! ### Reading -/

theorem isNameChar_of_isDigit {c : Char} (h : c.isDigit = true) : IsNameChar c := by
  have halnum : c.isAlphanum = true := by simp [Char.isAlphanum, h]
  have hlookup : (!c.isDigit || decide (IsNameChar c)) = true :=
    Ascii.forall_of_lookup (p := fun c => !c.isDigit || decide (IsNameChar c)) (by decide +kernel)
      (Ascii.lt_of_isAlphanum halnum)
  simpa [h] using hlookup

/-- The bytes of an address in decimal. -/
def byteTexts (n : Nat) : List (List Char) := (bytesOf n).map fun b => (toString b).toList

theorem mem_byteTexts {n : Nat} {label : List Char} (h : label ∈ byteTexts n) :
    (∀ c ∈ label, c.isDigit = true) ∧ label ≠ [] := by
  obtain ⟨b, hb, rfl⟩ := List.mem_map.1 h
  exact ⟨List.all_eq_true.1 (byte_text b (bytesOf_lt n b hb)).1, (byte_text b (bytesOf_lt n b hb)).2⟩

theorem fields_ipv4 (n : Nat) : Text.fields '.' (text (.ipv4 n)) = byteTexts n := by
  refine Text.splitBy_intercalate (by decide) (by simp [bytesOf]) fun label hlabel c hc => ?_
  have hdigit := (mem_byteTexts hlabel).1 c hc
  refine beq_false_of_ne fun hdot : c = '.' => ?_
  rw [hdot] at hdigit
  cases hdigit

theorem labelsOf_ipv4 (n : Nat) : labelsOf (text (.ipv4 n)) = byteTexts n := by
  unfold labelsOf
  rw [fields_ipv4]
  dsimp only
  split
  · next hlast =>
    exact absurd rfl (mem_byteTexts (List.mem_of_getLast? hlast)).2
  · rfl

theorem endsInNumber_ipv4 (n : Nat) : endsInNumber (text (.ipv4 n)) = true := by
  unfold endsInNumber
  rw [labelsOf_ipv4]
  split
  · next hnone => cases hnone
  · next hlast => exact absurd rfl (mem_byteTexts (List.mem_of_getLast? hlast)).2
  · next last _ hlast =>
    rw [List.all_eq_true.2 (mem_byteTexts (List.mem_of_getLast? hlast)).1, Bool.true_or]

theorem ipv4?_text {n : Nat} (h : n < 2 ^ 32) : ipv4? (text (.ipv4 n)) = some n := by
  have hread : (byteTexts n).mapM part? = some (bytesOf n) := by
    rw [Text.mapM_eq_some_iff, byteTexts, List.map_map]
    exact List.map_congr_left fun b hb => part?_byte b (bytesOf_lt n b hb)
  rw [ipv4?, labelsOf_ipv4, hread]
  exact ipv4OfParts?_bytesOf h

theorem isNameChar_ipv4 (n : Nat) : ∀ c ∈ text (.ipv4 n), IsNameChar c := by
  intro c hc
  rcases Text.mem_intercalate hc with rfl | ⟨label, hlabel, hc⟩
  · decide +kernel
  · exact isNameChar_of_isDigit ((mem_byteTexts hlabel).1 c hc)

theorem isUncoded_ipv4 (n : Nat) : Url.Idna.IsUncoded (text (.ipv4 n)) := by
  intro label hlabel
  rw [fields_ipv4] at hlabel
  refine Option.eq_none_iff_forall_ne_some.2 fun code hcode => ?_
  have hx : 'x' ∈ label := by
    rw [Text.eq_append_of_after? hcode]
    exact List.mem_append_left _ (by decide)
  exact absurd ((mem_byteTexts hlabel).1 'x' hx) (by decide)

/-! ### Reading again -/

theorem parse?_ipv4 {n : Nat} (h : n < 2 ^ 32) : parse? (text (.ipv4 n)) = some (.ipv4 n) := by
  obtain ⟨labels, read, hname, readable⟩ :=
    Url.Idna.areLabels_of_plain (isNameChar_ipv4 n) (isUncoded_ipv4 n)
  have hascii : Url.Idna.toAscii? (text (.ipv4 n)) = some (text (.ipv4 n)) := by
    rw [hname, read.toAscii?, ← hname, if_pos readable]
  have nonempty : (text (.ipv4 n)).isEmpty = false := by
    refine List.isEmpty_eq_false_iff.2 fun hempty => ?_
    have hnumber := endsInNumber_ipv4 n
    rw [hempty] at hnumber
    cases hnumber
  rw [parse?_of_isNameChar (isNameChar_ipv4 n), hascii, Option.bind_some, ofAscii?, nonempty,
    endsInNumber_ipv4, ipv4?_text h]
  rfl

theorem parse?_ipv6 {ps : List Nat} (h : IsIpv6 ps) : parse? (text (.ipv6 ps)) = some (.ipv6 ps) := by
  have hopen : text (.ipv6 ps) = '[' :: (ipv6Text ps ++ [']']) := rfl
  simp only [hopen, parse?, List.getLast?_concat, List.dropLast_concat, ipv6?_ipv6Text h,
    Option.map_some]

/-- A host that was read is read again from its text, if that can be read. -/
theorem IsRead.parse?_text {host : Host} (h : host.IsRead) :
    parse? host.text = if host.isReadable then some host else none := by
  cases h with
  | @name labels read nonempty noNumber =>
    have hascii : ofAscii? (nameOf labels) = some (.name (nameOf labels)) := by
      rw [ofAscii?, if_neg (by simpa using nonempty), noNumber]
      rfl
    rw [text, parse?_of_isNameChar read.isNameChar, read.toAscii?, isReadable]
    split
    · exact hascii
    · rfl
  | ipv4 small => exact parse?_ipv4 small
  | ipv6 pieces => exact parse?_ipv6 pieces

/-- The characters of hosts: those of names, and those that IPv6 addresses are set off with. -/
theorem IsRead.isHostChar {host : Host} (h : host.IsRead) :
    ∀ c ∈ host.text, IsNameChar c ∨ c = ':' ∨ c = '[' ∨ c = ']' := by
  intro c hc
  cases h with
  | name read nonempty noNumber => exact .inl (read.isNameChar c hc)
  | ipv4 small => exact .inl (isNameChar_ipv4 _ c hc)
  | ipv6 pieces =>
    rcases List.mem_append.1 hc with hc | hc
    · rcases List.mem_cons.1 hc with rfl | hc
      · exact .inr (.inr (.inl rfl))
      · rcases mem_ipv6Text hc with rfl | ⟨n, -, hc⟩
        · exact .inr (.inl rfl)
        · exact .inl (forall_mem_pieceText (by decide +kernel) n c hc)
    · exact .inr (.inr (.inr (List.mem_singleton.1 hc)))

theorem IsRead.text_ne_nil {host : Host} (h : host.IsRead) : host.text ≠ [] := by
  cases h with
  | name read nonempty noNumber => exact nonempty
  | @ipv4 n small =>
    intro hempty
    have hnumber := endsInNumber_ipv4 n
    rw [hempty] at hnumber
    cases hnumber
  | ipv6 pieces => exact List.cons_ne_nil _ _

/-- A plain name in ASCII is a host of that name. -/
theorem parse?_plain {name : List Char} (h : ∀ c ∈ name, IsNameChar c)
    (uncoded : Url.Idna.IsUncoded name) (nonempty : name ≠ [])
    (noNumber : endsInNumber name = false) : parse? name = some (.name name) := by
  obtain ⟨labels, read, rfl, readable⟩ := Url.Idna.areLabels_of_plain h uncoded
  exact (IsRead.name read nonempty noNumber).parse?_text.trans (if_pos readable)

end StartPage.Host
