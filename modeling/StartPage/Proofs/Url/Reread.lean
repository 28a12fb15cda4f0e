import StartPage.Proofs.Url.Host
import StartPage.Proofs.Url.Query
import StartPage.Url.Basic

/-!
    Addresses, written and read. Every part of an address that was read is in a form that reading
    leaves alone, so its text is read as the address itself, if its host can be read again. -/

namespace StartPage.Url

open Idna (IsNameChar)

/-- A segment of a path as it is read: encoded, in one piece, and no dot segment. -/
structure IsSegment (s : List Char) : Prop where
  encoded : ∀ c ∈ s, inPath c = false
  whole : ∀ c ∈ s, isSlash c = false
  single : isSingleDot s = false
  double : isDoubleDot s = false

/-- An address as it is read. -/
structure IsRead (u : Url) : Prop where
  user : ∀ c ∈ u.user, inUser c = false
  password : ∀ c ∈ u.password, inUser c = false
  host : u.host.IsRead
  port : ∀ n ∈ u.port, n < 0x1_0000 ∧ n ≠ u.scheme.port
  rooted : u.path ≠ []
  segments : ∀ s ∈ u.path, IsSegment s
  query : ∀ q ∈ u.query, ∀ c ∈ q, inQuery c = false
  fragment : ∀ f ∈ u.fragment, ∀ c ∈ f, inFragment c = false

/-! ### Sets of characters -/

/-- User names and passwords have no character that ends them or the authority. -/
theorem inUser_spares {c : Char} (h : inUser c = false) : endsAuthority c = false ∧ c ≠ ':' ∧ c ≠ '@' := by
  simp only [inUser, inPath, Bool.or_eq_false_iff, beq_eq_false_iff_ne] at h
  simp [endsAuthority, isSlash, h]

theorem allowed_spares {c : Char} (h : Idna.isForbidden c = false) :
    0x20 < c.toNat ∧ endsAuthority c = false ∧ c ≠ '@' ∧ c ≠ ':' ∧ c ≠ '[' ∧ c ≠ ']' := by
  have hsigns : (0x20 < c.toNat ∧ c.toNat ≠ 0x7F) ∧ ∀ d ∈ "#%/:<>?@[\\]^|".toList, c ≠ d := by
    simpa [Idna.isForbidden] using h
  have hsign := hsigns.2
  refine ⟨hsigns.1.1, ?_, hsign '@' (by decide), hsign ':' (by decide), hsign '[' (by decide),
    hsign ']' (by decide)⟩
  simp [endsAuthority, isSlash, hsign '/' (by decide), hsign '\\' (by decide),
    hsign '?' (by decide), hsign '#' (by decide)]

/-- Hosts have no character that ends them or the authority, apart from what stands in brackets. -/
theorem host_spares {host : Host} (h : host.IsRead) :
    ∀ c ∈ host.text, 0x20 < c.toNat ∧ endsAuthority c = false ∧ c ≠ '@' := by
  intro c hc
  rcases h.isHostChar c hc with hname | rfl | rfl | rfl
  · obtain ⟨hlow, hends, hat, -⟩ := allowed_spares hname.allowed
    exact ⟨hlow, hends, hat⟩
  · decide
  · decide
  · decide

/-! ### Paths -/

theorem isDigit_of_mem_toString {n : Nat} {c : Char} (h : c ∈ (toString n).toList) :
    c.isDigit = true :=
  Nat.isDigit_of_mem_toDigits (b := 10) (by decide) (by decide) (by simpa using h)

theorem parsePort_toString (scheme : Scheme) {n : Nat} (h : n < 0x1_0000) (other : n ≠ scheme.port) :
    parsePort scheme (some (toString n).toList) = some (some n) := by
  have hdigits : (toString n).toList.all Char.isDigit = true :=
    List.all_eq_true.2 fun c hc => isDigit_of_mem_toString hc
  have hvalue : (toString n).toList.foldl (fun n c => n * 10 + (c.toNat - '0'.toNat)) 0 = n := by
    have hread : Nat.ofDigitChars 10 (toString n).toList 0 = n := by
      simp
    simpa [Nat.ofDigitChars, Nat.mul_comm] using hread
  have nonempty : (toString n).toList ≠ [] := by simp
  generalize (toString n).toList = cs at *
  rw [parsePort]
  · dsimp only
    rw [if_pos hdigits, hvalue, if_pos h, if_neg other]
  · exact nonempty

/-- The host and port as they are written. -/
def placeText (u : Url) : List Char :=
  u.host.text ++ optional ':' (u.port.map fun n => (toString n).toList)

theorem cutPort_append {inBrackets : Bool} {cs : List Char}
    (h : ∀ c ∈ cs, c ≠ '[' ∧ c ≠ ']' ∧ (inBrackets = false → c ≠ ':')) (rest : List Char) :
    cutPort inBrackets (cs ++ rest) =
      (cs ++ (cutPort inBrackets rest).1, (cutPort inBrackets rest).2) := by
  induction cs with
  | nil => rfl
  | cons c r ih =>
    obtain ⟨hopen, hclose, hcolon⟩ := h c List.mem_cons_self
    have hr := ih fun d hd => h d (List.mem_cons_of_mem c hd)
    have hport : ¬ (c = ':' ∧ (!inBrackets) = true) := by
      rintro ⟨rfl, houtside⟩
      exact hcolon (by simpa using houtside) rfl
    rw [List.cons_append, cutPort, if_neg (by simpa using hport), if_neg hopen, if_neg hclose, hr]
    rfl

/-- The port is cut off behind the host, also where the host has colons in brackets. -/
theorem cutPort_host {host : Host} (h : host.IsRead) (rest : List Char) :
    cutPort false (host.text ++ rest) =
      (host.text ++ (cutPort false rest).1, (cutPort false rest).2) := by
  have hplain : ∀ {cs : List Char}, (∀ c ∈ cs, IsNameChar c) →
      cutPort false (cs ++ rest) = (cs ++ (cutPort false rest).1, (cutPort false rest).2) := by
    intro cs hcs
    refine cutPort_append (fun c hc => ?_) rest
    obtain ⟨-, -, -, hcolon, hopen, hclose⟩ := allowed_spares (hcs c hc).allowed
    exact ⟨hopen, hclose, fun _ => hcolon⟩
  cases h with
  | name read nonempty noNumber => exact hplain read.isNameChar
  | ipv4 small => exact hplain (Host.isNameChar_ipv4 _)
  | @ipv6 ps pieces =>
    have hpieces : ∀ c ∈ Host.ipv6Text ps, c ≠ '[' ∧ c ≠ ']' ∧ (true = false → c ≠ ':') := by
      intro c hc
      rcases Host.mem_ipv6Text hc with rfl | ⟨n, -, hc⟩
      · decide
      · exact Host.forall_mem_pieceText (P := fun c => c ≠ '[' ∧ c ≠ ']' ∧ (true = false → c ≠ ':'))
          (by decide) n c hc
    have htext : Host.text (.ipv6 ps) ++ rest = '[' :: (Host.ipv6Text ps ++ ']' :: rest) := by
      simp [Host.text]
    have hopen : cutPort false ('[' :: (Host.ipv6Text ps ++ ']' :: rest)) =
        ('[' :: (cutPort true (Host.ipv6Text ps ++ ']' :: rest)).1,
          (cutPort true (Host.ipv6Text ps ++ ']' :: rest)).2) := rfl
    have hclose : cutPort true (']' :: rest) = (']' :: (cutPort false rest).1, (cutPort false rest).2) :=
      rfl
    rw [htext, hopen, cutPort_append hpieces, hclose]
    simp [Host.text]

variable {u : Url}

theorem IsRead.cutPort_placeText (h : u.IsRead) :
    cutPort false u.placeText = (u.host.text, u.port.map fun n => (toString n).toList) := by
  rw [placeText, cutPort_host h.host]
  cases u.port with
  | none => simp [optional, cutPort]
  | some n => simp [optional, cutPort]

theorem IsRead.parsePort (h : u.IsRead) :
    parsePort u.scheme (u.port.map fun n => (toString n).toList) = some u.port := by
  cases hport : u.port with
  | none => rfl
  | some n =>
    obtain ⟨hsmall, hother⟩ := h.port n hport
    exact parsePort_toString u.scheme hsmall hother

/-- What stands in host and port. -/
theorem IsRead.placeText_spares (h : u.IsRead) :
    ∀ c ∈ u.placeText, 0x20 < c.toNat ∧ endsAuthority c = false ∧ c ≠ '@' := by
  intro c hc
  rcases List.mem_append.1 hc with hc | hc
  · exact host_spares h.host c hc
  · cases hport : u.port with
    | none =>
      rw [hport] at hc
      cases hc
    | some n =>
      rw [hport] at hc
      rcases List.mem_cons.1 hc with rfl | hc
      · decide
      · have hname := Host.isNameChar_of_isDigit (isDigit_of_mem_toString hc)
        obtain ⟨hlow, hends, hat, -⟩ := allowed_spares hname.allowed
        exact ⟨hlow, hends, hat⟩

/-- User name and password as they are written before the sign that ends them. -/
def userText (u : Url) : List Char :=
  u.user ++ (if u.password.isEmpty then [] else ':' :: u.password)

theorem IsRead.parseCredentials_userText (h : u.IsRead) :
    parseCredentials u.userText = (u.user, u.password) := by
  have huser : encode inUser u.user = u.user := encode_of_forall h.user
  have hpassword : encode inUser u.password = u.password := encode_of_forall h.password
  have hcolon : ':' ∉ u.user := fun hmem => (inUser_spares (h.user ':' hmem)).2.1 rfl
  unfold parseCredentials userText
  split_ifs with hempty
  · rw [List.append_nil, Text.cutAt?_of_not_mem hcolon]
    dsimp only
    rw [huser, List.isEmpty_iff.1 hempty]
  · rw [Text.cutAt?_append_cons u.password hcolon]
    dsimp only
    rw [huser, hpassword]

/-- The credentials are cut off, and read as user name and password. -/
theorem IsRead.cutCredentials (h : u.IsRead) :
    ∃ credentials, cutCredentials (u.credentials ++ u.placeText) = (credentials, u.placeText) ∧
      parseCredentials (credentials.getD []) = (u.user, u.password) := by
  have hat : '@' ∉ u.placeText.reverse := fun hmem =>
    (h.placeText_spares '@' (List.mem_reverse.1 hmem)).2.2 rfl
  by_cases hnone : (u.user.isEmpty && u.password.isEmpty) = true
  · refine ⟨none, ?_, ?_⟩
    · rw [credentials, if_pos hnone, List.nil_append, Url.cutCredentials, Text.cutAt?_of_not_mem hat]
    · rw [Bool.and_eq_true, List.isEmpty_iff, List.isEmpty_iff] at hnone
      rw [hnone.1, hnone.2]
      rfl
  · refine ⟨some u.userText, ?_, h.parseCredentials_userText⟩
    have htext : (u.credentials ++ u.placeText).reverse =
        u.placeText.reverse ++ '@' :: u.userText.reverse := by
      simp [credentials, hnone, userText]
    rw [Url.cutCredentials, htext, Text.cutAt?_append_cons _ hat]
    simp

/-- Host, port and credentials are read back from their text. -/
theorem IsRead.site? (h : u.IsRead) :
    site? u.scheme (u.credentials ++ u.placeText) =
      if u.host.isReadable then some { u with path := [], query := none, fragment := none }
      else none := by
  obtain ⟨credentials, hcut, hcredentials⟩ := h.cutCredentials
  have nonempty : u.host.text.isEmpty = false := by simpa using h.host.text_ne_nil
  unfold Url.site?
  rw [hcut]
  dsimp only
  rw [hcredentials, h.cutPort_placeText]
  dsimp only
  rw [nonempty, if_neg Bool.false_ne_true, h.host.parse?_text, h.parsePort]
  split <;> rfl

/-! ### Addresses -/

/-- A host by its name alone is a site. -/
theorem site?_of_host {scheme : Scheme} {cs : List Char} {host : Host}
    (h : ∀ c ∈ cs, c ≠ '@' ∧ c ≠ ':' ∧ c ≠ '[' ∧ c ≠ ']') (nonempty : cs ≠ [])
    (hhost : Host.parse? cs = some host) :
    site? scheme cs = some ⟨scheme, [], [], host, none, [], none, none⟩ := by
  have hcut : cutCredentials cs = (none, cs) := by
    rw [cutCredentials, Text.cutAt?_of_not_mem fun hmem => (h '@' (List.mem_reverse.1 hmem)).1 rfl]
  have hport : cutPort false cs = (cs, none) := by
    have happend : cutPort false (cs ++ []) = (cs ++ (cutPort false []).1, (cutPort false []).2) :=
      cutPort_append (fun c hc => ⟨(h c hc).2.2.1, (h c hc).2.2.2, fun _ => (h c hc).2.1⟩) []
    simpa [cutPort] using happend
  unfold site?
  rw [hcut]
  dsimp only
  rw [hport]
  dsimp only
  rw [hhost, if_neg (by simpa using nonempty)]
  rfl

end StartPage.Url
