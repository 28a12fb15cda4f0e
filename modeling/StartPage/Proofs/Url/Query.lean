import Mathlib.Data.List.TakeDrop
import Mathlib.Data.List.TakeWhile
import StartPage.Proofs.Ascii
import StartPage.Proofs.Text
import StartPage.Proofs.Url.Percent
import StartPage.Url.Parser

/-!
    Addresses that grow at the end. What is written after the question mark of an address goes to its
    query and nowhere else, as long as it is no fragment.

        //x.org/a?q=        ──▶   x.org  /a  q=
        //x.org/a?q= blue   ──▶   x.org  /a  q=blue      -/

namespace StartPage.Url

/-! ### Cleaning -/

/-- What cleaning keeps inside a text. -/
def isKept (c : Char) : Bool := c != '\t' && c != '\n' && c != '\r'

theorem dropWhile_of_head? {p : Char → Bool} {cs : List Char} (h : ∀ c ∈ cs.head?, p c = false) :
    cs.dropWhile p = cs := by
  cases cs with
  | nil => rfl
  | cons c r => exact List.dropWhile_cons_of_neg (by simp [h c rfl])

/-- A text that ends in a visible character is cleaned of tabs and line ends only. -/
theorem clean_eq_filter {cs : List Char} (h : ∀ c ∈ cs.getLast?, 0x20 < c.toNat) :
    clean cs = cs.filter isKept := by
  have hhead : ∀ c ∈ cs.reverse.head?, decide (c.toNat ≤ 0x20) = false := by
    intro c hc
    rw [List.head?_reverse] at hc
    have hvisible := h c hc
    simpa using hvisible
  show ((cs.reverse.dropWhile (·.toNat ≤ 0x20)).reverse).filter isKept = _
  rw [dropWhile_of_head? hhead, List.reverse_reverse]

theorem isKept_of_lt {c : Char} (h : 0x20 < c.toNat) : isKept c = true := by
  have hne : ∀ d : Char, d.toNat ≤ 0x20 → c ≠ d := by
    rintro d hd rfl
    omega
  simp [isKept, hne '\t' (by decide), hne '\n' (by decide), hne '\r' (by decide)]

/-- A text of visible characters is clean. -/
theorem filter_isKept {cs : List Char} (h : ∀ c ∈ cs, 0x20 < c.toNat) : cs.filter isKept = cs :=
  List.filter_eq_self.2 fun c hc => isKept_of_lt (h c hc)

theorem clean_of_visible {cs : List Char} (h : ∀ c ∈ cs, 0x20 < c.toNat) : clean cs = cs := by
  rw [clean_eq_filter fun c hc => h c (List.mem_of_getLast? hc), filter_isKept h]

/-- The slashes in front are passed over. -/
theorem dropWhile_clean_slashes {cs : List Char} (h : ∀ c ∈ cs, 0x20 < c.toNat)
    (starts : ∀ c ∈ cs.head?, isSlash c = false) :
    (clean ("//".toList ++ cs)).dropWhile isSlash = cs := by
  rw [clean_of_visible (List.forall_mem_append.2 ⟨Ascii.forall_mem (by decide), h⟩)]
  exact dropWhile_of_head? starts

/-! ### Cutting -/

theorem mem_dropWhile {p : Char → Bool} {cs : List Char} {c : Char} (h : c ∈ cs)
    (hc : p c = false) : c ∈ cs.dropWhile p := by
  rw [← List.takeWhile_append_dropWhile (p := p) (l := cs)] at h
  rcases List.mem_append.1 h with h | h
  · exact absurd (List.mem_takeWhile_imp h) (by simp [hc])
  · exact h

/-- What is written after a character that ends the front makes no difference to the front. -/
theorem cut_append {p : Char → Bool} {cs : List Char} {c : Char} (h : c ∈ cs) (hc : p c = false)
    (more : List Char) : (cs ++ more).takeWhile p = cs.takeWhile p ∧
      (cs ++ more).dropWhile p = cs.dropWhile p ++ more := by
  induction cs with
  | nil => cases h
  | cons d r ih =>
    cases hd : p d with
    | false => simp [hd]
    | true =>
      have hne : c ≠ d := by
        rintro rfl
        exact absurd hd (by simp [hc])
      obtain ⟨htake, hdrop⟩ := ih ((List.mem_cons.1 h).resolve_left hne)
      simp [hd, htake, hdrop]

/-- A text is cut where its front ends. -/
theorem span_append {p : Char → Bool} {front rest : List Char} (h : ∀ c ∈ front, p c = true)
    (hrest : ∀ c ∈ rest.head?, p c = false) : (front ++ rest).span p = (front, rest) := by
  have htake : rest.takeWhile p = [] := by
    cases rest with
    | nil => rfl
    | cons c r => exact List.takeWhile_cons_of_neg (by simp [hrest c rfl])
  rw [List.span_eq_takeWhile_dropWhile, List.takeWhile_append_of_pos h,
    List.dropWhile_append_of_pos h, htake, dropWhile_of_head? hrest, List.append_nil]

/-! ### Reading in two parts -/

/-- An address without path, query and fragment, read from what stands before them. -/
def site? (scheme : Scheme) (authority : List Char) : Option Url := do
  let (credentials, place) := cutCredentials authority
  let (user, password) := parseCredentials (credentials.getD [])
  let (hostText, portText) := cutPort false place
  let host ← if hostText.isEmpty then none else Host.parse? hostText
  let port ← parsePort scheme portText
  some ⟨scheme, user, password, host, port, [], none, none⟩

/-- A character that ends a path. -/
def endsPath (c : Char) : Bool := c == '?' || c == '#'

/-- What comes after the path does not matter for the site, and the site not for what comes after. -/
theorem parse?_eq {scheme : Scheme} {text authority path tail : List Char}
    (h : (clean text).dropWhile isSlash = authority ++ (path ++ tail))
    (hauthority : ∀ c ∈ authority, endsAuthority c = false)
    (hpath : ∀ c ∈ path, endsPath c = false)
    (started : ∀ c ∈ (path ++ tail).head?, endsAuthority c = true)
    (ended : ∀ c ∈ tail.head?, endsPath c = true) :
    parse? scheme text = (site? scheme authority).map fun u =>
      { u with path := parsePath path, query := (parseTail tail).1, fragment := (parseTail tail).2 } := by
  have hfirst : (authority ++ (path ++ tail)).span (!endsAuthority ·) = (authority, path ++ tail) :=
    span_append (fun c hc => by simp [hauthority c hc]) (fun c hc => by simp [started c hc])
  have hsecond : (path ++ tail).span (fun c => c != '?' && c != '#') = (path, tail) :=
    span_append (fun c hc => by simpa [endsPath] using hpath c hc)
      (fun c hc => by
        have hends := ended c hc
        simp only [endsPath, Bool.or_eq_true, beq_iff_eq] at hends
        rcases hends with rfl | rfl <;> decide)
  unfold parse? site?
  dsimp only
  rw [h, hfirst]
  dsimp only
  rw [hsecond]
  dsimp only
  split
  · rfl
  cases Host.parse? (cutPort false (cutCredentials authority).2).1 with
  | none => rfl
  | some host =>
    cases parsePort scheme (cutPort false (cutCredentials authority).2).2 with
    | none => rfl
    | some port => rfl

/-- An address has a host. -/
theorem parse?_eq_none {scheme : Scheme} {text rest : List Char} {c : Char}
    (h : (clean text).dropWhile isSlash = c :: rest) (hc : endsAuthority c = true) :
    parse? scheme text = none := by
  have hspan : (c :: rest).span (!endsAuthority ·) = ([], c :: rest) :=
    @span_append (!endsAuthority ·) [] (c :: rest) nofun fun d hd => by
      simp [← Option.some.inj hd, hc]
  unfold parse?
  dsimp only
  rw [h, hspan]
  rfl

/-! ### Queries -/

/-- An address without query and fragment, read from what stands before them. -/
def base? (scheme : Scheme) (front : List Char) : Option Url :=
  (site? scheme (front.takeWhile (!endsAuthority ·))).map fun u =>
    { u with path := parsePath (front.dropWhile (!endsAuthority ·)) }

theorem parseTail_query {query : List Char} (h : '#' ∉ query) :
    parseTail ('?' :: query) = (some (encode inQuery query), none) := by
  rw [parseTail, Text.cutAt?_of_not_mem h]

/-- The part up to the first question mark and the query are read apart from one another. -/
theorem parse?_of_query {scheme : Scheme} {text front query : List Char}
    (h : (clean text).dropWhile isSlash = front ++ '?' :: query)
    (hfront : ∀ c ∈ front, endsPath c = false) (hquery : '#' ∉ query) :
    parse? scheme text = (base? scheme front).map fun u =>
      { u with query := some (encode inQuery query), fragment := none } := by
  have hauthority : ∀ c ∈ front.takeWhile (!endsAuthority ·), endsAuthority c = false :=
    fun c hc => by simpa using List.mem_takeWhile_imp hc
  have hpath : ∀ c ∈ front.dropWhile (!endsAuthority ·), endsPath c = false :=
    fun c hc => hfront c ((List.dropWhile_sublist _).subset hc)
  have hstarted : ∀ c ∈ (front.dropWhile (!endsAuthority ·) ++ '?' :: query).head?,
      endsAuthority c = true := by
    intro c hc
    have hhead := List.head?_dropWhile_not (!endsAuthority ·) front
    cases hrest : front.dropWhile (!endsAuthority ·) with
    | nil =>
      rw [hrest] at hc
      exact Option.some.inj hc ▸ rfl
    | cons d r =>
      rw [hrest] at hc hhead
      obtain rfl := Option.some.inj hc
      simpa using hhead
  have hsplit : (clean text).dropWhile isSlash = front.takeWhile (!endsAuthority ·) ++
      (front.dropWhile (!endsAuthority ·) ++ '?' :: query) := by
    rw [h, ← List.append_assoc, List.takeWhile_append_dropWhile]
  rw [parse?_eq hsplit hauthority hpath hstarted (by simp [endsPath]), parseTail_query hquery, base?,
    Option.map_map]
  rfl

/-- What is visible and written behind a text with a visible end stays as it is. -/
theorem clean_append {text more : List Char} (ends : ∀ c ∈ text.getLast?, 0x20 < c.toNat)
    (visible : ∀ c ∈ more, 0x20 < c.toNat) : clean (text ++ more) = clean text ++ more := by
  have hends : ∀ c ∈ (text ++ more).getLast?, 0x20 < c.toNat := by
    intro c hc
    rw [List.getLast?_append] at hc
    cases hlast : more.getLast? with
    | none => exact ends c (by simpa [hlast] using hc)
    | some d =>
      have hd : d = c := by simpa [hlast] using hc
      exact hd ▸ visible d (List.mem_of_getLast? hlast)
  rw [clean_eq_filter hends, List.filter_append, filter_isKept visible, clean_eq_filter ends]

/-- What is written at the end of an address with a question mark goes to its query. -/
theorem parse?_append {scheme : Scheme} {text more : List Char} {u : Url}
    (h : parse? scheme text = some u) (asks : '?' ∈ text) (unmarked : '#' ∉ text)
    (ends : ∀ c ∈ text.getLast?, 0x20 < c.toNat)
    (visible : ∀ c ∈ more, 0x20 < c.toNat ∧ c ≠ '#') :
    ∃ v, parse? scheme (text ++ more) = some v ∧ v.hrefText = u.hrefText ++ encode inQuery more := by
  have hkept : '?' ∈ clean text := by
    rw [clean_eq_filter ends]
    exact List.mem_filter.2 ⟨asks, by decide⟩
  -- the first question mark is not among the slashes at the front
  obtain ⟨front, query, hsplit, hfront⟩ :=
    List.eq_append_cons_of_mem (mem_dropWhile hkept (by decide : isSlash '?' = false))
  have hsplit' : (clean (text ++ more)).dropWhile isSlash = front ++ '?' :: (query ++ more) := by
    rw [clean_append ends fun c hc => (visible c hc).1, (cut_append hkept (by decide) more).2, hsplit,
      List.append_assoc, List.cons_append]
  have hchars : ∀ c ∈ front ++ '?' :: query, c ≠ '#' := by
    rw [← hsplit, clean_eq_filter ends]
    rintro c hc rfl
    exact unmarked (List.mem_filter.1 ((List.dropWhile_sublist _).subset hc)).1
  have hpassed : ∀ c ∈ front, endsPath c = false := by
    intro c hc
    have hmark : c ≠ '?' := fun heq => hfront (heq ▸ hc)
    simp [endsPath, hmark, hchars c (by simp [hc])]
  have hquery : '#' ∉ query := fun hc => hchars '#' (by simp [hc]) rfl
  have hquery' : '#' ∉ query ++ more := fun hc =>
    (List.mem_append.1 hc).elim hquery fun hc => (visible '#' hc).2 rfl
  rw [parse?_of_query hsplit hpassed hquery] at h
  obtain ⟨w, hw, rfl⟩ := Option.map_eq_some_iff.1 h
  refine ⟨_, (parse?_of_query hsplit' hpassed hquery').trans (by rw [hw, Option.map_some]), ?_⟩
  simp [hrefText, optional, credentials, encode_append]

end StartPage.Url
