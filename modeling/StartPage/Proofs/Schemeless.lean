import StartPage.Proofs.Pattern.Language
import StartPage.Proofs.Typed
import StartPage.Proofs.Unicode

/-!
    The form of addresses without a scheme. It is given by a pattern, by the test that stands in its
    place, and by the parts that such an address has.

        x  www.  example  .  org  /search?q=      one character, which may be any, then the host
        ·  www?  host     .  tld  path            the path starts with no word character

    The character in front is the one that the pattern takes after `https://`. It belongs to the
    address all the same, so that the shortest hosts have three characters. -/

namespace StartPage

namespace CharSet

/-- A set of ASCII characters is known by what a table of them says. -/
theorem contains_of_lookup {s : CharSet} {p : Char → Bool} (low : ∀ r ∈ s.ranges, r.2 < 128)
    (hp : ∀ c, p c = true → c.toNat < 128)
    (lookup : ∀ n < 128, (s.contains (Char.ofNat n) == p (Char.ofNat n)) = true) (c : Char) :
    s.contains c = p c := by
  by_cases hc : c.toNat < 128
  · exact eq_of_beq (Ascii.forall_of_lookup (p := fun c => s.contains c == p c) lookup hc)
  · have hout : p c = false := Bool.eq_false_iff.2 fun h => hc (hp c h)
    rw [hout, Bool.eq_false_iff]
    intro hmem
    obtain ⟨r, hr, -, hle⟩ := exists_of_within hmem
    have hlow := low r hr
    omega

end CharSet

/-! ### Word characters -/

theorem asciiWord_eq : asciiWord = ⟨[(48, 57), (65, 90), (95, 95), (97, 122)]⟩ := by decide +kernel

theorem WordRule.holds_some (rule : WordRule) {c : Char} (h : c.toNat < 128) :
    rule.holds (some c) = Address.isWordChar c := by
  have hlookup : (asciiWord.contains c == Address.isWordChar c) = true := by
    rw [asciiWord_eq]
    exact Ascii.forall_of_lookup
      (p := fun c => CharSet.contains ⟨[(48, 57), (65, 90), (95, 95), (97, 122)]⟩ c ==
        Address.isWordChar c) (by decide +kernel) h
  rw [WordRule.holds, if_pos h, eq_of_beq hlookup]

namespace Address

open Pattern (Takes Stands takes_literal takes_one takes_loop_one oneOf someOf)

/-! ### The pattern -/

/-- The form of an address, its scheme included, as a pattern. -/
def shapeText : String :=
  "^(http(s)?://.)?(www\\.)?[-a-zA-Z0-9@:%._+~#=]\x7b2,256\x7d\\.[a-z]\x7b2,6\x7d\\b" ++
    "([-a-zA-Z0-9@:%_+.~#?&/=()\x27]*)$"

/-- The characters of hosts. -/
def hostSet : CharSet :=
  ⟨[(35, 35), (37, 37), (43, 43), (45, 46), (48, 58), (61, 61), (64, 90), (95, 95), (97, 122),
    (126, 126)]⟩

/-- The characters of paths. -/
def pathSet : CharSet :=
  ⟨[(35, 35), (37, 41), (43, 43), (45, 58), (61, 61), (63, 90), (95, 95), (97, 122), (126, 126)]⟩

/-- The characters that a dot takes. -/
def dotSet : CharSet := (CharSet.single '\n').compl

/-- A numbered group that may be left out. -/
def optional (i : Nat) (p : Pattern) : Pattern := .loop (.group i p) 0 (some 1) true

/-- The patterns of the characters of a text. -/
def characters (s : String) : List Pattern := s.toList.map fun c => .one (CharSet.single c)

/-- The pattern of a scheme and the character after it. -/
def schemeParts : List Pattern :=
  characters "http" ++ ([optional 2 (.sequence (characters "s"))] ++
    (characters "://" ++ [.one dotSet]))

/-- The pattern up to the end of the top-level domain. -/
def domainParts : List Pattern :=
  [optional 1 (.sequence schemeParts)] ++ ([optional 3 (.sequence (characters "www."))] ++
    ([.loop (.one hostSet) 2 (some 256) true] ++ (characters "." ++
      [.loop (.one (CharSet.range 'a' 'z')) 2 (some 6) true])))

/-- The pattern of the form of an address. -/
def shape : Pattern :=
  .sequence (.anchor .textStart :: (domainParts ++
    [.anchor (.wordEdge .unicode), .group 4 (.loop (.one pathSet) 0 none true), .anchor .textEnd]))

theorem parse?_shapeText : Pattern.parse? {} shapeText.toList = some shape := by decide +kernel

theorem contains_hostSet (c : Char) : hostSet.contains c = isHostChar c :=
  CharSet.contains_of_lookup (by decide)
    (fun c hc => lt_of_isPathChar (isPathChar_of_isHostChar hc)) (by decide +kernel) c

theorem contains_pathSet (c : Char) : pathSet.contains c = isPathChar c :=
  CharSet.contains_of_lookup (by decide) (fun c hc => lt_of_isPathChar hc) (by decide +kernel) c

theorem contains_lowerSet (c : Char) : (CharSet.range 'a' 'z').contains c = c.isLower :=
  CharSet.contains_of_lookup (by decide)
    (fun c hc => lt_of_isPathChar (isPathChar_of_isLower hc)) (by decide +kernel) c

theorem contains_dotSet (c : Char) : dotSet.contains c = true ↔ c ≠ '\n' := by
  have hset : dotSet = ⟨[(0, 9), (11, CharSet.maxCode)]⟩ := by decide
  have hvalid : c.toNat ≤ CharSet.maxCode := by
    have hcode : c.toNat < 0xD800 ∨ 0xDFFF < c.toNat ∧ c.toNat < 0x110000 := c.valid
    rw [CharSet.maxCode]
    omega
  have hfeed : c ≠ '\n' ↔ c.toNat ≠ 10 := not_congr Char.toNat_inj.symm
  rw [hset, hfeed, CharSet.contains, CharSet.hasCode]
  simp only [CharSet.within]
  split_ifs <;> simp <;> omega

/-! ### The parts of an address -/

/-- The parts of an address that comes without its scheme. -/
structure Parts where
  first : Char
  www : List Char
  host : List Char
  tld : List Char
  path : List Char

def Parts.text (p : Parts) : List Char := p.first :: (p.www ++ p.host ++ '.' :: (p.tld ++ p.path))

/-- Parts as an address may have them. -/
structure Parts.IsRegular (p : Parts) : Prop where
  first : p.first ≠ '\n'
  www : p.www = [] ∨ p.www = "www.".toList
  hostLength : 2 ≤ p.host.length ∧ p.host.length ≤ 256
  host : ∀ c ∈ p.host, isHostChar c = true
  tldLength : 2 ≤ p.tld.length ∧ p.tld.length ≤ 6
  tld : ∀ c ∈ p.tld, c.isLower = true
  path : ∀ c ∈ p.path, isPathChar c = true
  edge : ∀ c ∈ p.path.head?, isWordChar c = false

/-- The text has the parts of an address. -/
def IsShaped (cs : List Char) : Prop := ∃ p : Parts, p.IsRegular ∧ cs = p.text

/-! ### The test -/

theorem isWordChar_of_isLower {c : Char} (h : c.isLower = true) : isWordChar c = true := by
  delta isWordChar Char.isAlphanum Char.isAlpha
  simp [h]

theorem isDomainEnd_iff {cs : List Char} : isDomainEnd cs = true ↔
    ∃ tld path, cs = tld ++ path ∧ (2 ≤ tld.length ∧ tld.length ≤ 6) ∧
      (∀ c ∈ tld, c.isLower = true) ∧ (∀ c ∈ path, isPathChar c = true) ∧
      ∀ c ∈ path.head?, isWordChar c = false := by
  constructor
  · intro h
    simp only [isDomainEnd, Bool.and_eq_true, decide_eq_true_eq, List.all_eq_true,
      Bool.not_eq_true'] at h
    obtain ⟨⟨hlength, hedge⟩, hpath⟩ := h
    refine ⟨_, _, List.takeWhile_append_dropWhile.symm, hlength,
      fun c hc => List.mem_takeWhile_imp hc, hpath, fun c hc => ?_⟩
    rw [Option.mem_def.1 hc] at hedge
    exact hedge
  · rintro ⟨tld, path, rfl, hlength, htld, hpath, hedge⟩
    -- the path starts with no lower-case letter, so that the domain ends where it is said to end
    have hhead : ∀ c ∈ path.head?, c.isLower = false := by
      intro c hc
      refine Bool.eq_false_iff.2 fun hlower => ?_
      have hword := hedge c hc
      rw [isWordChar_of_isLower hlower] at hword
      cases hword
    have htake : (tld ++ path).takeWhile Char.isLower = tld := by
      rw [List.takeWhile_append_of_pos htld]
      cases path with
      | nil => simp
      | cons c r => simp [hhead c rfl]
    have hdrop : (tld ++ path).dropWhile Char.isLower = path := by
      rw [List.dropWhile_append_of_pos htld]
      cases path with
      | nil => rfl
      | cons c r => simp [hhead c rfl]
    have hany : path.head?.any isWordChar = false := by
      cases path with
      | nil => rfl
      | cons c r => exact hedge c rfl
    simp only [isDomainEnd, htake, hdrop, hany]
    simp [hlength]
    exact hpath

theorem isDomain_iff {cs : List Char} {n : Nat} : isDomain n cs = true ↔
    ∃ host rest, cs = host ++ '.' :: rest ∧ (2 ≤ n + host.length ∧ n + host.length ≤ 256) ∧
      (∀ c ∈ host, isHostChar c = true) ∧ isDomainEnd rest = true := by
  induction cs generalizing n with
  | nil => simp [isDomain]
  | cons c r ih =>
    simp only [isDomain, Bool.or_eq_true, Bool.and_eq_true, beq_iff_eq, decide_eq_true_eq, ih]
    constructor
    · rintro (⟨⟨⟨rfl, hleast⟩, hmost⟩, hend⟩ | ⟨⟨hc, hlt⟩, host, rest, rfl, hlength, hhost, hend⟩)
      · exact ⟨[], r, rfl, ⟨hleast, hmost⟩, List.forall_mem_nil _, hend⟩
      · refine ⟨c :: host, rest, rfl, ?_, List.forall_mem_cons.2 ⟨hc, hhost⟩, hend⟩
        rw [List.length_cons]
        omega
    · rintro ⟨_ | ⟨d, host⟩, rest, hsplit, hlength, hhost, hend⟩
      · obtain ⟨rfl, rfl⟩ := List.cons.inj hsplit
        exact .inl ⟨⟨⟨rfl, hlength.1⟩, hlength.2⟩, hend⟩
      · obtain ⟨rfl, rfl⟩ := List.cons.inj hsplit
        obtain ⟨hd, hhost⟩ := List.forall_mem_cons.1 hhost
        rw [List.length_cons] at hlength
        exact .inr ⟨⟨hd, by omega⟩, host, rest, rfl, by omega, hhost, hend⟩

/-- The test accepts the texts that have the parts of an address. -/
theorem looksLikeAddress_iff {cs : List Char} : looksLikeAddress cs = true ↔ IsShaped cs := by
  constructor
  · intro h
    cases cs with
    | nil => cases h
    | cons c r =>
      simp only [looksLikeAddress, Bool.and_eq_true, Bool.or_eq_true, bne_iff_ne,
        Option.any_eq_true] at h
      obtain ⟨hc, hdomain⟩ := h
      have hparts : ∃ www rest, r = www ++ rest ∧ (www = [] ∨ www = "www.".toList) ∧
          isDomain 0 rest = true := by
        rcases hdomain with hdomain | ⟨rest, hrest, hdomain⟩
        · exact ⟨[], r, rfl, .inl rfl, hdomain⟩
        · exact ⟨_, rest, after?_eq_some.1 hrest, .inr rfl, hdomain⟩
      obtain ⟨www, rest, rfl, hwww, hdomain⟩ := hparts
      obtain ⟨host, rest, rfl, hlength, hhost, hend⟩ := isDomain_iff.1 hdomain
      obtain ⟨tld, path, rfl, htldLength, htld, hpath, hedge⟩ := isDomainEnd_iff.1 hend
      rw [Nat.zero_add] at hlength
      refine ⟨⟨c, www, host, tld, path⟩,
        ⟨hc, hwww, hlength, hhost, htldLength, htld, hpath, hedge⟩, ?_⟩
      rw [Parts.text, List.append_assoc]
  · rintro ⟨⟨c, www, host, tld, path⟩, h, rfl⟩
    have hend : isDomainEnd (tld ++ path) = true :=
      isDomainEnd_iff.2 ⟨tld, path, rfl, h.tldLength, h.tld, h.path, h.edge⟩
    have hdomain : isDomain 0 (host ++ '.' :: (tld ++ path)) = true := by
      refine isDomain_iff.2 ⟨host, _, rfl, ?_, h.host, hend⟩
      rw [Nat.zero_add]
      exact h.hostLength
    simp only [Parts.text, looksLikeAddress, Bool.and_eq_true, Bool.or_eq_true, bne_iff_ne,
      Option.any_eq_true]
    refine ⟨h.first, ?_⟩
    rcases h.www with hwww | hwww
    · dsimp only at hwww
      rw [hwww]
      exact .inl hdomain
    · dsimp only at hwww
      rw [hwww, List.append_assoc]
      exact .inr ⟨_, Text.after?_append _ _, hdomain⟩

/-! ### What the pattern finds -/

variable {text cs rest : List Char}

/-- The words that may be left out. -/
def orNothing (L : Language Char) : Language Char := {w | w = [] ∨ w ∈ L}

/-- A scheme with one more character after it. -/
def schemeWords : Language Char :=
  {"http".toList} * (orNothing {"s".toList} * ({"://".toList} * oneOf dotSet))

/-- The words up to the end of the top-level domain. -/
def domainWords : Language Char :=
  orNothing schemeWords * (orNothing {"www.".toList} *
    (someOf hostSet 2 (some 256) * ({".".toList} * someOf (CharSet.range 'a' 'z') 2 (some 6))))

theorem takes_characters (s : String) : Takes text (.sequence (characters s)) {s.toList} :=
  takes_literal s.toList

theorem takes_optional {p : Pattern} {L : Language Char} (h : Takes text p L) (i : Nat) :
    Takes text (.sequence [optional i p]) (orNothing L) := (h.group i).optional true

theorem takes_schemeParts : Takes text (.sequence schemeParts) schemeWords :=
  (takes_characters "http").append ((takes_optional (takes_characters "s") 2).append
    ((takes_characters "://").append (takes_one dotSet)))

theorem takes_domainParts : Takes text (.sequence domainParts) domainWords :=
  (takes_optional takes_schemeParts 1).append ((takes_optional (takes_characters "www.") 3).append
    ((takes_loop_one hostSet 2 (some 256) true).append ((takes_characters ".").append
      (takes_loop_one (CharSet.range 'a' 'z') 2 (some 6) true))))

theorem mem_someOf {s : CharSet} {p : Char → Bool} {least most : Nat} {w : List Char}
    (hle : least ≤ most) (hs : ∀ c, s.contains c = p c) : w ∈ someOf s least (some most) ↔
      (least ≤ w.length ∧ w.length ≤ most) ∧ ∀ c ∈ w, p c = true := by
  have hmost : (∀ m, some most = some m → w.length ≤ max least m) ↔ w.length ≤ most := by
    simp only [Option.some.injEq, forall_eq', Nat.max_eq_right hle]
  have hall : (∀ c ∈ w, s.contains c = true) ↔ ∀ c ∈ w, p c = true := by simp [hs]
  exact (and_congr_right fun _ => and_congr hmost hall).trans and_assoc.symm

theorem mem_domainWords {w : List Char} : w ∈ domainWords ↔
    ∃ scheme www host tld, w = scheme ++ (www ++ (host ++ '.' :: tld)) ∧
      scheme ∈ orNothing schemeWords ∧ (www = [] ∨ www = "www.".toList) ∧
      ((2 ≤ host.length ∧ host.length ≤ 256) ∧ ∀ c ∈ host, isHostChar c = true) ∧
      (2 ≤ tld.length ∧ tld.length ≤ 6) ∧ ∀ c ∈ tld, c.isLower = true := by
  simp only [domainWords, Language.mem_mul]
  constructor
  · rintro ⟨scheme, hscheme, _, ⟨www, hwww, _, ⟨host, hhost, _, ⟨_, rfl, tld, htld, rfl⟩, rfl⟩,
      rfl⟩, rfl⟩
    exact ⟨scheme, www, host, tld, rfl, hscheme, hwww,
      (mem_someOf (by decide) contains_hostSet).1 hhost,
      (mem_someOf (by decide) contains_lowerSet).1 htld⟩
  · rintro ⟨scheme, www, host, tld, rfl, hscheme, hwww, hhost, htld⟩
    exact ⟨scheme, hscheme, _, ⟨www, hwww, _, ⟨host,
      (mem_someOf (by decide) contains_hostSet).2 hhost, _, ⟨_, rfl, tld,
      (mem_someOf (by decide) contains_lowerSet).2 htld, rfl⟩, rfl⟩, rfl⟩, rfl⟩

/-- A scheme in the pattern's sense, with the character after it. -/
theorem mem_schemeWords {w : List Char} : w ∈ schemeWords ↔
    ∃ c, c ≠ '\n' ∧ (w = "http://".toList ++ [c] ∨ w = "https://".toList ++ [c]) := by
  constructor
  · rintro ⟨_, rfl, _, ⟨s, hs, _, ⟨_, rfl, _, ⟨c, hc, rfl⟩, rfl⟩, rfl⟩, rfl⟩
    refine ⟨c, (contains_dotSet c).1 hc, ?_⟩
    rcases hs with rfl | rfl
    · exact .inl rfl
    · exact .inr rfl
  · rintro ⟨c, hc, rfl | rfl⟩
    · have hone : [c] ∈ oneOf dotSet := ⟨c, (contains_dotSet c).2 hc, rfl⟩
      exact ⟨_, rfl, _, ⟨[], .inl rfl, _, ⟨_, rfl, _, hone, rfl⟩, rfl⟩, rfl⟩
    · have hone : [c] ∈ oneOf dotSet := ⟨c, (contains_dotSet c).2 hc, rfl⟩
      exact ⟨_, rfl, _, ⟨_, .inr rfl, _, ⟨_, rfl, _, hone, rfl⟩, rfl⟩, rfl⟩

/-- A host that starts with the scheme would reach up to the first slash, before which there is no
    dot. -/
theorem not_host_of_scheme {host : List Char} (hhost : ∀ c ∈ host, isHostChar c = true) :
    host ++ '.' :: rest ≠ "https://".toList ++ cs := by
  intro heq
  have hdot : host ++ ['.'] <+: "https://".toList ++ cs :=
    ⟨rest, by rw [← heq, List.append_assoc]; rfl⟩
  have hslash : "https:/".toList <+: "https://".toList ++ cs := ⟨'/' :: cs, rfl⟩
  rcases List.prefix_or_prefix_of_prefix hdot hslash with hp | hp
  · have hmem : '.' ∈ "https:/".toList := hp.subset (by simp)
    exact absurd hmem (by decide)
  · have hmem : '/' ∈ host ++ ['.'] := hp.subset (by decide)
    rcases List.mem_append.1 hmem with hmem | hmem
    · exact absurd (hhost '/' hmem) (by decide)
    · exact absurd hmem (by decide)

/-- What stands after `https://` starts with the character that the pattern counts to the scheme. -/
theorem scheme_of_append {scheme www host : List Char} (hscheme : scheme ∈ orNothing schemeWords)
    (hwww : www = [] ∨ www = "www.".toList) (hhost : ∀ c ∈ host, isHostChar c = true)
    (heq : scheme ++ (www ++ (host ++ '.' :: rest)) = "https://".toList ++ cs) :
    ∃ c, c ≠ '\n' ∧ scheme = "https://".toList ++ [c] ∧
      cs = c :: (www ++ (host ++ '.' :: rest)) := by
  rcases hscheme with rfl | hscheme
  · rcases hwww with rfl | rfl
    · exact absurd heq (not_host_of_scheme hhost)
    · cases heq
  · obtain ⟨c, hc, rfl | rfl⟩ := mem_schemeWords.1 hscheme
    · cases heq
    · rw [List.append_assoc] at heq
      exact ⟨c, hc, rfl, (List.append_cancel_left heq).symm⟩

/-- After a letter, a word ends where no word character follows. -/
theorem wordEdge_holds {before path : List Char} (last : ∃ b ∈ before.getLast?, b.isLower = true)
    (hpath : ∀ c ∈ path, isPathChar c = true) :
    (Anchor.wordEdge .unicode).holds before.getLast? path.head? = true ↔
      ∀ c ∈ path.head?, isWordChar c = false := by
  obtain ⟨b, hb, hlower⟩ := last
  have hword : WordRule.unicode.holds (some b) = true := by
    rw [WordRule.holds_some _ (lt_of_isPathChar (isPathChar_of_isLower hlower)),
      isWordChar_of_isLower hlower]
  rw [Anchor.holds, Option.mem_def.1 hb, hword]
  cases path with
  | nil => simp [WordRule.holds]
  | cons c r =>
    have hc := WordRule.holds_some .unicode (lt_of_isPathChar (hpath c List.mem_cons_self))
    simp [hc]

/-- The last character before the path is one of the top-level domain. -/
theorem getLast?_domain {scheme www host tld : List Char} (htld : ∀ c ∈ tld, c.isLower = true)
    (nonempty : 2 ≤ tld.length) :
    ∃ b ∈ (scheme ++ (www ++ (host ++ '.' :: tld))).getLast?, b.isLower = true := by
  have hne : tld ≠ [] := by
    rintro rfl
    simp at nonempty
  refine ⟨tld.getLast hne, ?_, htld _ (List.getLast_mem hne)⟩
  simp [List.getLast?_append, List.getLast?_cons, List.getLast?_eq_some_getLast hne]

theorem takes_path :
    Takes text (.group 4 (.loop (.one pathSet) 0 none true)) (someOf pathSet 0 none) :=
  (takes_loop_one pathSet 0 none true).group 4

/-- The pattern matches whole texts: words up to the end of the domain, and a path after its edge. -/
theorem spans_shape {i j : Nat} (hi : i ≤ text.length) : shape.Spans text i j ↔
    ∃ domain path, text = domain ++ path ∧ (i = 0 ∧ j = text.length) ∧ domain ∈ domainWords ∧
      (∀ c ∈ path, isPathChar c = true) ∧
      (Anchor.wordEdge .unicode).holds domain.getLast? path.head? = true := by
  rw [shape, Pattern.spans_sequence_cons]
  constructor
  · rintro ⟨_, hstart, hrest⟩
    obtain ⟨rfl, rfl⟩ := (Pattern.spans_textStart hi).1 hstart
    obtain ⟨k, hdomain, _, ⟨hedge, rfl⟩, l, hpath, hend⟩ := Pattern.spans_sequence_append.1 hrest
    have hk := (hdomain.forward hi).2
    obtain ⟨hl, rfl⟩ := (Pattern.spans_textEnd (hpath.forward hk).2).1 hend
    obtain ⟨domain, hwords, hfirst⟩ := (takes_domainParts 0 k).1 hdomain
    obtain ⟨path, ⟨-, -, hchars⟩, hsecond⟩ := (takes_path k l).1 hpath
    have htext : domain ++ path = text :=
      Pattern.stands_whole.1 (hl ▸ Pattern.stands_append.2 ⟨k, hfirst, hsecond⟩)
    have hlength : k = domain.length := by
      rw [hfirst.2, Nat.zero_add]
    rw [← htext, hlength, Pattern.placeAt_append] at hedge
    refine ⟨domain, path, htext.symm, ⟨rfl, hl⟩, hwords, fun c hc => ?_, hedge⟩
    rw [← contains_pathSet]
    exact hchars c hc
  · rintro ⟨domain, path, rfl, ⟨rfl, rfl⟩, hwords, hpath, hedge⟩
    have hwhole := Pattern.stands_whole.2 (rfl : domain ++ path = domain ++ path)
    obtain ⟨k, hfirst, hsecond⟩ := Pattern.stands_append.1 hwhole
    have hlength : k = domain.length := by
      rw [hfirst.2, Nat.zero_add]
    have hchars : path ∈ someOf pathSet 0 none :=
      ⟨Nat.zero_le _, nofun, fun c hc => (contains_pathSet c).trans (hpath c hc)⟩
    refine ⟨0, (Pattern.spans_textStart hi).2 ⟨rfl, rfl⟩, Pattern.spans_sequence_append.2
      ⟨k, (takes_domainParts 0 k).2 ⟨domain, hwords, hfirst⟩, k, ⟨?_, rfl⟩, _,
        (takes_path k _).2 ⟨path, hchars, hsecond⟩,
        (Pattern.spans_textEnd (Nat.le_refl _)).2 ⟨rfl, rfl⟩⟩⟩
    rw [hlength, Pattern.placeAt_append]
    exact hedge

/-- After `https://`, the pattern is found where the parts of an address are. -/
theorem finds_shape : shape.program.Finds ("https://".toList ++ cs) ↔ IsShaped cs := by
  rw [Pattern.finds_iff]
  constructor
  · rintro ⟨i, hi, j, hspans⟩
    obtain ⟨domain, path, htext, -, hwords, hpath, hedge⟩ := (spans_shape hi).1 hspans
    obtain ⟨scheme, www, host, tld, rfl, hscheme, hwww, ⟨hhostLength, hhost⟩, htldLength, htld⟩ :=
      mem_domainWords.1 hwords
    have hsplit : scheme ++ (www ++ (host ++ '.' :: (tld ++ path))) = "https://".toList ++ cs := by
      rw [htext]
      simp
    obtain ⟨c, hc, rfl, rfl⟩ := scheme_of_append hscheme hwww hhost hsplit
    refine ⟨⟨c, www, host, tld, path⟩,
      ⟨hc, hwww, hhostLength, hhost, htldLength, htld, hpath, ?_⟩, ?_⟩
    · exact (wordEdge_holds (getLast?_domain htld htldLength.1) hpath).1 hedge
    · rw [Parts.text, List.append_assoc]
  · rintro ⟨⟨c, www, host, tld, path⟩, h, rfl⟩
    refine ⟨0, Nat.zero_le _, _, (spans_shape (Nat.zero_le _)).2 ⟨"https://".toList ++ [c] ++
      (www ++ (host ++ '.' :: tld)), path, ?_, ⟨rfl, rfl⟩, ?_, h.path, ?_⟩⟩
    · simp [Parts.text]
    · have hscheme := mem_schemeWords.2 ⟨c, h.first, .inr rfl⟩
      exact mem_domainWords.2 ⟨_, www, host, tld, rfl, .inr hscheme, h.www,
        ⟨h.hostLength, h.host⟩, h.tldLength, h.tld⟩
    · exact (wordEdge_holds (getLast?_domain h.tld h.tldLength.1) h.path).2 h.edge

/-! ### Resolving -/

/-- A text without a scheme stands for an address just if it has the parts of one, as the pattern has
    it, and can be read as one after `https://`; otherwise the fault names the text itself. -/
theorem resolve_unnamed (raw : String) (unnamed : ¬ NamesScheme raw.toList) :
    (∃ p, Pattern.parse? {} shapeText.toList = some p ∧
      (p.program.Finds ("https://".toList ++ raw.toList) ↔ IsShaped raw.toList)) ∧
    (∀ u, resolve raw = .ok u ↔
      IsShaped raw.toList ∧ Url.parse? .https ("//".toList ++ raw.toList) = some u) ∧
    ((∃ u, resolve raw = .ok u) ∨ resolve raw = .error (.unresolvable raw)) := by
  have hscheme : scheme? raw.toList = none := by
    simpa [namesScheme_iff, Option.not_isSome_iff_eq_none] using unnamed
  refine ⟨⟨shape, parse?_shapeText, finds_shape⟩, fun u => ?_, ?_⟩
  · rw [resolve_eq_ok, hscheme, looksLikeAddress_iff]
    simp
  · cases h : resolve raw with
    | ok u => exact .inl ⟨u, rfl⟩
    | error f => exact .inr (by rw [eq_of_resolve_eq_error h])

/-- The host of the second text has two characters, of which the pattern takes one. -/
theorem resolve_unnamed_short :
    ¬ NamesScheme "example.com/?q=".toList ∧ IsShaped "example.com/?q=".toList ∧
      resolve "example.com/?q=" = .ok Entry.site ∧
      ¬ NamesScheme "bg.epz/l73q7".toList ∧ ¬ IsShaped "bg.epz/l73q7".toList ∧
      resolve "bg.epz/l73q7" = .error (.unresolvable "bg.epz/l73q7") := by
  have hlong : ¬ NamesScheme "example.com/?q=".toList := by rw [namesScheme_iff]; decide
  have hshort : ¬ NamesScheme "bg.epz/l73q7".toList := by rw [namesScheme_iff]; decide
  have hshape : ¬ IsShaped "bg.epz/l73q7".toList := by
    rw [← looksLikeAddress_iff]
    decide +kernel
  obtain ⟨-, haccepts, -⟩ := resolve_unnamed "example.com/?q=" hlong
  obtain ⟨-, hrefuses, hor⟩ := resolve_unnamed "bg.epz/l73q7" hshort
  refine ⟨hlong, ((haccepts _).1 Entry.resolve_site).1, Entry.resolve_site, hshort, hshape, ?_⟩
  exact hor.resolve_left fun ⟨u, hu⟩ => hshape ((hrefuses u).1 hu).1

end Address
end StartPage
