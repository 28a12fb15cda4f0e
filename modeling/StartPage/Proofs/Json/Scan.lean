import StartPage.Json.Printer
import StartPage.Json.Token
import StartPage.Proofs.Json.Number

/-!
    Tokens of printed text. The text of a value on several lines consists of the tokens of the
    value: blanks between them leave no trace, strings come back with their escapes undone, and a
    number ends where a comma or a new line follows.

        {⏎  "hits": 3⏎}   ──▶   {  "hits"  :  3  } -/

namespace StartPage.Json

mutual

/-- The tokens of a value. -/
def tokens : Json → List Token
  | .arr [] => [.openList, .closeList]
  | .arr (v :: vs) => .openList :: (tokens v ++ (itemTokens vs ++ [.closeList]))
  | .obj [] => [.openObject, .closeObject]
  | .obj ((k, v) :: fs) =>
    .openObject :: .value (.str k) :: .colon :: (tokens v ++ (fieldTokens fs ++ [.closeObject]))
  | v => [.value v]

/-- The tokens of the items of a list after its first. -/
def itemTokens : List Json → List Token
  | [] => []
  | v :: vs => .comma :: (tokens v ++ itemTokens vs)

/-- The tokens of the fields of an object after its first. -/
def fieldTokens : List (String × Json) → List Token
  | [] => []
  | (k, v) :: fs => .comma :: .value (.str k) :: .colon :: (tokens v ++ fieldTokens fs)

end

/-- What may stand behind a value: nothing, a comma, or a new line. -/
def Ends (rest : List Char) : Prop := ∀ c ∈ rest.head?, c = ',' ∨ c = '\n'

theorem ends_nil : Ends [] := by simp [Ends]

theorem ends_comma (rest : List Char) : Ends (',' :: rest) := by simp [Ends]

theorem ends_newLine (level : Nat) (rest : List Char) : Ends (newLine level ++ rest) := by
  simp [Ends, newLine]

/-! ### Blanks and words -/

theorem scanInto_spaces (done : List Token) : ∀ (n : Nat) (rest : List Char),
    scanInto done .plain (List.replicate n ' ' ++ rest) = scanInto done .plain rest
  | 0, _ => rfl
  | n + 1, rest => by
    rw [List.replicate_succ, List.cons_append]
    exact scanInto_spaces done n rest

@[simp] theorem scanInto_newLine (done : List Token) (level : Nat) (rest : List Char) :
    scanInto done .plain (newLine level ++ rest) = scanInto done .plain rest :=
  scanInto_spaces done (2 * level) rest

/-- A word or number in the making that spells a token ends where a value may end. -/
theorem scanInto_finish {done : List Token} {s : Scan} {t : Token} {rest : List Char}
    (pending : (∃ cs, s = .word cs) ∨ ∃ cs, s = .number cs) (finished : s.finish = some [t])
    (ends : Ends rest) : scanInto done s rest = scanInto (t :: done) .plain rest := by
  rcases rest with - | ⟨c, r⟩
  · show (s.finish.map fun ts => done.reverse ++ ts) = some ((t :: done).reverse ++ [])
    rw [finished]
    simp
  · have hc : c = ',' ∨ c = '\n' := ends c (by simp)
    rcases pending with ⟨cs, rfl⟩ | ⟨cs, rfl⟩ <;> rcases hc with rfl | rfl <;>
      simp [scanInto, Scan.step, finished, startToken, isNumberChar]

theorem scanInto_word (done : List Token) (b : Bool) {rest : List Char} (ends : Ends rest) :
    scanInto done .plain (atom (.bool b) ++ rest) =
      scanInto (.value (.bool b) :: done) .plain rest := by
  cases b with
  | true =>
    show scanInto done (.word ['e', 'u', 'r', 't']) rest = _
    exact scanInto_finish (.inl ⟨_, rfl⟩) rfl ends
  | false =>
    show scanInto done (.word ['e', 's', 'l', 'a', 'f']) rest = _
    exact scanInto_finish (.inl ⟨_, rfl⟩) rfl ends

theorem scanInto_null (done : List Token) {rest : List Char} (ends : Ends rest) :
    scanInto done .plain (atom .null ++ rest) = scanInto (.value .null :: done) .plain rest := by
  show scanInto done (.word ['l', 'l', 'u', 'n']) rest = _
  exact scanInto_finish (.inl ⟨_, rfl⟩) rfl ends

/-! ### Numbers -/

theorem scanInto_numberChars (done : List Token) : ∀ (ds cs rest : List Char),
    (∀ c ∈ ds, isNumberChar c) →
    scanInto done (.number cs) (ds ++ rest) = scanInto done (.number (ds.reverse ++ cs)) rest
  | [], _, _, _ => rfl
  | d :: ds, cs, rest, h => by
    have hd : isNumberChar d := h d List.mem_cons_self
    have hstep : Scan.step (.number cs) d = some ([], .number (d :: cs)) := by
      simp [Scan.step, hd]
    rw [List.cons_append, scanInto, hstep]
    show scanInto done (.number (d :: cs)) (ds ++ rest) = _
    rw [scanInto_numberChars done ds (d :: cs) rest fun c hc => h c (List.mem_cons_of_mem d hc)]
    simp

theorem isNumberChar_of_isDigit {c : Char} (h : c.isDigit) : isNumberChar c := by
  simp [isNumberChar, h]

/-- A number starts with a minus sign or a digit. -/
theorem step_number {c : Char} (hc : c = '-' ∨ c.isDigit) :
    Scan.step .plain c = some ([], .number [c]) := by
  have hplain : c ≠ '"' ∧ c ≠ ',' ∧ c ≠ ':' ∧ c ≠ '[' ∧ c ≠ ']' ∧ c ≠ '\x7b' ∧ c ≠ '\x7d' ∧
      ¬(c = ' ' ∨ c = '\n' ∨ c = '\t' ∨ c = '\r') := by
    refine ⟨?_, ?_, ?_, ?_, ?_, ?_, ?_, ?_⟩
    case refine_8 => rintro (rfl | rfl | rfl | rfl) <;> revert hc <;> decide
    all_goals
      rintro rfl
      revert hc
      decide
  obtain ⟨h1, h2, h3, h4, h5, h6, h7, h8⟩ := hplain
  simp [Scan.step, startToken, h1, h2, h3, h4, h5, h6, h7, h8, hc]

theorem scanInto_digits (done : List Token) {c : Char} {ds : List Char} (rest : List Char)
    (hc : c = '-' ∨ c.isDigit) (hds : ∀ d ∈ ds, d.isDigit) :
    scanInto done .plain (c :: ds ++ rest) = scanInto done (.number (c :: ds).reverse) rest := by
  rw [List.cons_append, scanInto, step_number hc]
  show scanInto done (.number [c]) (ds ++ rest) = _
  rw [scanInto_numberChars done ds [c] rest fun d hd => isNumberChar_of_isDigit (hds d hd)]
  simp

/-- A text of digits, with a sign or without, runs into a number. -/
theorem scanInto_toString (done : List Token) (n : Int) (rest : List Char) :
    scanInto done .plain ((toString n).toList ++ rest) =
      scanInto done (.number (toString n).toList.reverse) rest := by
  cases n with
  | ofNat m =>
    have hdigits : ∀ c ∈ Nat.toDigits 10 m, c.isDigit := fun _ => isDigit_of_mem_toDigits
    rw [toList_toString_ofNat]
    rcases hd : Nat.toDigits 10 m with - | ⟨c, r⟩
    · exact absurd hd Nat.toDigits_ne_nil
    · rw [hd] at hdigits
      exact scanInto_digits done rest (.inr (hdigits c List.mem_cons_self)) fun d hr =>
        hdigits d (List.mem_cons_of_mem c hr)
  | negSucc m =>
    rw [toList_toString_negSucc]
    exact scanInto_digits done rest (.inl rfl) fun _ => isDigit_of_mem_toDigits

theorem scanInto_int (done : List Token) {n : Int} (low : -0x8000_0000_0000_0000 ≤ n)
    (high : n < 0x1_0000_0000_0000_0000) {rest : List Char} (ends : Ends rest) :
    scanInto done .plain (atom (.int n) ++ rest) =
      scanInto (.value (.int n) :: done) .plain rest := by
  have finished : (Scan.number (toString n).toList.reverse).finish = some [.value (.int n)] := by
    rw [Scan.finish, List.reverse_reverse, readNumber?_toString low high]
    rfl
  have htext : atom (.int n) = (toString n).toList := rfl
  rw [htext, scanInto_toString]
  exact scanInto_finish (.inr ⟨_, rfl⟩) finished ends

/-! ### Strings -/

theorem hexDigit?_hexChar : ∀ n < 16, Text.hexDigit? (hexChar n) = some n := by decide

/-- The escape that spells a control character by its code. -/
theorem scanInto_codeEscape (done : List Token) (cs : List Char) {c : Char} (h : c.toNat < 0x20)
    (rest : List Char) :
    scanInto done (.string cs)
      ('\\' :: 'u' :: '0' :: '0' :: hexChar (c.toNat / 16) :: hexChar (c.toNat % 16) :: rest) =
      scanInto done (.string (c :: cs)) rest := by
  have high := hexDigit?_hexChar (c.toNat / 16) (by omega)
  have low := hexDigit?_hexChar (c.toNat % 16) (by omega)
  have whole : c.toNat / 16 * 16 + c.toNat % 16 = c.toNat := by omega
  have hend : endHex cs none c.toNat = some (.string (c :: cs)) := by
    rw [endHex, if_neg (by omega), if_neg (by omega), Char.ofNat_toNat]
  show scanInto done (.hex cs none 2 0) _ = _
  simp [scanInto, Scan.step, high, low, whole, hend]

/-- Inside a string an escaped character stands for itself. -/
theorem scanInto_escapeChar (done : List Token) (cs : List Char) (c : Char) (rest : List Char) :
    scanInto done (.string cs) (escapeChar c ++ rest) = scanInto done (.string (c :: cs)) rest := by
  unfold escapeChar
  split
  · next h => subst h; rfl
  split
  · next h => subst h; rfl
  split
  · next h => subst h; rfl
  split
  · next h => subst h; rfl
  split
  · next h => subst h; rfl
  split
  · next h => subst h; rfl
  split
  · next h => subst h; rfl
  split
  · next h => exact scanInto_codeEscape done cs h rest
  · next hquote hbackslash _ _ _ _ _ hcontrol =>
    simp [scanInto, Scan.step, hquote, hbackslash, hcontrol]

theorem scanInto_escaped (done : List Token) : ∀ (s cs rest : List Char),
    scanInto done (.string cs) (s.flatMap escapeChar ++ '"' :: rest) =
      scanInto (.value (.str (String.ofList (cs.reverse ++ s))) :: done) .plain rest
  | [], cs, rest => by
    rw [List.append_nil]
    rfl
  | c :: s, cs, rest => by
    rw [List.flatMap_cons, List.append_assoc, scanInto_escapeChar]
    rw [scanInto_escaped done s (c :: cs) rest]
    simp

@[simp] theorem scanInto_quote (done : List Token) (s : String) (rest : List Char) :
    scanInto done .plain (quote s ++ rest) = scanInto (.value (.str s) :: done) .plain rest := by
  have h := scanInto_escaped done s.toList [] rest
  rw [List.reverse_nil, List.nil_append, String.ofList_toList] at h
  rw [← h, quote, List.cons_append, List.append_assoc]
  rfl

/-! ### Values -/

/-- A value that text holds in full, with at most `d` containers one inside the other: its integers
    have 64 bits, no number of it is floating point, and its objects have their keys in order. -/
inductive Exact : Nat → Json → Prop where
  | null {d : Nat} : Exact d .null
  | bool {d : Nat} (b : Bool) : Exact d (.bool b)
  | int {d : Nat} {n : Int} (low : -0x8000_0000_0000_0000 ≤ n)
    (high : n < 0x1_0000_0000_0000_0000) : Exact d (.int n)
  | str {d : Nat} (s : String) : Exact d (.str s)
  | arr {d : Nat} {vs : List Json} (items : ∀ v ∈ vs, Exact d v) : Exact (d + 1) (.arr vs)
  | obj {d : Nat} {fs : List (String × Json)} (keys : fs.Pairwise (·.1 < ·.1))
    (fields : ∀ f ∈ fs, Exact d f.2) : Exact (d + 1) (.obj fs)

/-- The text of a value, at any level, consists of the tokens of the value. -/
def Scans (v : Json) : Prop := ∀ (level : Nat) (done : List Token) (rest : List Char), Ends rest →
  scanInto done .plain (prettyAt level v ++ rest) =
    scanInto (v.tokens.reverse ++ done) .plain rest

theorem ends_prettyItems (level : Nat) {rest : List Char} (ends : Ends rest) :
    ∀ vs, Ends (prettyItems level vs ++ rest)
  | [] => ends
  | _ :: _ => ends_comma _

theorem ends_prettyFields (level : Nat) {rest : List Char} (ends : Ends rest) :
    ∀ fs, Ends (prettyFields level fs ++ rest)
  | [] => ends
  | (_, _) :: _ => ends_comma _

theorem scanInto_comma (done : List Token) (rest : List Char) :
    scanInto done .plain (',' :: rest) = scanInto (.comma :: done) .plain rest := rfl

/-- A key with its colon and the blank behind that. -/
theorem scanInto_key (done : List Token) (k : String) (rest : List Char) :
    scanInto done .plain (quote k ++ (':' :: ' ' :: rest)) =
      scanInto (.colon :: .value (.str k) :: done) .plain rest := by
  rw [scanInto_quote]
  rfl

theorem scanInto_prettyItems {level : Nat} {rest : List Char} (ends : Ends rest) :
    ∀ {vs : List Json} (done : List Token), (∀ v ∈ vs, Scans v) →
      scanInto done .plain (prettyItems level vs ++ rest) =
        scanInto ((itemTokens vs).reverse ++ done) .plain rest
  | [], _, _ => rfl
  | v :: vs, done, h => by
    have hv := h v List.mem_cons_self level (.comma :: done) _ (ends_prettyItems level ends vs)
    rw [prettyItems, List.cons_append, List.append_assoc, List.append_assoc, scanInto_comma,
      scanInto_newLine, hv,
      scanInto_prettyItems ends _ fun w hw => h w (List.mem_cons_of_mem v hw)]
    simp [itemTokens]

theorem scanInto_prettyFields {level : Nat} {rest : List Char} (ends : Ends rest) :
    ∀ {fs : List (String × Json)} (done : List Token), (∀ f ∈ fs, Scans f.2) →
      scanInto done .plain (prettyFields level fs ++ rest) =
        scanInto ((fieldTokens fs).reverse ++ done) .plain rest
  | [], _, _ => rfl
  | (k, v) :: fs, done, h => by
    have hv := h (k, v) List.mem_cons_self level (.colon :: .value (.str k) :: .comma :: done) _
      (ends_prettyFields level ends fs)
    rw [prettyFields]
    simp only [List.cons_append, List.append_assoc, List.nil_append]
    rw [scanInto_comma, scanInto_newLine, scanInto_key, hv,
      scanInto_prettyFields ends _ fun f hf => h f (List.mem_cons_of_mem _ hf)]
    simp [fieldTokens]

theorem scans_arr {vs : List Json} (h : ∀ v ∈ vs, Scans v) : Scans (.arr vs) := by
  intro level done rest _
  cases vs with
  | nil => rfl
  | cons v vs =>
    have close : Ends (newLine level ++ (']' :: rest)) := ends_newLine level _
    rw [prettyAt]
    simp only [List.cons_append, List.append_assoc, List.nil_append]
    show scanInto (.openList :: done) .plain _ = _
    rw [scanInto_newLine, h v List.mem_cons_self _ _ _ (ends_prettyItems _ close vs),
      scanInto_prettyItems close _ fun w hw => h w (List.mem_cons_of_mem v hw), scanInto_newLine]
    show scanInto (.closeList :: _) .plain rest = _
    simp [tokens]

theorem scans_obj {fs : List (String × Json)} (h : ∀ f ∈ fs, Scans f.2) : Scans (.obj fs) := by
  intro level done rest _
  cases fs with
  | nil => rfl
  | cons f fs =>
    obtain ⟨k, v⟩ := f
    have close : Ends (newLine level ++ ('\x7d' :: rest)) := ends_newLine level _
    rw [prettyAt]
    simp only [List.cons_append, List.append_assoc, List.nil_append]
    show scanInto (.openObject :: done) .plain _ = _
    rw [scanInto_newLine, scanInto_key,
      h (k, v) List.mem_cons_self _ _ _ (ends_prettyFields _ close fs),
      scanInto_prettyFields close _ fun f hf => h f (List.mem_cons_of_mem _ hf), scanInto_newLine]
    show scanInto (.closeObject :: _) .plain rest = _
    simp [tokens]

theorem Exact.scans {d : Nat} {v : Json} (h : Exact d v) : Scans v := by
  induction h with
  | null => exact fun _ done _ ends => scanInto_null done ends
  | bool b => exact fun _ done _ ends => scanInto_word done b ends
  | int low high => exact fun _ done _ ends => scanInto_int done low high ends
  | str s => exact fun _ done rest _ => scanInto_quote done s rest
  | arr _ ih => exact scans_arr ih
  | obj _ _ ih => exact scans_obj ih

/-- The tokens of a printed text are those of its value. -/
theorem Scans.scan_pretty {v : Json} (h : Scans v) : scan (pretty v).toList = some v.tokens := by
  have hscan := h 0 [] [] ends_nil
  rw [List.append_nil, List.append_nil] at hscan
  rw [pretty, String.toList_ofList, scan, hscan]
  show some (v.tokens.reverse.reverse ++ []) = _
  rw [List.reverse_reverse, List.append_nil]

end StartPage.Json
