/-!
    Plain operations on text as a list of characters: cutting it at separators, looking for one
    text inside another, and replacing the occurrences that are found from the left.

        splitBy (· = '/') : "a/b//c"  ──▶  ["a", "b", "", "c"]
        replaceAll "ab" "x" : "abcab"  ──▶  "xcx" -/

namespace StartPage.Text

/-- The pieces of a text between the characters that satisfy `p`; there is one more piece than
    there are such characters, and pieces may be empty. -/
def splitBy (p : Char → Bool) : List Char → List (List Char)
  | [] => [[]]
  | c :: r =>
    if p c then [] :: splitBy p r
    else match splitBy p r with
      | [] => [[c]]
      | w :: ws => (c :: w) :: ws

/-- A split always has at least one piece. -/
theorem splitBy_ne_nil (p : Char → Bool) : ∀ cs, splitBy p cs ≠ []
  | [] => by simp [splitBy]
  | c :: r => by
    unfold splitBy
    split
    · simp
    · split <;> simp

/-- The pieces of a text between occurrences of one character. -/
def fields (sep : Char) (cs : List Char) : List (List Char) := splitBy (· == sep) cs

/-- The value of a hexadecimal digit in either case. -/
def hexDigit? (c : Char) : Option Nat :=
  if '0' ≤ c && c ≤ '9' then some (c.toNat - '0'.toNat)
  else if 'a' ≤ c && c ≤ 'f' then some (c.toNat - 'a'.toNat + 10)
  else if 'A' ≤ c && c ≤ 'F' then some (c.toNat - 'A'.toNat + 10)
  else none

/-- What follows `pat` in a text that starts with it. -/
def after? : List Char → List Char → Option (List Char)
  | [], cs => some cs
  | _ :: _, [] => none
  | p :: ps, c :: cs => if p = c then after? ps cs else none

theorem after?_append : ∀ pat cs : List Char, after? pat (pat ++ cs) = some cs
  | [], _ => rfl
  | p :: ps, cs => by simp [after?, after?_append ps cs]

theorem eq_append_of_after? : ∀ {pat cs rest : List Char}, after? pat cs = some rest →
    cs = pat ++ rest
  | [], _, _, h => by simpa [after?] using h
  | _ :: _, [], _, h => by simp [after?] at h
  | p :: ps, c :: cs, rest, h => by
    by_cases hpc : p = c
    · rw [after?, if_pos hpc] at h
      rw [hpc, List.cons_append, ← eq_append_of_after? h]
    · rw [after?, if_neg hpc] at h
      cases h

/-- A text before the first occurrence of a character, and the text after it. -/
def cutAt? (sep : Char) : List Char → Option (List Char × List Char)
  | [] => none
  | c :: r => if c = sep then some ([], r) else (cutAt? sep r).map fun (a, b) => (c :: a, b)

/-- `pat` occurs somewhere in the text. -/
def occursIn (pat : List Char) : List Char → Bool
  | [] => pat.isEmpty
  | c :: r => pat.isPrefixOf (c :: r) || occursIn pat r

/-- Puts `new` in the place of the leftmost occurrence of `pat`. -/
def replaceFirst (pat new : List Char) : List Char → List Char
  | [] => if pat.isEmpty then new else []
  | c :: r =>
    match after? pat (c :: r) with
    | some rest => new ++ rest
    | none => c :: replaceFirst pat new r

/-- Replaces from the left, after passing over `skip` characters that belong to an occurrence
    already replaced. -/
def replaceFrom (pat new : List Char) : Nat → List Char → List Char
  | _, [] => []
  | skip + 1, _ :: r => replaceFrom pat new skip r
  | 0, c :: r =>
    if pat.isPrefixOf (c :: r) then new ++ replaceFrom pat new (pat.length - 1) r
    else c :: replaceFrom pat new 0 r

/-- Puts `new` in the place of every occurrence of the non-empty `pat`, taken from the left and
    not overlapping. -/
def replaceAll (pat new cs : List Char) : List Char := replaceFrom pat new 0 cs

/-- Deletes every occurrence of one character. -/
def without (c : Char) (s : String) : String := String.ofList (s.toList.filter (· != c))

/-- Puts one character in the place of another. -/
def recolour (old new : Char) (s : String) : String :=
  String.ofList (s.toList.map fun c => if c = old then new else c)

end StartPage.Text
