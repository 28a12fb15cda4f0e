import StartPage.Fault
import StartPage.Url.Parser

/-!
    Turning what an entry holds into an address on the web. Text that names its scheme goes straight
    to the reader of addresses; other text must look like a domain, with at most a path after it,
    and gets `https://` in front.

        c www. host . tld path      c any character, host 2 to 256, tld 2 to 6 lower-case letters -/

namespace StartPage.Address

/-- What follows `http://` or `https://`, with the scheme. -/
def scheme? (cs : List Char) : Option (Scheme × List Char) :=
  match Text.after? "http:".toList cs with
  | some r => if (Text.after? "//".toList r).isSome then some (.http, r) else none
  | none =>
    match Text.after? "https:".toList cs with
    | some r => if (Text.after? "//".toList r).isSome then some (.https, r) else none
    | none => none

/-- Letters, digits and the signs that domains and their ports and credentials are written with. -/
def isHostChar (c : Char) : Bool := c.isAlphanum || "-@:%._+~#=".toList.contains c

/-- The characters of a path, a query or a fragment. -/
def isPathChar (c : Char) : Bool := isHostChar c || "?&/()\x27".toList.contains c

/-- ASCII characters of words. -/
def isWordChar (c : Char) : Bool := c.isAlphanum || c == '_'

/-- A top-level domain, with a path after it that starts with no word character. -/
def isDomainEnd (cs : List Char) : Bool :=
  let tld := cs.takeWhile Char.isLower
  let path := cs.dropWhile Char.isLower
  2 ≤ tld.length && tld.length ≤ 6 && !(path.head?.any isWordChar) && path.all isPathChar

/-- A host, of which `n` characters came before, a dot, and the end of the domain. -/
def isDomain (n : Nat) : List Char → Bool
  | [] => false
  | c :: r =>
    (c == '.' && 2 ≤ n && n ≤ 256 && isDomainEnd r) ||
    (isHostChar c && n < 256 && isDomain (n + 1) r)

/-- Text that looks like an address without its scheme. Its first character may be any but a line
    feed. -/
def looksLikeAddress : List Char → Bool
  | [] => false
  | c :: r =>
    c != '\n' && (isDomain 0 r || ((Text.after? "www.".toList r).any fun r' => isDomain 0 r'))

/-- The address that a text stands for. -/
def resolve (raw : String) : Except Fault Url :=
  let cs := raw.toList
  let url := match scheme? cs with
    | some (scheme, rest) => Url.parse? scheme rest
    | none => if looksLikeAddress cs then Url.parse? .https ("//".toList ++ cs) else none
  match url with
  | some u => .ok u
  | none => .error (.unresolvable raw)

theorem eq_of_resolve_eq_error {raw : String} {f : Fault} (h : resolve raw = .error f) :
    f = .unresolvable raw := by
  unfold resolve at h
  dsimp only at h
  split at h
  · cases h
  · cases h
    rfl

def isValid (raw : String) : Bool := (resolve raw).isOk

/-- The address that a text stands for, in full, or the text itself if there is none. -/
def correct (raw : String) : String :=
  match resolve raw with
  | .ok u => u.href
  | .error _ => raw

end StartPage.Address
