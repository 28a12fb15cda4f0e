import StartPage.Url.Basic

/-!
    Addresses from text, given the scheme and what follows its colon.

        //user:word@host:8080/a/../b?query#fragment
          └───┬───┘ └────┬──┘└──┬──┘
        credentials   host    segments     query, fragment

    Blanks and controls at the end are dropped, tabs and line ends anywhere; backslashes count as
    slashes up to the query. Dot segments are resolved, and what may not stand in a part is
    percent-encoded. -/

namespace StartPage.Url

/-- Drops the controls and spaces at the end, and every tab and line end. -/
def clean (cs : List Char) : List Char :=
  ((cs.reverse.dropWhile (·.toNat ≤ 0x20)).reverse).filter fun c => c != '\t' && c != '\n' && c != '\r'

/-- Slashes, in both directions. -/
def isSlash (c : Char) : Bool := c == '/' || c == '\\'

/-- The characters that end the part with the host. -/
def endsAuthority (c : Char) : Bool := isSlash c || c == '?' || c == '#'

/-- Cuts at the last `@`: what stands before it, if there is one, and what stands after. -/
def cutCredentials (cs : List Char) : Option (List Char) × List Char :=
  match Text.cutAt? '@' cs.reverse with
  | some (after, before) => (some before.reverse, after.reverse)
  | none => (none, cs)

/-- The user name and the password in credentials, encoded. -/
def parseCredentials (cs : List Char) : List Char × List Char :=
  match Text.cutAt? ':' cs with
  | some (user, password) => (encode inUser user, encode inUser password)
  | none => (encode inUser cs, [])

/-- Cuts at the colon before the port, the first outside brackets. -/
def cutPort (inBrackets : Bool) : List Char → List Char × Option (List Char)
  | [] => ([], none)
  | c :: r =>
    if c = ':' && !inBrackets then ([], some r)
    else
      let (host, port) := cutPort (if c = '[' then true else if c = ']' then false else inBrackets) r
      (c :: host, port)

/-- Reads a port: nothing inside the answer for an absent one or the scheme's own. -/
def parsePort (scheme : Scheme) : Option (List Char) → Option (Option Nat)
  | none => some none
  | some [] => some none
  | some cs =>
    if cs.all Char.isDigit then
      let n : Nat := cs.foldl (fun n c => n * 10 + (c.toNat - '0'.toNat)) 0
      if n < 0x1_0000 then some (if n = scheme.port then none else some n) else none
    else none

/-- A segment that stands for its own directory. -/
def isSingleDot (cs : List Char) : Bool :=
  match cs.map Char.toLower with
  | ['.'] | ['%', '2', 'e'] => true
  | _ => false

/-- A segment that stands for the directory above. -/
def isDoubleDot (cs : List Char) : Bool :=
  match cs.map Char.toLower with
  | ['.', '.'] | ['%', '2', 'e', '.'] | ['.', '%', '2', 'e'] | ['%', '2', 'e', '%', '2', 'e'] => true
  | _ => false

/-- A letter with a colon or bar, as drives are named; no dot segment takes one away. -/
def isDrive : List Char → Bool
  | [c, d] => c.isAlpha && (d == ':' || d == '|')
  | _ => false

/-- The directory above, as segments held back to front. -/
def dropLastSegment : List (List Char) → List (List Char)
  | [] => []
  | s :: ss => if isDrive s then s :: ss else ss

/-- Resolves the dot segments of a path; `done` are the segments before, back to front. -/
def resolveDots (done : List (List Char)) : List (List Char) → List (List Char)
  | [] => done.reverse
  | [s] =>
    if isDoubleDot s then ([] :: dropLastSegment done).reverse
    else if isSingleDot s then ([] :: done).reverse
    else (s :: done).reverse
  | s :: ss =>
    if isDoubleDot s then resolveDots (dropLastSegment done) ss
    else if isSingleDot s then resolveDots done ss
    else resolveDots (s :: done) ss

/-- Reads a path that starts with a slash, or is empty. -/
def parsePath (cs : List Char) : List (List Char) :=
  resolveDots [] ((Text.splitBy isSlash (cs.drop 1)).map (encode inPath))

/-- Reads what follows the path. -/
def parseTail (cs : List Char) : Option (List Char) × Option (List Char) :=
  match cs with
  | '?' :: r =>
    match Text.cutAt? '#' r with
    | some (query, fragment) => (some (encode inQuery query), some (encode inFragment fragment))
    | none => (some (encode inQuery r), none)
  | '#' :: r => (none, some (encode inFragment r))
  | _ => (none, none)

/-- Reads an address after its scheme and colon. -/
def parse? (scheme : Scheme) (text : List Char) : Option Url := do
  let cs := (clean text).dropWhile isSlash
  let (authority, rest) := cs.span (!endsAuthority ·)
  let (credentials, place) := cutCredentials authority
  let (user, password) := parseCredentials (credentials.getD [])
  let (hostText, portText) := cutPort false place
  let host ← if hostText.isEmpty then none else Host.parse? hostText
  let port ← parsePort scheme portText
  let (path, tail) := rest.span fun c => c != '?' && c != '#'
  let (query, fragment) := parseTail tail
  some ⟨scheme, user, password, host, port, parsePath path, query, fragment⟩

end StartPage.Url
