import StartPage.Text.Basic
import StartPage.Url.Idna
import StartPage.Url.Percent

/-!
    The host of an address: a domain name in ASCII, or an IPv4 or IPv6 address.

    A name whose last label is a number is an IPv4 address, in one to four parts that may be
    decimal, octal or hexadecimal; the last part fills all the bytes that are left. An IPv6 address
    stands in brackets and is written with its longest run of at least two zero pieces shortened. -/

namespace StartPage

/-- A host. An IPv4 address is a number below 2³², an IPv6 address has eight pieces below 2¹⁶. -/
inductive Host where
  | name (labels : List Char)
  | ipv4 (address : Nat)
  | ipv6 (pieces : List Nat)
  deriving DecidableEq

namespace Host

/-! ### IPv4 -/

/-- A part of an IPv4 address: its base and its digits. -/
def splitBase : List Char → Nat × List Char
  | '0' :: 'x' :: r => (16, r)
  | '0' :: 'X' :: r => (16, r)
  | '0' :: c :: r => (8, c :: r)
  | cs => (10, cs)

/-- The value of digits in a base; nothing if one of them is no digit of the base. -/
def digitsValue? (base : Nat) (cs : List Char) : Option Nat :=
  cs.foldlM (fun n c => do
    let d ← Text.hexDigit? c
    if d < base then some (n * base + d) else none) 0

/-- The value of a part of an IPv4 address. A prefix without digits counts as zero. -/
def part? (cs : List Char) : Option Nat :=
  if cs.isEmpty then none
  else
    let (base, digits) := splitBase cs
    digitsValue? base digits

/-- The labels of a name, without an empty last one. -/
def labelsOf (name : List Char) : List (List Char) :=
  let parts := Text.fields '.' name
  match parts.getLast? with
  | some [] => parts.dropLast
  | _ => parts

/-- The last label is a number, so that the name must be an IPv4 address. -/
def endsInNumber (name : List Char) : Bool :=
  match (labelsOf name).getLast? with
  | none => false
  | some [] => false
  | some last => last.all Char.isDigit || (part? last).isSome

/-- The address that the values of the parts make up: each but the last is one byte. -/
def ipv4OfParts? : List Nat → Option Nat
  | [] => none
  | parts =>
    let firsts := parts.dropLast
    let last := parts.getLast?.getD 0
    if 4 < parts.length || firsts.any (255 < ·) || Nat.pow 256 (4 - firsts.length) ≤ last then none
    else some (firsts.foldr (fun p (n, k) => (n + p * Nat.pow 256 k, k + 1)) (0, 4 - firsts.length)
      |>.1 |> (· + last))

/-- Reads an IPv4 address. -/
def ipv4? (name : List Char) : Option Nat := do
  ipv4OfParts? (← (labelsOf name).mapM part?)

/-- The four bytes of an address, most significant first. -/
def bytesOf (n : Nat) : List Nat :=
  [n / 0x100_0000 % 256, n / 0x1_0000 % 256, n / 0x100 % 256, n % 256]

/-! ### IPv6 -/

/-- An IPv6 address being read: the pieces so far, last first, and how many of them stood before
    the shortened run. -/
structure Pieces where
  read : List Nat
  gap : Option Nat

/-- Reads up to four hexadecimal digits. -/
def readPiece : Nat → Nat → List Char → Nat × Nat × List Char
  | 0, n, cs => (n, 0, cs)
  | _ + 1, n, [] => (n, 0, [])
  | left + 1, n, c :: r =>
    match Text.hexDigit? c with
    | some d => let (n, used, rest) := readPiece left (n * 16 + d) r; (n, used + 1, rest)
    | none => (n, 0, c :: r)

/-- A decimal byte without leading zeros. -/
def byte? (cs : List Char) : Option Nat :=
  match cs with
  | [] => none
  | '0' :: _ :: _ => none
  | _ =>
    if cs.all Char.isDigit && cs.length ≤ 3 then do
      let n ← digitsValue? 10 cs
      if n ≤ 255 then some n else none
    else none

/-- Reads an IPv4 address at the end of an IPv6 address, as two pieces. -/
def ipv4Pieces? (cs : List Char) : Option (Nat × Nat) :=
  match (Text.fields '.' cs).mapM byte? with
  | some [a, b, c, d] => some (a * 256 + b, c * 256 + d)
  | _ => none

/-- Completes the pieces read: the shortened run fills up to eight. -/
def Pieces.finish (p : Pieces) : Option (List Nat) :=
  let pieces := p.read.reverse
  match p.gap with
  | some k => some (pieces.take k ++ List.replicate (8 - pieces.length) 0 ++ pieces.drop k)
  | none => if pieces.length = 8 then some pieces else none

/-- Reads pieces and the colons after them. -/
def readPieces (p : Pieces) : Nat → List Char → Option (List Nat)
  | _, [] => p.finish
  | 0, _ => none
  | fuel + 1, cs =>
    if p.read.length = 8 then none
    else match cs with
      | ':' :: r => if p.gap.isSome then none else readPieces ⟨p.read, some p.read.length⟩ fuel r
      | _ =>
        let (n, used, rest) := readPiece 4 0 cs
        match rest with
        | '.' :: _ =>
          if used = 0 ∨ 6 < p.read.length then none
          else do
            let (a, b) ← ipv4Pieces? cs
            Pieces.finish ⟨b :: a :: p.read, p.gap⟩
        | ':' :: [] => none
        | ':' :: r => readPieces ⟨n :: p.read, p.gap⟩ fuel r
        | [] => if used = 0 then none else Pieces.finish ⟨n :: p.read, p.gap⟩
        | _ => none

/-- Reads an IPv6 address. Only a double colon may stand at its start. -/
def ipv6? (cs : List Char) : Option (List Nat) :=
  match cs with
  | ':' :: ':' :: r => readPieces ⟨[], some 0⟩ (r.length + 1) r
  | ':' :: _ => none
  | [] => none
  | _ => readPieces ⟨[], none⟩ (cs.length + 1) cs

/-- The length of the run of zeros at the front. -/
def zeros (ps : List Nat) : Nat := (ps.takeWhile (· == 0)).length

/-- The place and length of the longest run of zeros; the first of several. -/
def longestRun : Nat → List Nat → Nat × Nat
  | _, [] => (0, 0)
  | i, p :: ps =>
    let n := zeros (p :: ps)
    let (j, m) := longestRun (i + 1) ps
    if m ≤ n then (i, n) else (j, m)

/-- A piece in hexadecimal. -/
def pieceText (n : Nat) : List Char := Nat.toDigits 16 n

/-- Pieces with colons between them. -/
def colonJoin (ps : List Nat) : List Char := [':'].intercalate (ps.map pieceText)

/-- The text of an IPv6 address without its brackets. -/
def ipv6Text (ps : List Nat) : List Char :=
  let (i, n) := longestRun 0 ps
  if n < 2 then colonJoin ps
  else colonJoin (ps.take i) ++ [':', ':'] ++ colonJoin (ps.drop (i + n))

/-! ### Reading and writing -/

/-- Reads a host: an IPv6 address in brackets, or a name in percent-encoded Unicode. -/
def parse? (cs : List Char) : Option Host :=
  match cs with
  | '[' :: r =>
    match r.getLast? with
    | some ']' => (ipv6? r.dropLast).map .ipv6
    | _ => none
  | _ => do
    let name ← Url.Idna.toAscii? (← Url.ofUtf8? (Url.decode cs))
    if name.isEmpty then none
    else if endsInNumber name then (ipv4? name).map .ipv4
    else some (.name name)

/-- The text of a host. -/
def text : Host → List Char
  | .name labels => labels
  | .ipv4 n => ['.'].intercalate ((bytesOf n).map fun b => (toString b).toList)
  | .ipv6 ps => '[' :: ipv6Text ps ++ [']']

end Host
end StartPage
