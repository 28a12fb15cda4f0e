import StartPage.Json.Basic
import StartPage.Json.Shortest
import StartPage.Text.Quoted

/-!
    Reading JSON values of an expected shape. A reader gives the value it stands for or the first
    fault it comes upon; lists are read in order, and the fields of an object in the order of their
    keys. Missing fields are found after faults in the fields that are there. -/

namespace StartPage

/-- What a value turned out to be. -/
inductive Found where
  | null
  | boolean (b : Bool)
  | integer (n : Int)
  | float (x : Float)
  | string (s : String)
  | sequence
  | map

/-- A value that does not have the shape that was expected. -/
inductive ShapeFault where
  | missingField (name : String)
  | duplicateField (name : String)
  | wrongType (found : Found) (expected : String)
  | wrongValue (found : Found) (expected : String)
  | wrongLength (length : Nat) (expected : String)
  | unknownVariant (name : String) (known : List String)

namespace Found

/-- What a value is. -/
def of : Json → Found
  | .null => .null
  | .bool b => .boolean b
  | .int n => .integer n
  | .float x => .float x
  | .str s => .string s
  | .arr _ => .sequence
  | .obj _ => .map

/-- A word between grave accents. -/
def ticked (s : String) : String := "\x60" ++ s ++ "\x60"

def text : Found → String
  | .null => "null"
  | .boolean b => "boolean " ++ ticked (if b then "true" else "false")
  | .integer n => "integer " ++ ticked (toString n)
  | .float x => "floating point " ++ ticked (Shortest.text x)
  | .string s => "string " ++ Text.quoted s
  | .sequence => "sequence"
  | .map => "map"

end Found

/-- The wording of a shape fault. -/
def ShapeFault.message : ShapeFault → String
  | .missingField name => "missing field " ++ Found.ticked name
  | .duplicateField name => "duplicate field " ++ Found.ticked name
  | .wrongType found expected => "invalid type: " ++ found.text ++ ", expected " ++ expected
  | .wrongValue found expected => "invalid value: " ++ found.text ++ ", expected " ++ expected
  | .wrongLength n expected => "invalid length " ++ toString n ++ ", expected " ++ expected
  | .unknownVariant name known =>
    "unknown variant " ++ Found.ticked name ++ ", expected one of " ++
      ", ".intercalate (known.map Found.ticked)

namespace Shape

/-- What a reader gives. -/
abbrev Result (α : Type) := Except ShapeFault α

/-- A value of another type than expected. -/
def refuse {α : Type} (v : Json) (expected : String) : Result α :=
  .error (.wrongType (.of v) expected)

def string : Json → Result String
  | .str s => .ok s
  | v => refuse v "a string"

def boolean : Json → Result Bool
  | .bool b => .ok b
  | v => refuse v "a boolean"

/-- A signed 64-bit integer. -/
def int64 : Json → Result Int
  | .int n =>
    if -0x8000_0000_0000_0000 ≤ n ∧ n < 0x8000_0000_0000_0000 then .ok n
    else .error (.wrongValue (.integer n) "i64")
  | v => refuse v "i64"

/-- An unsigned 64-bit integer. -/
def uint64 : Json → Result UInt64
  | .int n =>
    if 0 ≤ n ∧ n < 0x1_0000_0000_0000_0000 then .ok n.toNat.toUInt64
    else .error (.wrongValue (.integer n) "u64")
  | v => refuse v "u64"

/-- A value that may be null. -/
def nullable {α : Type} (read : Json → Result α) : Json → Result (Option α)
  | .null => .ok none
  | v => (read v).map some

/-- A list of values of one shape. -/
def list {α : Type} (read : Json → Result α) : Json → Result (List α)
  | .arr vs => vs.mapM read
  | v => refuse v "a sequence"

/-- The value of a field, if the field is there. -/
def field? {α : Type} (fields : List (String × Json)) (key : String) (read : Json → Result α) :
    Result (Option α) :=
  match Json.lookup key fields with
  | none => .ok none
  | some v => (read v).map some

/-- Nothing may be left of a list of the given length. -/
def atEnd (length : Nat) : List Json → Result Unit
  | [] => .ok ()
  | _ :: _ => .error (.wrongLength length "fewer elements in array")

/-- A field that must be there. -/
def require {α : Type} (name : String) : Option α → Result α
  | some a => .ok a
  | none => .error (.missingField name)

end Shape
end StartPage
