/-!
    JSON values. An object is a list of fields with distinct keys in ascending order, so two
    objects that hold the same fields are the same value. -/

namespace StartPage

/-- A JSON value. Numbers written without a fraction or exponent are integers from −2⁶³ to
    2⁶⁴ − 1; every other number is a binary floating point number. -/
inductive Json where
  | null
  | bool (b : Bool)
  | int (n : Int)
  | float (x : Float)
  | str (s : String)
  | arr (items : List Json)
  | obj (fields : List (String × Json))
  deriving Inhabited

namespace Json

/-- Adds a field in the place its key has in the order; a value already there gives way. -/
def insertField (k : String) (v : Json) : List (String × Json) → List (String × Json)
  | [] => [(k, v)]
  | (k', v') :: r =>
    if k < k' then (k, v) :: (k', v') :: r
    else if k = k' then (k, v) :: r
    else (k', v') :: insertField k v r

/-- The object with the given fields; of two fields with one key the later counts. -/
def ofFields (fields : List (String × Json)) : Json :=
  .obj (fields.foldl (fun acc (k, v) => insertField k v acc) [])

/-- The value of a field. -/
def lookup (k : String) : List (String × Json) → Option Json
  | [] => none
  | (k', v) :: r => if k' = k then some v else lookup k r

/-- The value of an object's field; other values have none. -/
def field? (v : Json) (k : String) : Option Json :=
  match v with
  | .obj fields => lookup k fields
  | _ => none

def bool? : Json → Option Bool
  | .bool b => some b
  | _ => none

def str? : Json → Option String
  | .str s => some s
  | _ => none

theorem lookup_insertField_self (k : String) (v : Json) :
    ∀ fields, lookup k (insertField k v fields) = some v
  | [] => by simp [insertField, lookup]
  | (k', v') :: r => by
    unfold insertField
    split
    · simp [lookup]
    · split
      · simp [lookup]
      · next h => simp [lookup, Ne.symm h, lookup_insertField_self k v r]

theorem lookup_insertField_of_ne {k k' : String} (h : k ≠ k') (v : Json) :
    ∀ fields, lookup k' (insertField k v fields) = lookup k' fields
  | [] => by simp [insertField, lookup, h]
  | (k'', v'') :: r => by
    unfold insertField
    split
    · simp [lookup, h]
    · split
      · next heq => subst heq; simp [lookup, h]
      · simp [lookup, lookup_insertField_of_ne h v r]

end Json
end StartPage
