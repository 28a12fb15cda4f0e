import StartPage.Json.Token

/-!
    JSON values from tokens. The containers that are open form a stack, and a mode says what may
    come next, so a text is read by one pass over its tokens.

        value ──v──▶ done v ──,──▶ value | key
          ▲            │ ] }
          └── : ◀─ key ┘ ──▶ done (the closed container)

    At most 127 containers may be open at once. -/

namespace StartPage.Json

/-- A container that is still open; values are held back to front. -/
inductive Frame where
  | list (items : List Json)
  | object (fields : List (String × Json)) (key : String)

/-- What may come next. -/
inductive Mode where
  | value
  | firstItem
  | firstKey
  | key (fields : List (String × Json))
  | colon (fields : List (String × Json)) (key : String)
  | done (v : Json)

/-- A point in the middle of a text. -/
structure Reading where
  stack : List Frame
  mode : Mode

/-- The most containers that may be open at once. -/
def maxDepth : Nat := 127

/-- Reads a token where a value is due. -/
def Reading.start (stack : List Frame) : Token → Option Reading
  | .value v => some ⟨stack, .done v⟩
  | .openList => if stack.length < maxDepth then some ⟨.list [] :: stack, .firstItem⟩ else none
  | .openObject => if stack.length < maxDepth then some ⟨stack, .firstKey⟩ else none
  | _ => none

/-- Reads a token where a key is due. -/
def Reading.startKey (stack : List Frame) (fields : List (String × Json)) : Token → Option Reading
  | .value (.str k) => some ⟨stack, .colon fields k⟩
  | _ => none

/-- Reads a token after the value `v`. -/
def Reading.next (v : Json) : List Frame → Token → Option Reading
  | .list items :: stack, .comma => some ⟨.list (v :: items) :: stack, .value⟩
  | .list items :: stack, .closeList => some ⟨stack, .done (.arr (v :: items).reverse)⟩
  | .object fields k :: stack, .comma => some ⟨stack, .key (insertField k v fields)⟩
  | .object fields k :: stack, .closeObject => some ⟨stack, .done (.obj (insertField k v fields))⟩
  | _, _ => none

/-- Reads one token. -/
def Reading.step (r : Reading) (t : Token) : Option Reading :=
  match r.mode with
  | .value => Reading.start r.stack t
  | .firstItem =>
    match t, r.stack with
    | .closeList, _ :: stack => some ⟨stack, .done (.arr [])⟩
    | t, _ => Reading.start r.stack t
  | .firstKey =>
    match t with
    | .closeObject => some ⟨r.stack, .done (.obj [])⟩
    | t => Reading.startKey r.stack [] t
  | .key fields => Reading.startKey r.stack fields t
  | .colon fields k =>
    match t with
    | .colon => some ⟨.object fields k :: r.stack, .value⟩
    | _ => none
  | .done v => Reading.next v r.stack t

/-- Reads tokens one after the other. -/
def Reading.run (r : Reading) : List Token → Option Reading
  | [] => some r
  | t :: ts => (r.step t).bind (·.run ts)

/-- The value that a finished reading holds. -/
def Reading.result? (r : Reading) : Option Json :=
  match r.stack, r.mode with
  | [], .done v => some v
  | _, _ => none

/-- The value that tokens spell. -/
def ofTokens? (ts : List Token) : Option Json := do
  (← Reading.run ⟨[], .value⟩ ts).result?

/-- Reads JSON text; nothing when the text is not JSON. -/
def read? (text : String) : Option Json := do
  ofTokens? (← scan text.toList)

end StartPage.Json
