import StartPage.Fault

/-!
    What a step says to its caller: a kind, a message, and at times an address to go to. -/

namespace StartPage

/-- The kinds of response. The message of an `updateInput` replaces what stands in the input
    line. -/
inductive ResponseKind where
  | success | error | info | updateInput
  deriving DecidableEq

/-- A request to leave for an address. -/
structure Navigation where
  url : String
  newContext : Bool
  deriving DecidableEq

structure Response where
  kind : ResponseKind
  message : String
  navigation : Option Navigation
  deriving DecidableEq

namespace ResponseKind

def all : List ResponseKind := [.success, .error, .info, .updateInput]

def name : ResponseKind → String
  | .success => "Success"
  | .error => "Error"
  | .info => "Info"
  | .updateInput => "UpdateInput"

end ResponseKind

namespace Response

def success (message : String) : Response := ⟨.success, message, none⟩

def error (message : String) : Response := ⟨.error, message, none⟩

def info (message : String) : Response := ⟨.info, message, none⟩

def updateInput (message : String) : Response := ⟨.updateInput, message, none⟩

/-- A success with nothing to say. -/
def silent : Response := success ""

/-- A success that leaves for an address. -/
def navigate (url : String) (newContext : Bool) : Response :=
  ⟨.success, "Navigating to: " ++ url, some ⟨url, newContext⟩⟩

/-- What a fault says: a name that is taken is worth a remark, anything else is an error. -/
def ofFault (f : Fault) : Response :=
  if f.kind = .conflict then info f.message else error f.message

def isSuccess (r : Response) : Bool := r.kind == .success

end Response

/-! ### Responses as JSON -/

namespace Navigation

def toJson (n : Navigation) : Json :=
  Json.ofFields [("url", .str n.url), ("newContext", .bool n.newContext)]

/-- Reads a navigation from the fields of an object. -/
def readFields (fields : List (String × Json)) : Shape.Result Navigation := do
  let newContext ← Shape.field? fields "newContext" Shape.boolean
  let url ← Shape.field? fields "url" Shape.string
  let url ← Shape.require "url" url
  let newContext ← Shape.require "newContext" newContext
  .ok ⟨url, newContext⟩

/-- Reads a navigation from the items of a list. -/
def readItems (items : List Json) : Shape.Result Navigation :=
  let expected := "struct Navigation with 2 elements"
  match items with
  | [] => .error (.wrongLength 0 expected)
  | [u] => do
    let _ ← Shape.string u
    .error (.wrongLength 1 expected)
  | u :: n :: rest => do
    let url ← Shape.string u
    let newContext ← Shape.boolean n
    Shape.atEnd items.length rest
    .ok ⟨url, newContext⟩

/-- Reads a navigation, an object or a list of its parts. -/
def read : Json → Shape.Result Navigation
  | .obj fields => readFields fields
  | .arr items => readItems items
  | v => Shape.refuse v "struct Navigation"

end Navigation

namespace ResponseKind

/-- The kind with a name. -/
def ofName (name : String) : Shape.Result ResponseKind :=
  match all.find? (·.name == name) with
  | some kind => .ok kind
  | none => .error (.unknownVariant name (all.map ResponseKind.name))

/-- Reads a kind: its name, or an object with the name as its only key and null for a value. -/
def read : Json → Shape.Result ResponseKind
  | .str name => ofName name
  | .obj [(name, v)] => do
    let kind ← ofName name
    match v with
    | .null => .ok kind
    | v => Shape.refuse v "unit"
  | .obj _ => .error (.wrongValue .map "map with a single key")
  | v => Shape.refuse v "string or map"

end ResponseKind

namespace Response

/-- A response as an object; the navigation is left out when there is none. -/
def toJson (r : Response) : Json :=
  Json.ofFields <|
    [("type", .str r.kind.name), ("message", .str r.message)] ++
      r.navigation.toList.map fun n => ("navigation", n.toJson)

/-- Reads a response from the fields of an object. -/
def readFields (fields : List (String × Json)) : Shape.Result Response := do
  let message ← Shape.field? fields "message" Shape.string
  let navigation ← Shape.field? fields "navigation" (Shape.nullable Navigation.read)
  let kind ← Shape.field? fields "type" ResponseKind.read
  let kind ← Shape.require "type" kind
  let message ← Shape.require "message" message
  .ok ⟨kind, message, navigation.join⟩

/-- Reads a response from the items of a list. -/
def readItems (items : List Json) : Shape.Result Response :=
  let expected := "struct Response with 3 elements"
  match items with
  | [] => .error (.wrongLength 0 expected)
  | [k] => do
    let _ ← ResponseKind.read k
    .error (.wrongLength 1 expected)
  | k :: m :: rest => do
    let kind ← ResponseKind.read k
    let message ← Shape.string m
    let navigation ← (rest.head?).mapM (Shape.nullable Navigation.read)
    Shape.atEnd items.length (rest.drop 1)
    .ok ⟨kind, message, navigation.join⟩

/-- Reads a response, an object or a list of its parts. -/
def read : Json → Shape.Result Response
  | .obj fields => readFields fields
  | .arr items => readItems items
  | v => Shape.refuse v "struct Response"

end Response
end StartPage
