import StartPage.Address
import StartPage.Name
import StartPage.Response
import StartPage.Template

/-!
    Entries of a start page. A link holds an address; a query holds a template for one, a keyword
    that calls it, and a rule that changes the words typed after it.

        example.lnk   example.com
        search.qry    s: words   ──▶   example.com/?q=words

    An entry goes by its name, by its path when it is in a folder, and a query also by its
    keyword. -/

namespace StartPage

/-- The two types of entry, as searches tell them apart. -/
inductive EntryType where
  | link | query
  deriving DecidableEq

/-- What makes an entry a link or a query. -/
inductive EntryKind where
  | link
  | query (keyword : String) (rule : Rule)
  deriving DecidableEq

/-- An entry. The position and parent are those that its folder gave it last. -/
structure Entry where
  name : String
  kind : EntryKind
  content : String
  icon : String
  iconClass : String
  hits : UInt64
  description : String
  position : Nat
  parent : Option String
  deriving DecidableEq

/-- The class of an icon when none is given. -/
def defaultIconClass : String := "solid"

def EntryType.name : EntryType → String
  | .link => "LinkFile"
  | .query => "QueryFile"

namespace EntryKind

def type : EntryKind → EntryType
  | .link => .link
  | .query _ _ => .query

/-- The ending of the names of entries of a kind. -/
def extension : EntryKind → String
  | .link => Name.linkExtension
  | .query _ _ => Name.queryExtension

/-- The icon that new entries of a kind have. -/
def icon : EntryKind → String
  | .link => "link"
  | .query _ _ => "magnifying-glass"

end EntryKind

namespace Entry

/-- A new entry of a kind, under a name by the rules. -/
def ofKind (kind : EntryKind) (name content : String) : Entry where
  name := Name.normalize name kind.extension
  kind := kind
  content := content
  icon := kind.icon
  iconClass := defaultIconClass
  hits := 0
  description := ""
  position := 0
  parent := none

/-- A new link. -/
def link (name content : String) : Entry := ofKind .link name content

/-- A keyword without the colons that would end it. -/
def cleanKeyword (keyword : String) : String := Text.without ':' keyword

/-- A new query without a rule. -/
def query (name keyword content : String) : Entry :=
  ofKind (.query (cleanKeyword keyword) Rule.none) name content

def type (e : Entry) : EntryType := e.kind.type

def extension (e : Entry) : String := e.kind.extension

def isQuery (e : Entry) : Bool := e.type == .query

/-! ### Names -/

/-- The path of an entry that is in a folder. -/
def path? (e : Entry) : Option String := e.parent.map (Path.text · e.name)

/-- What an entry answers to besides its name. -/
def aliases (e : Entry) : List String :=
  match e.kind with
  | .link => e.path?.toList
  | .query keyword _ => keyword :: e.path?.toList

/-- What an entry answers to. -/
def names (e : Entry) : List String := e.name :: e.aliases

/-- Some name of the entry starts with a text. -/
def namesStartWith (e : Entry) (s : String) : Bool :=
  e.names.any fun name => s.toList.isPrefixOf name.toList

/-- The form in which the name is shown. -/
def title (e : Entry) : String := Name.title e.name

/-! ### Changes -/

/-- Gives an entry a name by the rules. -/
def rename (e : Entry) (name : String) : Entry :=
  { e with name := Name.normalize name e.extension }

def setPosition (e : Entry) (position : Nat) : Entry := { e with position := position }

def setIcon (e : Entry) (icon : String) (iconClass : Option String) : Entry :=
  { e with icon := icon, iconClass := iconClass.getD defaultIconClass }

/-- Gives a query a keyword; links have none. -/
def setKeyword (e : Entry) (keyword : String) : Entry :=
  match e.kind with
  | .link => e
  | .query _ rule => { e with kind := .query (cleanKeyword keyword) rule }

/-- Gives a query a rule; links have none. -/
def setRule (e : Entry) (rule : Rule) : Entry :=
  match e.kind with
  | .link => e
  | .query keyword _ => { e with kind := .query keyword rule }

/-- A new value for a field, unless it is missing, empty or a star. -/
def fresh? (value : Option String) : Option String :=
  value.filter fun s => s != "" && s != "*"

/-- Changes the content of a link to the first value, or the keyword and content of a query to the
    first two; a missing or empty value or a star keeps what is there. -/
def edit (e : Entry) (values : List String) : Entry :=
  match e.kind with
  | .link => { e with content := (fresh? values[0]?).getD e.content }
  | .query keyword rule =>
    { e with
      kind := .query (((fresh? values[0]?).map cleanKeyword).getD keyword) rule
      content := (fresh? values[1]?).getD e.content }

/-! ### Descriptions -/

/-- The longest address shown in full. -/
def shownLength : Nat := 50

/-- An address, cut short if it is long. -/
def shorten (address : String) : String :=
  if shownLength < address.toList.length then
    String.ofList (address.toList.take shownLength) ++ "..."
  else address

/-- What is said about an entry: its description, or one made from its content. -/
def summary (e : Entry) : String :=
  match e.kind with
  | .link =>
    if e.description.isEmpty then "Navigate to: " ++ shorten (Address.correct e.content)
    else e.description
  | .query keyword _ =>
    keyword ++ ": " ++ (if e.description.isEmpty then "Search " ++ e.content else e.description)

/-! ### Going there -/

/-- What an entry makes of words: a link always goes to its content. -/
def expand [Pattern.Reader] (e : Entry) (words : List String) : Except Fault Expansion :=
  match e.kind with
  | .link => .ok (.target e.content (words.head? == some Template.blankWord))
  | .query keyword rule => Template.expand e.content keyword rule words

/-- Runs an entry. Leaving for an address counts as a hit, and nothing else does. -/
def execute [Pattern.Reader] (e : Entry) (words : List String) : Entry × Response :=
  match e.expand words with
  | .error f => (e, .ofFault f)
  | .ok (.prompt text) => (e, .updateInput text)
  | .ok (.target location newContext) =>
    match Address.resolve location with
    | .error f => (e, .ofFault f)
    | .ok url => ({ e with hits := e.hits + 1 }, .navigate url.href newContext)

end Entry
end StartPage
