import StartPage.Store.Basic

/-!
    Stores as JSON documents. A document is a list of folder records with their entry records;
    reading one puts records in the order of their ranks, drops those whose name is taken, and
    numbers what is left.

        [{"name": "sites", "position": 1, "files": [{"type": "LinkFile", "fileName": …}, …]}, …]

    Older spellings are read as well: other names for the types of entry and for the rule of a
    query, null for an icon or a part of a rule that is not set, and a folder as the list of its
    fields. -/

namespace StartPage

/-- An entry as a document gives it: the name and keyword as they are written there, and a rank in
    place of a position. -/
structure EntryRecord where
  kind : EntryKind
  content : String
  name : String
  icon : Option String
  iconClass : Option String
  hits : UInt64
  description : String
  rank : Int

/-- A folder as a document gives it. -/
structure FolderRecord where
  name : String
  icon : Option String
  iconClass : Option String
  rank : Int
  entries : List EntryRecord

/-! ### Writing -/

/-- The rank that a position is written as. Ranks are signed 64-bit numbers: a position beyond
    them comes out as one that is not positive. -/
def writtenRank (position : Nat) : Int :=
  if position < 0x8000_0000_0000_0000 then position else min (position - 0x1_0000_0000_0000_0000) 0

namespace Entry

/-- The type by which an entry is written. -/
def typeField (e : Entry) : String × Json := ("type", .str e.type.name)

/-- The fields that only queries have. -/
def queryFields (e : Entry) : List (String × Json) :=
  match e.kind with
  | .link => []
  | .query keyword rule =>
    [("prefix", .str keyword), ("transform", .arr [.str rule.expression, .str rule.replacement])]

/-- The fields of an entry. Its parent is not among them. -/
def fields (e : Entry) : List (String × Json) :=
  [e.typeField, ("fileName", .str e.name), ("icon", .str e.icon), ("iconClass", .str e.iconClass),
    ("hits", .int e.hits.toNat), ("description", .str e.description),
    ("position", .int (writtenRank e.position)), ("content", .str e.content)] ++ e.queryFields

def toJson (e : Entry) : Json := Json.ofFields e.fields

end Entry

namespace Folder

def fields (f : Folder) : List (String × Json) :=
  [("name", .str f.name), ("icon", .str f.icon), ("iconClass", .str f.iconClass),
    ("position", .int (writtenRank f.position)), ("files", .arr (f.entries.map Entry.toJson))]

def toJson (f : Folder) : Json := Json.ofFields f.fields

end Folder

def Store.toJson (s : Store) : Json := .arr (s.folders.map Folder.toJson)

/-! ### Reading records -/

namespace EntryRecord

/-- The types of entry by the names that documents give them. -/
def typeNames : List (String × EntryType) :=
  [("LinkFile", .link), ("VaunchLink", .link), ("QueryFile", .query), ("VaunchQuery", .query)]

/-- Reads the type of an entry. -/
def readType : Json → Shape.Result EntryType
  | .str name =>
    match typeNames.lookup name with
    | some type => .ok type
    | none => .error (.unknownVariant name (typeNames.map (·.1)))
  | v => Shape.refuse v "variant identifier"

/-- Reads a rule, a pair of texts that may be null for empty. -/
def readRule : Json → Shape.Result Rule
  | .arr items =>
    let expected := "a tuple of size 2"
    match items with
    | [] => .error (.wrongLength 0 expected)
    | [e] => do
      let _ ← Shape.nullable Shape.string e
      .error (.wrongLength 1 expected)
    | e :: r :: rest => do
      let expression ← Shape.nullable Shape.string e
      let replacement ← Shape.nullable Shape.string r
      if rest.isEmpty then .ok ⟨expression.getD "", replacement.getD ""⟩
      else .error (.wrongLength items.length "2 elements in sequence")
  | v => Shape.refuse v "a tuple of size 2"

/-- Reads a rule under either of its two names, but not under both. -/
def readRuleField (fields : List (String × Json)) : Shape.Result Rule := do
  let old ← Shape.field? fields "sed" readRule
  if old.isSome && (Json.lookup "transform" fields).isSome then
    .error (.duplicateField "transform")
  else
    let new ← Shape.field? fields "transform" readRule
    .ok ((old <|> new).getD Rule.none)

/-- Reads what makes an entry of a type, and its content. -/
def readKind (fields : List (String × Json)) : EntryType → Shape.Result (EntryKind × String)
  | .link => do
    let content ← Shape.field? fields "content" Shape.string
    .ok (.link, ← Shape.require "content" content)
  | .query => do
    let content ← Shape.field? fields "content" Shape.string
    let keyword ← Shape.field? fields "prefix" Shape.string
    let rule ← readRuleField fields
    let content ← Shape.require "content" content
    let keyword ← Shape.require "prefix" keyword
    .ok (.query keyword rule, content)

/-- Reads an entry from the fields of an object: its type first, then what its type asks for, and
    last what every entry has. -/
def readFields (fields : List (String × Json)) : Shape.Result EntryRecord := do
  let type ← Shape.require "type" (Json.lookup "type" fields)
  let (kind, content) ← readKind fields (← readType type)
  let description ← Shape.field? fields "description" Shape.string
  let name ← Shape.field? fields "fileName" Shape.string
  let hits ← Shape.field? fields "hits" Shape.uint64
  let icon ← Shape.field? fields "icon" (Shape.nullable Shape.string)
  let iconClass ← Shape.field? fields "iconClass" (Shape.nullable Shape.string)
  let rank ← Shape.field? fields "position" Shape.int64
  let name ← Shape.require "fileName" name
  .ok
    { kind := kind, content := content, name := name, icon := icon.join,
      iconClass := iconClass.join, hits := hits.getD 0, description := description.getD "",
      rank := rank.getD 0 }

/-- Reads an entry. A list is looked at for a type, but never is an entry. -/
def read : Json → Shape.Result EntryRecord
  | .obj fields => readFields fields
  | .arr [] => .error (.missingField "type")
  | .arr (t :: _) => do
    let type ← readType t
    .error (.wrongType .sequence ("struct variant FileRecord::" ++ type.name))
  | v => Shape.refuse v "internally tagged enum FileRecord"

end EntryRecord

namespace FolderRecord

/-- Reads a folder from the fields of an object. -/
def readFields (fields : List (String × Json)) : Shape.Result FolderRecord := do
  let entries ← Shape.field? fields "files" (Shape.list EntryRecord.read)
  let icon ← Shape.field? fields "icon" (Shape.nullable Shape.string)
  let iconClass ← Shape.field? fields "iconClass" (Shape.nullable Shape.string)
  let name ← Shape.field? fields "name" Shape.string
  let rank ← Shape.field? fields "position" Shape.int64
  let name ← Shape.require "name" name
  .ok ⟨name, icon.join, iconClass.join, rank.getD 0, entries.getD []⟩

/-- Reads a folder from the items of a list, of which all but the name may be missing. -/
def readItems (items : List Json) : Shape.Result FolderRecord := do
  match items with
  | [] => .error (.wrongLength 0 "struct FolderRecord with 5 elements")
  | name :: rest => do
    let name ← Shape.string name
    let icon ← rest[0]?.mapM (Shape.nullable Shape.string)
    let iconClass ← rest[1]?.mapM (Shape.nullable Shape.string)
    let rank ← rest[2]?.mapM Shape.int64
    let entries ← rest[3]?.mapM (Shape.list EntryRecord.read)
    Shape.atEnd items.length (rest.drop 4)
    .ok ⟨name, icon.join, iconClass.join, rank.getD 0, entries.getD []⟩

/-- Reads a folder, an object or a list of its fields. -/
def read : Json → Shape.Result FolderRecord
  | .obj fields => readFields fields
  | .arr items => readItems items
  | v => Shape.refuse v "struct FolderRecord"

end FolderRecord

/-! ### From records to a store -/

/-- What records are ordered by: ranks from 1 on as they are, and all others last. -/
def rankKey (rank : Int) : Int := if 0 < rank then rank else 0x7fff_ffff_ffff_ffff

/-- Puts records in the order of their ranks; records of one rank stay in their order. -/
def sortByRank {α : Type} (rank : α → Int) (records : List α) : List α :=
  records.mergeSort fun a b => rankKey (rank a) ≤ rankKey (rank b)

/-- The entry that a record describes. -/
def Entry.ofRecord (r : EntryRecord) : Entry :=
  let e := match r.kind with
    | .link => Entry.link r.name r.content
    | .query keyword rule => (Entry.query r.name keyword r.content).setRule rule
  { e with
    icon := r.icon.getD e.icon
    iconClass := r.iconClass.getD e.iconClass
    hits := r.hits
    description := r.description }

/-- The folder that a record describes. An entry whose name is taken is left out. -/
def Folder.ofRecord (r : FolderRecord) : Folder :=
  let f := Folder.empty r.name
  let f := { f with icon := r.icon.getD f.icon, iconClass := r.iconClass.getD f.iconClass }
  f.addAll ((sortByRank EntryRecord.rank r.entries).map Entry.ofRecord)

namespace Store

/-- The store that records describe. A folder whose name is taken is left out. -/
def ofRecords (records : List FolderRecord) : Store :=
  empty.insertAll ((sortByRank FolderRecord.rank records).map Folder.ofRecord)

/-- Reads a store from a document. -/
def ofJson (v : Json) : Except Fault Store :=
  match Shape.list FolderRecord.read v with
  | .ok records => .ok (ofRecords records)
  | .error f => .error (.storage (.badShape f))

end Store
end StartPage
