import Mathlib.Logic.Relation
import StartPage.Proofs.Json.Fields
import StartPage.Proofs.Records

/-!
    Spellings of one document. Documents may differ in what an older or another program writes, at
    any place and in any number of places, and are read as one store, or none of them is read.

        {"type": "VaunchQuery", "sed": ["/a/", null], …}
        {"type": "QueryFile", "transform": ["/a/", ""], "icon": null, "note": 7, …}

    One change of spelling is looked at in each record, and then at its place in the document. -/

namespace StartPage

/-! ### Changes of an object -/

namespace Json

variable {fields fields' : List (String × Json)} {keys : List String}

/-- The objects have the same fields, those with the given keys apart. -/
def SameBut (keys : List String) (fields fields' : List (String × Json)) : Prop :=
  ∀ k ∉ keys, lookup k fields' = lookup k fields

/-- The keys that say how a record looks. -/
def iconKeys : List String := ["icon", "iconClass"]

/-- A key of an icon that is null in one object is missing in the other. -/
def IconDropped (fields fields' : List (String × Json)) : Prop :=
  ∃ key ∈ iconKeys, lookup key fields = some .null ∧ lookup key fields' = none ∧
    SameBut [key] fields fields'

/-- Two objects in the fields of which something has changed. -/
inductive Objects (R : List (String × Json) → List (String × Json) → Prop) : Json → Json → Prop
  | mk {fields fields' : List (String × Json)} :
    R fields fields' → Objects R (.obj fields) (.obj fields')

theorem SameBut.symm (h : SameBut keys fields fields') : SameBut keys fields' fields :=
  fun k hk => (h k hk).symm

theorem SameBut.trans {fields'' : List (String × Json)} (h : SameBut keys fields fields')
    (h' : SameBut keys fields' fields'') : SameBut keys fields fields'' :=
  fun k hk => (h' k hk).trans (h k hk)

theorem sameBut_insertField (k : String) (v : Json) (fields : List (String × Json)) :
    SameBut [k] fields (insertField k v fields) :=
  fun _ hk => lookup_insertField_of_ne (Ne.symm (List.mem_singleton.not.1 hk)) v fields

theorem SameBut.insertField (h : SameBut keys fields fields') (k : String) (v : Json) :
    SameBut keys (insertField k v fields) (insertField k v fields') := by
  intro k' hk'
  rw [lookup_insertField, lookup_insertField, h k' hk']

theorem SameBut.mono {keys' : List String} (h : SameBut keys fields fields') (sub : keys ⊆ keys') :
    SameBut keys' fields fields' :=
  fun k hk => h k fun hk' => hk (sub hk')

theorem SameBut.lookup_eq (h : SameBut keys fields fields') (keys' : List String)
    (apart : ∀ k ∈ keys', k ∉ keys) : ∀ k ∈ keys', lookup k fields' = lookup k fields :=
  fun k hk => h k (apart k hk)

theorem IconDropped.sameBut (h : IconDropped fields fields') : SameBut iconKeys fields fields' := by
  obtain ⟨key, hkey, -, -, hsame⟩ := h
  exact hsame.mono (by simpa using hkey)

/-- What is null is not set, and neither is what is missing. -/
theorem IconDropped.mapM_eq (h : IconDropped fields fields') (key : String) :
    ((lookup key fields').mapM (Shape.nullable Shape.string)).map Option.join =
      ((lookup key fields).mapM (Shape.nullable Shape.string)).map Option.join := by
  obtain ⟨dropped, -, hnull, hmissing, hsame⟩ := h
  by_cases hkey : key = dropped
  · rw [hkey, hnull, hmissing]
    rfl
  · rw [hsame key (by simpa using hkey)]

end Json

/-! ### Entries -/

namespace EntryRecord

open Json (SameBut IconDropped iconKeys)

variable {fields fields' : List (String × Json)}

/-- The keys of a rule. -/
def ruleKeys : List String := ["transform", "sed"]

/-- The keys that all entries have but for those of an icon and the type. -/
def plainKeys : List String := ["content", "description", "fileName", "hits", "position"]

/-- The keys that mean something in every entry. -/
def commonKeys : List String := "type" :: iconKeys ++ plainKeys

/-- The keys that mean something in queries alone. -/
def queryKeys : List String := "prefix" :: ruleKeys

/-- Two parts of a rule, of which null stands for empty. -/
def SamePart (e e' : Json) : Prop := e = e' ∨ e = .null ∧ e' = .str "" ∨ e = .str "" ∧ e' = .null

/-- One change in the spelling of an entry: another name of its type, the other key of its rule, a
    null in the rule for an empty text, an icon that is null for one that is missing, a key that
    means nothing. -/
inductive Respelled (fields fields' : List (String × Json)) : Prop
  | tag (type : EntryType) {name name' : String}
    (known : typeNames.lookup name = some type) (known' : typeNames.lookup name' = some type)
    (here : Json.lookup "type" fields = some (.str name))
    (here' : Json.lookup "type" fields' = some (.str name')) (rest : SameBut ["type"] fields fields')
  | renamed (noSed : Json.lookup "sed" fields = none)
    (noTransform : Json.lookup "transform" fields' = none)
    (same : Json.lookup "sed" fields' = Json.lookup "transform" fields)
    (rest : SameBut ruleKeys fields fields')
  | blank (key : String) {e e' r r' : Json} (isRule : key ∈ ruleKeys)
    (here : Json.lookup key fields = some (.arr [e, r]))
    (here' : Json.lookup key fields' = some (.arr [e', r']))
    (expression : SamePart e e') (replacement : SamePart r r') (rest : SameBut [key] fields fields')
  | icon (dropped : IconDropped fields fields')
  | extra {key : String} (unknown : key ∉ commonKeys)
    (unknownQuery : readTag fields = .ok .query → key ∉ queryKeys)
    (rest : SameBut [key] fields fields')

/-- The objects are the same to a reader of entries. -/
structure ReadsAlike (fields fields' : List (String × Json)) : Prop where
  type : readTag fields' = readTag fields
  plain : ∀ key ∈ plainKeys, Json.lookup key fields' = Json.lookup key fields
  icons : ∀ key ∈ iconKeys,
    (Shape.field? fields' key (Shape.nullable Shape.string)).map Option.join =
      (Shape.field? fields key (Shape.nullable Shape.string)).map Option.join
  query : readTag fields = .ok .query →
    Json.lookup "prefix" fields' = Json.lookup "prefix" fields ∧
      readRuleField fields' = readRuleField fields

namespace ReadsAlike

theorem symm (h : ReadsAlike fields fields') : ReadsAlike fields' fields where
  type := h.type.symm
  plain key hkey := (h.plain key hkey).symm
  icons key hkey := (h.icons key hkey).symm
  query hquery := (h.query (h.type ▸ hquery)).imp Eq.symm Eq.symm

theorem field?_eq {α : Type} {key : String} (h : ReadsAlike fields fields') (hkey : key ∈ plainKeys)
    (read : Json → Shape.Result α) : Shape.field? fields' key read = Shape.field? fields key read :=
  Shape.field?_congr read (h.plain key hkey)

theorem isReadFrom {r : EntryRecord} (h : ReadsAlike fields fields') (hr : IsReadFrom fields r) :
    IsReadFrom fields' r where
  type := h.type.trans hr.type
  content := (h.field?_eq (by decide) _).trans hr.content
  query keyword rule hkind := by
    obtain ⟨hkeyword, hrule⟩ := hr.query keyword rule hkind
    obtain ⟨hkeyword', hrule'⟩ := h.query (by rw [hr.type, hkind]; rfl)
    exact ⟨(Shape.field?_congr _ hkeyword').trans hkeyword, hrule'.trans hrule⟩
  description := (congrArg _ (h.field?_eq (by decide) _)).trans hr.description
  name := (h.field?_eq (by decide) _).trans hr.name
  hits := (congrArg _ (h.field?_eq (by decide) _)).trans hr.hits
  icon := (h.icons "icon" (by decide)).trans hr.icon
  iconClass := (h.icons "iconClass" (by decide)).trans hr.iconClass
  rank := (congrArg _ (h.field?_eq (by decide) _)).trans hr.rank

end ReadsAlike

theorem readTag_of_lookup {t : Json} (h : Json.lookup "type" fields = some t) :
    readTag fields = readType t := by
  rw [readTag, h]
  rfl

theorem readTag_congr (h : Json.lookup "type" fields' = Json.lookup "type" fields) :
    readTag fields' = readTag fields := by
  rw [readTag, readTag, h]

theorem readType_of_lookup {name : String} {type : EntryType}
    (h : typeNames.lookup name = some type) : readType (.str name) = .ok type := by
  simp only [readType, h]

theorem SamePart.map_eq {e e' : Json} (h : SamePart e e') :
    (Shape.nullable Shape.string e').map (·.getD "") =
      (Shape.nullable Shape.string e).map (·.getD "") := by
  rcases h with rfl | ⟨rfl, rfl⟩ | ⟨rfl, rfl⟩
  · rfl
  · rfl
  · rfl

theorem readRule_pair (e r : Json) : readRule (.arr [e, r]) =
    (Shape.nullable Shape.string e).map (·.getD "") >>= fun expression =>
      (Shape.nullable Shape.string r).map (·.getD "") >>= fun replacement =>
        .ok ⟨expression, replacement⟩ := by
  rw [readRule]
  cases Shape.nullable Shape.string e with
  | error f => rfl
  | ok expression =>
    cases Shape.nullable Shape.string r with
    | error f => rfl
    | ok replacement => rfl

/-- A rule is read the same if both of its keys are. -/
theorem readRuleField_congr
    (each : ∀ key ∈ ruleKeys, Shape.field? fields' key readRule = Shape.field? fields key readRule)
    (present : (Json.lookup "transform" fields').isSome = (Json.lookup "transform" fields).isSome) :
    readRuleField fields' = readRuleField fields := by
  rw [readRuleField, readRuleField, each "sed" (by decide), each "transform" (by decide), present]

theorem query_of_lookup
    (each : ∀ key ∈ queryKeys, Json.lookup key fields' = Json.lookup key fields) :
    Json.lookup "prefix" fields' = Json.lookup "prefix" fields ∧
      readRuleField fields' = readRuleField fields := by
  refine ⟨each "prefix" (by decide), readRuleField_congr (fun key hkey => ?_) ?_⟩
  · exact Shape.field?_congr _ (each key (List.mem_cons_of_mem _ hkey))
  · rw [each "transform" (by decide)]

/-- Under either of its two keys a rule is the same. -/
theorem readRuleField_renamed (hsed : Json.lookup "sed" fields = none)
    (htransform : Json.lookup "transform" fields' = none)
    (hrenamed : Json.lookup "sed" fields' = Json.lookup "transform" fields) :
    readRuleField fields' = readRuleField fields := by
  simp only [readRuleField, Shape.field?, hsed, htransform, hrenamed]
  cases Json.lookup "transform" fields with
  | none => rfl
  | some v =>
    dsimp only
    cases readRule v with
    | error f => rfl
    | ok rule => rfl

/-- Objects that differ in keys of queries alone read alike if the rest of the query does. -/
theorem readsAlike_of_common
    (hcommon : ∀ k ∈ commonKeys, Json.lookup k fields' = Json.lookup k fields)
    (query : readTag fields = .ok .query →
      Json.lookup "prefix" fields' = Json.lookup "prefix" fields ∧
        readRuleField fields' = readRuleField fields) : ReadsAlike fields fields' where
  type := readTag_congr (hcommon "type" (by decide))
  plain key hkey := hcommon key (by revert key; decide)
  icons key hkey := by
    rw [Shape.field?_congr _ (hcommon key (by revert key; decide))]
  query := query

theorem Respelled.readsAlike (h : Respelled fields fields') : ReadsAlike fields fields' := by
  cases h with
  | tag type known known' here here' rest =>
    have hplain := rest.lookup_eq plainKeys (by decide)
    have hicons := rest.lookup_eq iconKeys (by decide)
    exact
      { type := by
          rw [readTag_of_lookup here, readTag_of_lookup here', readType_of_lookup known,
            readType_of_lookup known']
        plain := hplain
        icons := fun key hkey => congrArg _ (Shape.field?_congr _ (hicons key hkey))
        query := fun _ => query_of_lookup (rest.lookup_eq queryKeys (by decide)) }
  | renamed noSed noTransform same rest =>
    refine readsAlike_of_common (rest.lookup_eq commonKeys (by decide)) fun _ => ?_
    exact ⟨rest "prefix" (by decide), readRuleField_renamed noSed noTransform same⟩
  | @blank key e e' r r' isRule here here' expression replacement rest =>
    have hrest : SameBut ruleKeys fields fields' := rest.mono (by simpa using isRule)
    refine readsAlike_of_common (hrest.lookup_eq commonKeys (by decide)) fun _ => ?_
    have hpair : readRule (.arr [e', r']) = readRule (.arr [e, r]) := by
      rw [readRule_pair, readRule_pair, expression.map_eq, replacement.map_eq]
    -- the pair may stand under either key, so that each key is compared with its own
    refine ⟨hrest "prefix" (by decide), readRuleField_congr (fun k hk => ?_) ?_⟩
    · by_cases hkey : k = key
      · rw [hkey, Shape.field?, Shape.field?, here, here']
        exact congrArg (Except.map some) hpair
      · exact Shape.field?_congr _ (rest k (by simpa using hkey))
    · by_cases hkey : "transform" = key
      · rw [hkey, here, here']
        rfl
      · rw [rest "transform" (by simpa using hkey)]
  | icon dropped =>
    have hrest := dropped.sameBut
    exact
      { type := readTag_congr (hrest "type" (by decide))
        plain := hrest.lookup_eq plainKeys (by decide)
        icons := fun key _ => by
          rw [Shape.field?_eq_mapM, Shape.field?_eq_mapM, dropped.mapM_eq]
        query := fun _ => query_of_lookup (hrest.lookup_eq queryKeys (by decide)) }
  | @extra key unknown unknownQuery rest =>
    -- keys of queries mean nothing in a link, so they count as known in a query alone
    refine readsAlike_of_common (rest.lookup_eq commonKeys fun k hk hkey => ?_) fun hquery => ?_
    · exact unknown (List.mem_singleton.1 hkey ▸ hk)
    · refine query_of_lookup (rest.lookup_eq queryKeys fun k hk hkey => ?_)
      exact unknownQuery hquery (List.mem_singleton.1 hkey ▸ hk)

theorem Respelled.read_iff (v v' : Json) (h : Json.Objects Respelled v v') (r : EntryRecord) :
    read v' = .ok r ↔ read v = .ok r := by
  obtain ⟨h⟩ := h
  rw [read, read, readFields_eq_ok, readFields_eq_ok]
  exact ⟨h.readsAlike.symm.isReadFrom, h.readsAlike.isReadFrom⟩

end EntryRecord

/-! ### Folders -/

namespace FolderRecord

open Json (SameBut IconDropped OneItem Objects)

/-- The keys that mean something in a folder, in the order that a list has them in. -/
def keys : List String := ["name", "icon", "iconClass", "position", "files"]

/-- One change in the spelling of a folder: an icon that is null for one that is missing, a key that
    means nothing, the list of its fields for the object, or a change in one of its entries. -/
inductive Respelled : Json → Json → Prop
  | icon {fields fields' : List (String × Json)} (dropped : IconDropped fields fields') :
    Respelled (.obj fields) (.obj fields')
  | iconLast (name : Json) : Respelled (.arr [name, .null]) (.arr [name])
  | iconClassLast (name icon : Json) : Respelled (.arr [name, icon, .null]) (.arr [name, icon])
  | extra {key : String} {fields fields' : List (String × Json)} (unknown : key ∉ keys)
    (rest : SameBut [key] fields fields') : Respelled (.obj fields) (.obj fields')
  | listed {fields : List (String × Json)} {items : List Json}
    (all : keys.map (Json.lookup · fields) = items.map some) :
    Respelled (.obj fields) (.arr items)
  | entry {fields fields' : List (String × Json)} {files files' : Json}
    (here : Json.lookup "files" fields = some files)
    (here' : Json.lookup "files" fields' = some files')
    (one : OneItem (Objects EntryRecord.Respelled) files files')
    (rest : SameBut ["files"] fields fields') : Respelled (.obj fields) (.obj fields')
  | entryListed {name icon iconClass position files files' : Json} (rest : List Json)
    (one : OneItem (Objects EntryRecord.Respelled) files files') :
    Respelled (.arr (name :: icon :: iconClass :: position :: files :: rest))
      (.arr (name :: icon :: iconClass :: position :: files' :: rest))

section IsReadFrom

variable {name icon icon' iconClass iconClass' position files files' : Option Json}
  {r : FolderRecord}

theorem isReadFrom_of_icons
    (hicon : (icon'.mapM (Shape.nullable Shape.string)).map Option.join =
      (icon.mapM (Shape.nullable Shape.string)).map Option.join)
    (hiconClass : (iconClass'.mapM (Shape.nullable Shape.string)).map Option.join =
      (iconClass.mapM (Shape.nullable Shape.string)).map Option.join) :
    IsReadFrom name icon' iconClass' position files r ↔
      IsReadFrom name icon iconClass position files r :=
  ⟨fun h => ⟨h.name, hicon ▸ h.icon, hiconClass ▸ h.iconClass, h.rank, h.entries⟩,
    fun h => ⟨h.name, hicon ▸ h.icon, hiconClass ▸ h.iconClass, h.rank, h.entries⟩⟩

/-- A folder is read the same if the list of its entries is. -/
theorem isReadFrom_of_files {files files' : Json}
    (one : OneItem (Objects EntryRecord.Respelled) files files') :
    IsReadFrom name icon iconClass position (some files') r ↔
      IsReadFrom name icon iconClass position (some files) r := by
  have hentries :
      ((some files').mapM (Shape.list EntryRecord.read)).map (·.getD []) = .ok r.entries ↔
        ((some files).mapM (Shape.list EntryRecord.read)).map (·.getD []) = .ok r.entries := by
    rw [Shape.mapM_some_getD_eq_ok, Shape.mapM_some_getD_eq_ok]
    exact Shape.list_oneItem EntryRecord.Respelled.read_iff one r.entries
  exact ⟨fun h => ⟨h.name, h.icon, h.iconClass, h.rank, hentries.1 h.entries⟩,
    fun h => ⟨h.name, h.icon, h.iconClass, h.rank, hentries.2 h.entries⟩⟩

end IsReadFrom

/-- Of an object that is written as a list, the places in the list have the values of the keys. -/
theorem getElem?_of_listed {fields : List (String × Json)} {items : List Json} {i : Nat}
    {key : String} (all : keys.map (Json.lookup · fields) = items.map some)
    (hkey : keys[i]? = some key) : items[i]? = Json.lookup key fields := by
  have hi := congrArg (·[i]?) all
  simp only [List.getElem?_map, hkey, Option.map_some] at hi
  cases hv : items[i]? with
  | none =>
    rw [hv] at hi
    cases hi
  | some v =>
    rw [hv] at hi
    exact (Option.some.inj hi).symm

theorem Respelled.read_iff (v v' : Json) (h : Respelled v v') (r : FolderRecord) :
    read v' = .ok r ↔ read v = .ok r := by
  cases h with
  | @icon fields fields' dropped =>
    have hrest := dropped.sameBut
    rw [read, read, readFields_eq_ok, readFields_eq_ok, hrest "name" (by decide),
      hrest "position" (by decide), hrest "files" (by decide)]
    exact isReadFrom_of_icons (dropped.mapM_eq "icon") (dropped.mapM_eq "iconClass")
  | iconLast name =>
    rw [read, read, readItems_eq_ok, readItems_eq_ok]
    exact and_congr (by simp) (isReadFrom_of_icons rfl rfl)
  | iconClassLast name icon =>
    rw [read, read, readItems_eq_ok, readItems_eq_ok]
    exact and_congr (by simp) (isReadFrom_of_icons rfl rfl)
  | @extra key fields fields' unknown rest =>
    have hkeys := rest.lookup_eq keys fun k hk hkey =>
      unknown (List.mem_singleton.1 hkey ▸ hk)
    rw [read, read, readFields_eq_ok, readFields_eq_ok, hkeys "name" (by decide),
      hkeys "icon" (by decide), hkeys "iconClass" (by decide), hkeys "position" (by decide),
      hkeys "files" (by decide)]
  | @listed fields items all =>
    have hlength : keys.length = items.length := by simpa using congrArg List.length all
    rw [read, read, readFields_eq_ok, readItems_eq_ok, getElem?_of_listed all (i := 0) rfl,
      getElem?_of_listed all (i := 1) rfl, getElem?_of_listed all (i := 2) rfl,
      getElem?_of_listed all (i := 3) rfl, getElem?_of_listed all (i := 4) rfl]
    exact and_iff_right (Nat.le_of_eq hlength.symm)
  | @entry fields fields' files files' here here' one rest =>
    rw [read, read, readFields_eq_ok, readFields_eq_ok, rest "name" (by decide),
      rest "icon" (by decide), rest "iconClass" (by decide), rest "position" (by decide), here,
      here']
    exact isReadFrom_of_files one
  | entryListed rest one =>
    rw [read, read, readItems_eq_ok, readItems_eq_ok]
    exact and_congr (by simp) (isReadFrom_of_files one)

end FolderRecord

/-! ### Documents -/

namespace Store

theorem ofJson_eq_ok {v : Json} {s : Store} : ofJson v = .ok s ↔
    ∃ records, Shape.list FolderRecord.read v = .ok records ∧ ofRecords records = s := by
  rw [ofJson]
  cases Shape.list FolderRecord.read v with
  | ok records =>
    constructor
    · intro h
      exact ⟨records, rfl, Except.ok.inj h⟩
    · rintro ⟨records', h, rfl⟩
      rw [Except.ok.inj h]
  | error f => exact ⟨nofun, nofun⟩

/-- One change in the spelling of a document is one in one of its folders. -/
def Respelled : Json → Json → Prop := Json.OneItem FolderRecord.Respelled

theorem Respelled.ofJson_iff {v v' : Json} (h : Respelled v v') (s : Store) :
    ofJson v' = .ok s ↔ ofJson v = .ok s := by
  simp only [ofJson_eq_ok, Shape.list_oneItem FolderRecord.Respelled.read_iff h]

/-- Any number of changes leave what is read as it is. -/
theorem ofJson_iff_of_eqvGen {v v' : Json} (h : Relation.EqvGen Respelled v v') :
    ∀ s, ofJson v' = .ok s ↔ ofJson v = .ok s := by
  induction h with
  | rel v v' h => exact h.ofJson_iff
  | refl v => exact fun s => Iff.rfl
  | symm v v' _ ih => exact fun s => (ih s).symm
  | trans u v w _ _ ih ih' => exact fun s => (ih' s).trans (ih s)

/-- Documents that differ by changes of spelling are read as one store, or neither of them is. -/
theorem ofJson_respelled {v v' : Json} (h : Relation.EqvGen Respelled v v') :
    (∃ s, ofJson v = .ok s ∧ ofJson v' = .ok s) ∨
      ∃ f f', ofJson v = .error f ∧ ofJson v' = .error f' := by
  have hiff := ofJson_iff_of_eqvGen h
  cases hv : ofJson v with
  | ok s => exact .inl ⟨s, rfl, (hiff s).2 hv⟩
  | error f =>
    cases hv' : ofJson v' with
    | ok s => cases hv.symm.trans ((hiff s).1 hv')
    | error f' => exact .inr ⟨f, f', rfl, rfl⟩

/-- The fields of a query with a rule, by the name of its type, the key of the rule and what the rule
    puts in place of each a. -/
def withRule (type rule : String) (replacement : Json) : List (String × Json) :=
  Json.insertField "type" (.str type) (Json.insertField rule (.arr [.str "/a/", replacement])
    [("content", .str "x.org"), ("fileName", .str "q"), ("prefix", .str "q")])

/-- The same with an icon that is null. -/
def withIcon : List (String × Json) :=
  Json.insertField "icon" .null (withRule "VaunchQuery" "sed" .null)

/-- The fields of a folder with one entry. -/
def holding (fields : List (String × Json)) : List (String × Json) :=
  [("files", .arr [.obj fields]), ("icon", .null), ("iconClass", .str "thin"), ("name", .str "a"),
    ("position", .int 1)]

/-- A document as it is written now. -/
def newDocument : Json := .arr [.obj (holding (withRule "QueryFile" "transform" (.str "")))]

/-- The same document with another spelling at every place where there is one. -/
def oldDocument : Json :=
  .arr [.arr [.str "a", .null, .str "thin", .int 1,
    .arr [.obj (Json.insertField "note" (.int 7) withIcon)]]]

theorem respelled_holding {fields fields' : List (String × Json)}
    (h : EntryRecord.Respelled fields fields') :
    Respelled (.arr [.obj (holding fields)]) (.arr [.obj (holding fields')]) := by
  refine .mk [] [] (.entry rfl rfl (.mk [] [] (.mk h)) fun k hk => ?_)
  rw [List.mem_singleton] at hk
  simp [holding, Json.lookup, Ne.symm hk]

theorem ofJson_respelled_old :
    Relation.EqvGen Respelled newDocument oldDocument ∧
      ∃ s, ofJson newDocument = .ok s ∧ ofJson oldDocument = .ok s := by
  have hput (k : String) (v v' : Json) (fields : List (String × Json)) :
      Json.SameBut [k] (Json.insertField k v fields) (Json.insertField k v' fields) :=
    (Json.sameBut_insertField k v fields).symm.trans (Json.sameBut_insertField k v' fields)
  have blank : EntryRecord.Respelled (withRule "QueryFile" "transform" (.str ""))
      (withRule "QueryFile" "transform" .null) :=
    .blank "transform" (by decide) rfl rfl (.inl rfl) (.inr (.inr ⟨rfl, rfl⟩))
      ((hput _ _ _ _).insertField _ _)
  have renamed : EntryRecord.Respelled (withRule "QueryFile" "transform" .null)
      (withRule "QueryFile" "sed" .null) := by
    refine .renamed rfl rfl rfl (Json.SameBut.insertField ?_ _ _)
    exact ((Json.sameBut_insertField _ _ _).mono (by decide)).symm.trans
      ((Json.sameBut_insertField _ _ _).mono (by decide))
  have tag : EntryRecord.Respelled (withRule "QueryFile" "sed" .null)
      (withRule "VaunchQuery" "sed" .null) :=
    .tag .query rfl rfl rfl rfl (hput _ _ _ _)
  have icon : EntryRecord.Respelled withIcon (withRule "VaunchQuery" "sed" .null) :=
    .icon ⟨"icon", by decide, rfl, rfl, (Json.sameBut_insertField _ _ _).symm⟩
  have extra : EntryRecord.Respelled withIcon (Json.insertField "note" (.int 7) withIcon) :=
    .extra (by decide) (fun _ => by decide) (Json.sameBut_insertField _ _ _)
  have listed : Respelled (.arr [.obj (holding (Json.insertField "note" (.int 7) withIcon))])
      oldDocument := .mk [] [] (.listed rfl)
  have hspelling : Relation.EqvGen Respelled newDocument oldDocument :=
    .trans _ _ _ (.rel _ _ (respelled_holding blank)) <|
    .trans _ _ _ (.rel _ _ (respelled_holding renamed)) <|
    .trans _ _ _ (.rel _ _ (respelled_holding tag)) <|
    .trans _ _ _ (.symm _ _ (.rel _ _ (respelled_holding icon))) <|
    .trans _ _ _ (.rel _ _ (respelled_holding extra)) (.rel _ _ listed)
  refine ⟨hspelling, ?_⟩
  rcases ofJson_respelled hspelling with h | ⟨f, f', h, -⟩
  · exact h
  · cases h

end Store
end StartPage
