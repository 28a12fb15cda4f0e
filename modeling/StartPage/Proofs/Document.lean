import StartPage.Proofs.Json.Fields
import StartPage.Proofs.WellFormed.Document

/-!
    Writing a store to a document and reading it back. Reading gives some store in any case, and
    the same one just when the store is well-formed.

        store  ──toJson──▶  document  ──records──▶  store

    Nothing a record holds is lost on the way. What may change a store is the last part, in which
    records are sorted, brought under the rules and numbered. -/

namespace StartPage

/-! ### Reading values that were written -/

theorem writtenRank_bounds (position : Nat) :
    -0x8000_0000_0000_0000 ≤ writtenRank position ∧
      writtenRank position < 0x8000_0000_0000_0000 := by
  unfold writtenRank
  split <;> omega

namespace Shape

variable {α β : Type}

@[simp] theorem bind_ok (a : α) (f : α → Result β) : (.ok a : Result α) >>= f = f a := rfl

@[simp] theorem map_ok (f : α → β) (a : α) : Except.map f (.ok a : Result α) = .ok (f a) := rfl

@[simp] theorem string_str (s : String) : string (.str s) = .ok s := rfl

@[simp] theorem nullable_str (s : String) : nullable string (.str s) = .ok (some s) := rfl

@[simp] theorem int64_writtenRank (position : Nat) :
    int64 (.int (writtenRank position)) = .ok (writtenRank position) :=
  if_pos (writtenRank_bounds position)

@[simp] theorem uint64_toNat (n : UInt64) : uint64 (.int n.toNat) = .ok n := by
  have hn := n.toNat_lt
  rw [uint64, if_pos (by omega)]
  simp

@[simp] theorem require_some (name : String) (a : α) : require name (some a) = .ok a := rfl

@[simp] theorem field?_nil (key : String) (read : Json → Result α) :
    field? [] key read = .ok none := rfl

@[simp] theorem field?_cons_self (key : String) (v : Json) (fields : List (String × Json))
    (read : Json → Result α) : field? ((key, v) :: fields) key read = (read v).map some := by
  rw [field?, Json.lookup, if_pos rfl]

@[simp] theorem field?_cons_of_ne {key key' : String} (h : key' ≠ key) (v : Json)
    (fields : List (String × Json)) (read : Json → Result α) :
    field? ((key', v) :: fields) key read = field? fields key read := by
  rw [field?, Json.lookup, if_neg h, field?]

@[simp] theorem field?_insertFields (fields : List (String × Json)) (key : String)
    (read : Json → Result α) :
    field? (Json.insertFields [] fields) key read = field? fields.reverse key read := by
  rw [field?, Json.lookup_insertFields, Json.lookup, Option.or_none, field?]

/-- A list is read item by item. -/
theorem list_map {read : Json → Result β} {write : α → Json} {f : α → β}
    (h : ∀ a, read (write a) = .ok (f a)) :
    ∀ items : List α, list read (.arr (items.map write)) = .ok (items.map f)
  | [] => rfl
  | a :: r => by
    have hr : (r.map write).mapM read = .ok (r.map f) := list_map h r
    rw [list, List.map_cons, List.mapM_cons, h a, hr]
    rfl

end Shape

/-! ### Records -/

namespace Entry

theorem reverse_fields (e : Entry) :
    e.fields.reverse = e.queryFields.reverse ++
      [("content", .str e.content), ("position", .int (writtenRank e.position)),
        ("description", .str e.description), ("hits", .int e.hits.toNat),
        ("iconClass", .str e.iconClass), ("icon", .str e.icon), ("fileName", .str e.name),
        e.typeField] := by
  simp [fields]

/-- Only queries have a keyword and a rule among their fields. -/
theorem field?_queryFields {α : Type} {key : String} (e : Entry) (fields : List (String × Json))
    (read : Json → Shape.Result α) (h : key ≠ "prefix" ∧ key ≠ "transform") :
    Shape.field? (e.queryFields.reverse ++ fields) key read = Shape.field? fields key read := by
  unfold queryFields
  split
  · rfl
  · simp [Ne.symm h.1, Ne.symm h.2]

theorem lookup_type (e : Entry) :
    Json.lookup "type" (Json.insertFields [] e.fields) = some (.str e.type.name) := by
  rw [Json.lookup_insertFields, reverse_fields]
  cases h : e.kind with
  | link => simp [queryFields, typeField, h, Json.lookup]
  | query keyword rule => simp [queryFields, typeField, h, Json.lookup]

end Entry

namespace EntryRecord

/-- The record that is written for an entry. -/
def ofEntry (e : Entry) : EntryRecord where
  kind := e.kind
  content := e.content
  name := e.name
  icon := some e.icon
  iconClass := some e.iconClass
  hits := e.hits
  description := e.description
  rank := writtenRank e.position

theorem readType_name (type : EntryType) : readType (.str type.name) = .ok type := by
  cases type with
  | link => rfl
  | query => rfl

theorem readKind_fields (e : Entry) :
    readKind (Json.insertFields [] e.fields) e.type = .ok (e.kind, e.content) := by
  cases h : e.kind with
  | link => simp [readKind, Entry.type, EntryKind.type, Entry.reverse_fields, Entry.queryFields, h]
  | query keyword rule =>
    simp [readKind, readRuleField, Entry.type, EntryKind.type, Entry.reverse_fields,
      Entry.queryFields, h]
    rfl

theorem read_toJson (e : Entry) : read e.toJson = .ok (ofEntry e) := by
  rw [Entry.toJson, Json.ofFields_eq, read, readFields, Entry.lookup_type]
  simp [readType_name, readKind_fields, Entry.reverse_fields, Entry.field?_queryFields, ofEntry]

end EntryRecord

namespace FolderRecord

/-- The record that is written for a folder. -/
def ofFolder (f : Folder) : FolderRecord where
  name := f.name
  icon := some f.icon
  iconClass := some f.iconClass
  rank := writtenRank f.position
  entries := f.entries.map EntryRecord.ofEntry

theorem read_toJson (f : Folder) : read f.toJson = .ok (ofFolder f) := by
  rw [Folder.toJson, Json.ofFields_eq, read, readFields]
  simp [Folder.fields, Shape.list_map EntryRecord.read_toJson, ofFolder]

end FolderRecord

/-- A document that was written is always one that can be read. -/
theorem Store.ofJson_toJson (s : Store) :
    ofJson s.toJson = .ok (ofRecords (s.folders.map FolderRecord.ofFolder)) := by
  rw [toJson, ofJson, Shape.list_map FolderRecord.read_toJson]

/-! ### Records in order -/

/-- Positions that are too great for a rank come last, as they should. -/
theorem rankKey_writtenRank_le {p q : Nat} (hp : 0 < p) (h : p ≤ q) :
    rankKey (writtenRank p) ≤ rankKey (writtenRank q) := by
  unfold rankKey writtenRank
  split <;> split <;> omega

/-- What is numbered from 1 on is written in the order of its ranks. -/
theorem sortByRank_of_isNumbered {α β : Type} (rank : β → Int) (write : α → β) {position : α → Nat}
    {items : List α} (hrank : ∀ a, rank (write a) = writtenRank (position a))
    (h : Sequence.IsNumbered position items) :
    sortByRank rank (items.map write) = items.map write := by
  refine List.mergeSort_of_pairwise (List.pairwise_map.2 ?_)
  refine h.ascending.imp_of_mem fun {a b} ha _ hlt => ?_
  have hkey := rankKey_writtenRank_le (h.pos ha) (Nat.le_of_lt hlt)
  simpa [hrank] using hkey

/-! ### Entries and folders put together again -/

/-- An entry before it is put into a folder. -/
def Entry.unplaced (e : Entry) : Entry := { e with position := 0, parent := none }

/-- A folder before it is put into a store. -/
def Folder.unplaced (f : Folder) : Folder := f.setPosition 0

theorem Entry.IsRegular.ofRecord_ofEntry {e : Entry} (h : e.IsRegular) :
    Entry.ofRecord (.ofEntry e) = e.unplaced := by
  obtain ⟨name, kind, content, icon, iconClass, hits, description, position, parent⟩ := e
  have hname : Name.normalize name kind.extension = name := h.normalize_name
  cases kind with
  | link => simp [Entry.ofRecord, EntryRecord.ofEntry, Entry.unplaced, link, ofKind, hname]
  | query keyword rule =>
    have hkeyword : cleanKeyword keyword = keyword := cleanKeyword_of_not_mem h.keyword
    rw [EntryKind.extension] at hname
    simp [Entry.ofRecord, EntryRecord.ofEntry, Entry.unplaced, query, ofKind, setRule,
      EntryKind.extension, hname, hkeyword]

namespace Folder

/-- Of a sound folder, an entry comes back when it is added after those before it. -/
theorem IsSound.add?_unplaced {f : Folder} (h : f.IsSound) {before after : List Entry} {e : Entry}
    (hsplit : f.entries = before ++ e :: after) :
    Folder.add? { f with entries := before } e.unplaced = some { f with entries := before ++ [e] } := by
  have hparent : e.parent = some f.name := h.parents e (by simp [hsplit])
  have hfree : entry? { f with entries := before } e.name = none :=
    entry?_eq_none.2 (Sequence.key_ne_of_split h.names hsplit)
  have hback : { e.unplaced with position := before.length + 1, parent := some f.name } = e := by
    rw [← h.positions.position_eq hsplit, ← hparent]
    rfl
  rw [Folder.add?, if_neg (by simp [Entry.unplaced, hfree])]
  simp only [hback]

theorem IsSound.addAll_unplaced {f : Folder} (h : f.IsSound) : ∀ {after before : List Entry},
    f.entries = before ++ after →
      addAll { f with entries := before } (after.map Entry.unplaced) = f
  | [], before, hsplit => by
    rw [← List.append_nil before, ← hsplit]
    rfl
  | e :: after, before, hsplit => by
    have hnext : f.entries = (before ++ [e]) ++ after := by simp [hsplit]
    have hrest := h.addAll_unplaced hnext
    rw [List.map_cons, addAll, List.foldl_cons, h.add?_unplaced hsplit]
    exact hrest

theorem WellFormed.ofRecord_ofFolder {f : Folder} (h : f.WellFormed) :
    Folder.ofRecord (.ofFolder f) = f.unplaced := by
  have hsort := sortByRank_of_isNumbered EntryRecord.rank .ofEntry (fun _ => rfl) h.positions
  have hentries : (f.entries.map EntryRecord.ofEntry).map Entry.ofRecord =
      f.entries.map Entry.unplaced := by
    rw [List.map_map]
    exact List.map_congr_left fun e he => (h.regular e he).ofRecord_ofEntry
  have hback : f.unplaced.IsSound := ⟨h.names, h.positions, h.parents⟩
  rw [Folder.ofRecord, FolderRecord.ofFolder, hsort, hentries]
  exact hback.addAll_unplaced (List.nil_append _).symm

end Folder

namespace Store

theorem WellFormed.insert?_unplaced {s : Store} (h : s.WellFormed) {before after : List Folder}
    {f : Folder} (hsplit : s.folders = before ++ f :: after) :
    Store.insert? ⟨before⟩ f.unplaced = some ⟨before ++ [f]⟩ := by
  have hfree : folder? ⟨before⟩ f.name = none :=
    folder?_eq_none.2 (Sequence.key_ne_of_split h.names hsplit)
  have hback : f.unplaced.setPosition (before.length + 1) = f := by
    rw [← h.positions.position_eq hsplit]
    rfl
  rw [Store.insert?, if_neg (by simp [Folder.unplaced, Folder.setPosition, hfree])]
  simp only [hback]

theorem WellFormed.insertAll_unplaced {s : Store} (h : s.WellFormed) :
    ∀ {after before : List Folder}, s.folders = before ++ after →
      Store.insertAll ⟨before⟩ (after.map Folder.unplaced) = s
  | [], before, hsplit => by
    rw [← List.append_nil before, ← hsplit]
    rfl
  | f :: after, before, hsplit => by
    have hnext : s.folders = (before ++ [f]) ++ after := by simp [hsplit]
    have hrest := h.insertAll_unplaced hnext
    rw [List.map_cons, Store.insertAll, List.foldl_cons, h.insert?_unplaced hsplit]
    exact hrest

theorem WellFormed.ofRecords_ofFolder {s : Store} (h : s.WellFormed) :
    ofRecords (s.folders.map .ofFolder) = s := by
  have hsort := sortByRank_of_isNumbered FolderRecord.rank .ofFolder (fun _ => rfl) h.positions
  have hfolders : (s.folders.map FolderRecord.ofFolder).map Folder.ofRecord =
      s.folders.map Folder.unplaced := by
    rw [List.map_map]
    exact List.map_congr_left fun f hf => (h.folders f hf).ofRecord_ofFolder
  rw [ofRecords, hsort, hfolders]
  exact h.insertAll_unplaced (List.nil_append _).symm

theorem WellFormed.ofJson_toJson {s : Store} (h : s.WellFormed) : ofJson s.toJson = .ok s := by
  rw [Store.ofJson_toJson, h.ofRecords_ofFolder]

/-- The stores that come back from their documents just as they were, with every position and
    parent, are the well-formed ones and no others. -/
theorem ofJson_toJson_iff_wellFormed (s : Store) : ofJson s.toJson = .ok s ↔ s.WellFormed :=
  ⟨wellFormed_of_ofJson, WellFormed.ofJson_toJson⟩

end Store
end StartPage
