import StartPage.Proofs.Json.Reading
import StartPage.Store.Document

/-!
    What records are read from. Every field of a record is what the value under its key is read as,
    or what it is by default where there is none.

        {"name": "a", "icon": null}   ──▶   name a, no icon, rank 0, no entries

    Which fault is found first depends on the order in which fields are read; what is read where
    there is no fault does not. -/

namespace StartPage

/-! ### Entries -/

namespace EntryRecord

variable {fields : List (String × Json)} {r : EntryRecord}

/-- Reads the type of an entry from its fields. -/
def readTag (fields : List (String × Json)) : Shape.Result EntryType :=
  Shape.require "type" (Json.lookup "type" fields) >>= readType

/-- What an entry has under its keys is read as the fields of the record. -/
structure IsReadFrom (fields : List (String × Json)) (r : EntryRecord) : Prop where
  type : readTag fields = .ok r.kind.type
  content : Shape.field? fields "content" Shape.string = .ok (some r.content)
  query : ∀ keyword rule, r.kind = .query keyword rule →
    Shape.field? fields "prefix" Shape.string = .ok (some keyword) ∧ readRuleField fields = .ok rule
  description : (Shape.field? fields "description" Shape.string).map (·.getD "") = .ok r.description
  name : Shape.field? fields "fileName" Shape.string = .ok (some r.name)
  hits : (Shape.field? fields "hits" Shape.uint64).map (·.getD 0) = .ok r.hits
  icon : (Shape.field? fields "icon" (Shape.nullable Shape.string)).map Option.join = .ok r.icon
  iconClass :
    (Shape.field? fields "iconClass" (Shape.nullable Shape.string)).map Option.join = .ok r.iconClass
  rank : (Shape.field? fields "position" Shape.int64).map (·.getD 0) = .ok r.rank

theorem readKind_eq_ok {type : EntryType} {kind : EntryKind} {content : String} :
    readKind fields type = .ok (kind, content) ↔
      kind.type = type ∧ Shape.field? fields "content" Shape.string = .ok (some content) ∧
      ∀ keyword rule, kind = .query keyword rule →
        Shape.field? fields "prefix" Shape.string = .ok (some keyword) ∧
          readRuleField fields = .ok rule := by
  constructor
  · intro h
    cases type with
    | link =>
      obtain ⟨c, hcontent, h⟩ := Shape.bind_eq_ok.1 h
      obtain ⟨c', hc, h⟩ := Shape.bind_eq_ok.1 h
      obtain rfl := Shape.require_eq_ok.1 hc
      cases h
      exact ⟨rfl, hcontent, nofun⟩
    | query =>
      obtain ⟨c, hcontent, h⟩ := Shape.bind_eq_ok.1 h
      obtain ⟨k, hkeyword, h⟩ := Shape.bind_eq_ok.1 h
      obtain ⟨rule, hrule, h⟩ := Shape.bind_eq_ok.1 h
      obtain ⟨c', hc, h⟩ := Shape.bind_eq_ok.1 h
      obtain ⟨k', hk, h⟩ := Shape.bind_eq_ok.1 h
      obtain rfl := Shape.require_eq_ok.1 hc
      obtain rfl := Shape.require_eq_ok.1 hk
      cases h
      exact ⟨rfl, hcontent, fun _ _ hkind => by cases hkind; exact ⟨hkeyword, hrule⟩⟩
  · rintro ⟨rfl, hcontent, hquery⟩
    cases kind with
    | link => exact Shape.bind_eq_ok.2 ⟨_, hcontent, rfl⟩
    | query keyword rule =>
      obtain ⟨hkeyword, hrule⟩ := hquery keyword rule rfl
      exact Shape.bind_eq_ok.2 ⟨_, hcontent, Shape.bind_eq_ok.2 ⟨_, hkeyword,
        Shape.bind_eq_ok.2 ⟨_, hrule, rfl⟩⟩⟩

/-- An entry is read just if each of its fields is. -/
theorem readFields_eq_ok : readFields fields = .ok r ↔ IsReadFrom fields r := by
  constructor
  · intro h
    obtain ⟨t, ht, h⟩ := Shape.bind_eq_ok.1 h
    obtain ⟨type, htype, h⟩ := Shape.bind_eq_ok.1 h
    obtain ⟨⟨kind, content⟩, hkind, h⟩ := Shape.bind_eq_ok.1 h
    obtain ⟨description, hdescription, h⟩ := Shape.bind_eq_ok.1 h
    obtain ⟨name, hname, h⟩ := Shape.bind_eq_ok.1 h
    obtain ⟨hits, hhits, h⟩ := Shape.bind_eq_ok.1 h
    obtain ⟨icon, hicon, h⟩ := Shape.bind_eq_ok.1 h
    obtain ⟨iconClass, hiconClass, h⟩ := Shape.bind_eq_ok.1 h
    obtain ⟨rank, hrank, h⟩ := Shape.bind_eq_ok.1 h
    obtain ⟨name', hname', h⟩ := Shape.bind_eq_ok.1 h
    obtain rfl := Shape.require_eq_ok.1 hname'
    obtain rfl := Except.ok.inj h
    obtain ⟨rfl, hcontent, hquery⟩ := readKind_eq_ok.1 hkind
    exact
      { type := Shape.bind_eq_ok.2 ⟨t, ht, htype⟩
        content := hcontent
        query := hquery
        description := Shape.map_eq_ok.2 ⟨_, hdescription, rfl⟩
        name := hname
        hits := Shape.map_eq_ok.2 ⟨_, hhits, rfl⟩
        icon := Shape.map_eq_ok.2 ⟨_, hicon, rfl⟩
        iconClass := Shape.map_eq_ok.2 ⟨_, hiconClass, rfl⟩
        rank := Shape.map_eq_ok.2 ⟨_, hrank, rfl⟩ }
  · -- what each field is read as is put in one after the other, in the order of the reader
    rintro ⟨htag, hcontent, hquery, hdescription, hname, hhits, hicon, hiconClass, hrank⟩
    obtain ⟨t, ht, htype⟩ := Shape.bind_eq_ok.1 htag
    have hkind := readKind_eq_ok.2 ⟨rfl, hcontent, hquery⟩
    obtain ⟨description, hdescription, hd⟩ := Shape.map_eq_ok.1 hdescription
    obtain ⟨hits, hhits, hh⟩ := Shape.map_eq_ok.1 hhits
    obtain ⟨icon, hicon, hi⟩ := Shape.map_eq_ok.1 hicon
    obtain ⟨iconClass, hiconClass, hc⟩ := Shape.map_eq_ok.1 hiconClass
    obtain ⟨rank, hrank, hr⟩ := Shape.map_eq_ok.1 hrank
    rw [readFields, ht]
    refine Shape.bind_eq_ok.2 ⟨t, rfl, ?_⟩
    rw [htype]
    refine Shape.bind_eq_ok.2 ⟨_, rfl, ?_⟩
    rw [hkind, hdescription, hname, hhits, hicon, hiconClass, hrank]
    obtain ⟨kind, content, name, icon', iconClass', hits', description', rank'⟩ := r
    subst hd hh hi hc hr
    rfl

end EntryRecord

/-! ### Folders -/

namespace FolderRecord

variable {fields : List (String × Json)} {items : List Json} {r : FolderRecord}

/-- The values, of which some may be missing, are read as the fields of the record. -/
structure IsReadFrom (name icon iconClass rank files : Option Json) (r : FolderRecord) : Prop where
  name : name.mapM Shape.string = .ok (some r.name)
  icon : (icon.mapM (Shape.nullable Shape.string)).map Option.join = .ok r.icon
  iconClass : (iconClass.mapM (Shape.nullable Shape.string)).map Option.join = .ok r.iconClass
  rank : (rank.mapM Shape.int64).map (·.getD 0) = .ok r.rank
  entries : (files.mapM (Shape.list EntryRecord.read)).map (·.getD []) = .ok r.entries

/-- A folder is read from the values under its keys. -/
theorem readFields_eq_ok : readFields fields = .ok r ↔
    IsReadFrom (Json.lookup "name" fields) (Json.lookup "icon" fields)
      (Json.lookup "iconClass" fields) (Json.lookup "position" fields)
      (Json.lookup "files" fields) r := by
  simp only [readFields, Shape.field?_eq_mapM]
  constructor
  · intro h
    obtain ⟨entries, hentries, h⟩ := Shape.bind_eq_ok.1 h
    obtain ⟨icon, hicon, h⟩ := Shape.bind_eq_ok.1 h
    obtain ⟨iconClass, hiconClass, h⟩ := Shape.bind_eq_ok.1 h
    obtain ⟨name, hname, h⟩ := Shape.bind_eq_ok.1 h
    obtain ⟨rank, hrank, h⟩ := Shape.bind_eq_ok.1 h
    obtain ⟨name', hname', h⟩ := Shape.bind_eq_ok.1 h
    obtain rfl := Shape.require_eq_ok.1 hname'
    obtain rfl := Except.ok.inj h
    exact ⟨hname, Shape.map_eq_ok.2 ⟨_, hicon, rfl⟩, Shape.map_eq_ok.2 ⟨_, hiconClass, rfl⟩,
      Shape.map_eq_ok.2 ⟨_, hrank, rfl⟩, Shape.map_eq_ok.2 ⟨_, hentries, rfl⟩⟩
  · rintro ⟨hname, hicon, hiconClass, hrank, hentries⟩
    obtain ⟨icon, hicon, hi⟩ := Shape.map_eq_ok.1 hicon
    obtain ⟨iconClass, hiconClass, hc⟩ := Shape.map_eq_ok.1 hiconClass
    obtain ⟨rank, hrank, hr⟩ := Shape.map_eq_ok.1 hrank
    obtain ⟨entries, hentries, he⟩ := Shape.map_eq_ok.1 hentries
    rw [hname, hicon, hiconClass, hrank, hentries]
    obtain ⟨name, icon', iconClass', rank', entries'⟩ := r
    subst hi hc hr he
    rfl

/-- The same from a list, in which values have places instead of keys. -/
theorem readItems_eq_ok : readItems items = .ok r ↔
    items.length ≤ 5 ∧ IsReadFrom items[0]? items[1]? items[2]? items[3]? items[4]? r := by
  cases items with
  | nil =>
    refine ⟨nofun, fun ⟨_, h⟩ => ?_⟩
    cases h.name
  | cons first rest =>
    simp only [readItems, List.getElem?_cons_zero, List.getElem?_cons_succ, List.length_cons]
    constructor
    · intro h
      obtain ⟨name, hname, h⟩ := Shape.bind_eq_ok.1 h
      obtain ⟨icon, hicon, h⟩ := Shape.bind_eq_ok.1 h
      obtain ⟨iconClass, hiconClass, h⟩ := Shape.bind_eq_ok.1 h
      obtain ⟨rank, hrank, h⟩ := Shape.bind_eq_ok.1 h
      obtain ⟨entries, hentries, h⟩ := Shape.bind_eq_ok.1 h
      obtain ⟨_, hend, h⟩ := Shape.bind_eq_ok.1 h
      obtain rfl := Except.ok.inj h
      have hlength := List.drop_eq_nil_iff.1 (Shape.atEnd_eq_ok.1 hend)
      exact ⟨by omega, Shape.map_eq_ok.2 ⟨_, hname, rfl⟩, Shape.map_eq_ok.2 ⟨_, hicon, rfl⟩,
        Shape.map_eq_ok.2 ⟨_, hiconClass, rfl⟩, Shape.map_eq_ok.2 ⟨_, hrank, rfl⟩,
        Shape.map_eq_ok.2 ⟨_, hentries, rfl⟩⟩
    · rintro ⟨hlength, hname, hicon, hiconClass, hrank, hentries⟩
      have hend : Shape.atEnd (rest.length + 1) (rest.drop 4) = .ok () :=
        Shape.atEnd_eq_ok.2 (List.drop_eq_nil_iff.2 (by omega))
      obtain ⟨name, hname, hn⟩ := Shape.map_eq_ok.1 hname
      obtain ⟨icon, hicon, hi⟩ := Shape.map_eq_ok.1 hicon
      obtain ⟨iconClass, hiconClass, hc⟩ := Shape.map_eq_ok.1 hiconClass
      obtain ⟨rank, hrank, hr⟩ := Shape.map_eq_ok.1 hrank
      obtain ⟨entries, hentries, he⟩ := Shape.map_eq_ok.1 hentries
      rw [hname, hicon, hiconClass, hrank, hentries, hend]
      obtain ⟨name', icon', iconClass', rank', entries'⟩ := r
      obtain rfl := Option.some.inj hn
      subst hi hc hr he
      rfl

end FolderRecord
end StartPage
