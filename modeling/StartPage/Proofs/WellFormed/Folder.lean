import StartPage.Folder
import StartPage.Proofs.Name
import StartPage.Proofs.Sequence

/-!
    Well-formed folders. The names of the entries are distinct, their positions count from 1, each
    knows its folder by name, and names and keywords follow the rules.

        sites  ┬  1  example.lnk    parent sites
               └  2  search.qry     parent sites, keyword without a colon

    Where names and keywords need not follow the rules, a folder is only sound. Every change to a
    folder keeps it sound, and keeps it well-formed. -/

namespace StartPage

/-! ### Entries by the rules -/

/-- The keyword of a query has no colon. -/
def EntryKind.IsClean : EntryKind → Prop
  | .link => True
  | .query keyword _ => ':' ∉ keyword.toList

instance : DecidablePred EntryKind.IsClean
  | .link => isTrue trivial
  | .query keyword _ => inferInstanceAs (Decidable (':' ∉ keyword.toList))

/-- An entry with a name and a keyword by the rules. -/
structure Entry.IsRegular (e : Entry) : Prop where
  ending : e.extension.toList <:+ e.name.toList
  spaceless : ' ' ∉ e.name.toList
  keyword : e.kind.IsClean

instance (e : Entry) : Decidable e.IsRegular :=
  decidable_of_iff (e.extension.toList <:+ e.name.toList ∧ ' ' ∉ e.name.toList ∧ e.kind.IsClean)
    ⟨fun ⟨ending, spaceless, keyword⟩ => ⟨ending, spaceless, keyword⟩,
      fun h => ⟨h.ending, h.spaceless, h.keyword⟩⟩

/-- What becomes of an entry that keeps its place and its folder. -/
structure Entry.KeepsPlace (e e' : Entry) : Prop where
  position : e'.position = e.position
  parent : e'.parent = e.parent
  regular : e.IsRegular → e'.IsRegular

/-- What becomes of an entry that also keeps its name. -/
structure Entry.StaysPut (e e' : Entry) : Prop extends e.KeepsPlace e' where
  name : e'.name = e.name

namespace Entry

theorem IsRegular.congr {e e' : Entry} (h : e.IsRegular) (name : e'.name = e.name)
    (kind : e'.kind = e.kind) : e'.IsRegular where
  ending := by
    rw [extension, kind, name]
    exact h.ending
  spaceless := by
    rw [name]
    exact h.spaceless
  keyword := by
    rw [kind]
    exact h.keyword

/-- The rules leave the name of such an entry alone. -/
theorem IsRegular.normalize_name {e : Entry} (h : e.IsRegular) :
    Name.normalize e.name e.extension = e.name :=
  Name.normalize_of_suffix h.ending h.spaceless

theorem not_mem_cleanKeyword (keyword : String) : ':' ∉ (cleanKeyword keyword).toList :=
  Text.not_mem_without ':' keyword

theorem cleanKeyword_of_not_mem {keyword : String} (h : ':' ∉ keyword.toList) :
    cleanKeyword keyword = keyword := Text.without_of_not_mem h

theorem isClean_query (keyword : String) (rule : Rule) :
    (EntryKind.query (cleanKeyword keyword) rule).IsClean := not_mem_cleanKeyword keyword

/-- A renamed entry has a name by the rules. -/
theorem isRegular_rename {e : Entry} (name : String) (keyword : e.kind.IsClean) :
    (e.rename name).IsRegular where
  ending := Name.suffix_normalize name e.extension
  spaceless := Name.not_mem_normalize e.kind.not_mem_extension name
  keyword := keyword

theorem isRegular_ofKind {kind : EntryKind} (name content : String) (keyword : kind.IsClean) :
    (ofKind kind name content).IsRegular where
  ending := Name.suffix_normalize name kind.extension
  spaceless := Name.not_mem_normalize kind.not_mem_extension name
  keyword := keyword

theorem isRegular_link (name content : String) : (link name content).IsRegular :=
  isRegular_ofKind name content trivial

theorem isRegular_query (name keyword content : String) : (query name keyword content).IsRegular :=
  isRegular_ofKind name content (isClean_query keyword Rule.none)

/-! ### Changes of one entry -/

theorem StaysPut.refl (e : Entry) : e.StaysPut e := ⟨⟨rfl, rfl, id⟩, rfl⟩

theorem staysPut_setIcon (e : Entry) (icon : String) (iconClass : Option String) :
    e.StaysPut (e.setIcon icon iconClass) := ⟨⟨rfl, rfl, fun h => h.congr rfl rfl⟩, rfl⟩

theorem staysPut_describe (e : Entry) (text : String) :
    e.StaysPut { e with description := text } := ⟨⟨rfl, rfl, fun h => h.congr rfl rfl⟩, rfl⟩

/-- A change of the keyword must leave it without colons. -/
theorem IsRegular.setKind {e : Entry} {keyword keyword' content : String} {rule rule' : Rule}
    (h : e.IsRegular) (kind : e.kind = .query keyword rule) (clean : ':' ∉ keyword'.toList) :
    IsRegular { e with kind := .query keyword' rule', content := content } where
  ending := by
    have hending := h.ending
    rw [extension, kind] at hending
    exact hending
  spaceless := h.spaceless
  keyword := clean

theorem IsRegular.not_mem_keyword {e : Entry} {keyword : String} {rule : Rule} (h : e.IsRegular)
    (kind : e.kind = .query keyword rule) : ':' ∉ keyword.toList := by
  have hclean := h.keyword
  rw [kind] at hclean
  exact hclean

theorem staysPut_edit (e : Entry) (values : List String) : e.StaysPut (e.edit values) := by
  unfold edit
  split
  · exact ⟨⟨rfl, rfl, fun h => h.congr rfl rfl⟩, rfl⟩
  · next keyword rule hkind =>
    refine ⟨⟨rfl, rfl, fun h => h.setKind hkind ?_⟩, rfl⟩
    cases fresh? values[0]? with
    | none => exact h.not_mem_keyword hkind
    | some keyword' => exact not_mem_cleanKeyword keyword'

theorem staysPut_setRule (e : Entry) (rule : Rule) : e.StaysPut (e.setRule rule) := by
  unfold setRule
  split
  · exact .refl e
  · next keyword _ hkind =>
    exact ⟨⟨rfl, rfl, fun h => h.setKind hkind (h.not_mem_keyword hkind)⟩, rfl⟩

theorem hits_edit (e : Entry) (values : List String) : (e.edit values).hits = e.hits := by
  unfold edit
  split
  · rfl
  · rfl

theorem hits_setRule (e : Entry) (rule : Rule) : (e.setRule rule).hits = e.hits := by
  unfold setRule
  split
  · rfl
  · rfl

/-- Running an entry changes at most the number of its hits. -/
theorem staysPut_execute (e : Entry) (words : List String) : e.StaysPut (e.execute words).1 := by
  unfold execute
  split
  · exact .refl e
  · exact .refl e
  · split
    · exact .refl e
    · exact ⟨⟨rfl, rfl, fun h => h.congr rfl rfl⟩, rfl⟩

end Entry

/-! ### Folders -/

/-- A folder whose entries have distinct names, are numbered from 1 on, and know the folder. -/
structure Folder.IsSound (f : Folder) : Prop where
  names : (f.entries.map (·.name)).Nodup
  positions : Sequence.IsNumbered Entry.position f.entries
  parents : ∀ e ∈ f.entries, e.parent = some f.name

/-- A sound folder with names and keywords by the rules. -/
structure Folder.WellFormed (f : Folder) : Prop extends f.IsSound where
  regular : ∀ e ∈ f.entries, e.IsRegular

namespace Folder

instance (f : Folder) : Decidable f.IsSound :=
  decidable_of_iff ((f.entries.map (·.name)).Nodup ∧
      Sequence.IsNumbered Entry.position f.entries ∧
      ∀ e ∈ f.entries, e.parent = some f.name)
    ⟨fun ⟨names, positions, parents⟩ => ⟨names, positions, parents⟩,
      fun h => ⟨h.names, h.positions, h.parents⟩⟩

instance (f : Folder) : Decidable f.WellFormed :=
  decidable_of_iff (f.IsSound ∧ ∀ e ∈ f.entries, e.IsRegular)
    ⟨fun ⟨sound, regular⟩ => ⟨sound, regular⟩, fun h => ⟨h.toIsSound, h.regular⟩⟩

theorem entry?_eq_some {f : Folder} {name : String} {e : Entry} (h : f.entry? name = some e) :
    e ∈ f.entries ∧ e.name = name :=
  ⟨List.mem_of_find?_eq_some h, by simpa using List.find?_some h⟩

theorem entry?_eq_none {f : Folder} {name : String} :
    f.entry? name = none ↔ ∀ e ∈ f.entries, e.name ≠ name :=
  List.find?_eq_none.trans (by simp)

theorem renumber_eq_mapIdx (f : Folder) (es : List Entry) :
    f.renumber es = { f with entries := es.mapIdx fun i e => { e with position := i + 1 } } := by
  rw [renumber, Sequence.number_eq_mapIdx]
  simp only [Entry.setPosition, Nat.add_comm 1]

/-- Numbering makes up for entries that went away or changed places. -/
theorem IsSound.renumber {f : Folder} {es : List Entry} (h : f.IsSound)
    (names : (es.map (·.name)).Nodup) (sub : ∀ e ∈ es, e ∈ f.entries) :
    (f.renumber es).IsSound := by
  refine ⟨?_, Sequence.isNumbered_number (fun _ _ => rfl) es, ?_⟩
  · have kept : (f.renumber es).entries.map (·.name) = es.map (·.name) :=
      Sequence.map_number Entry.setPosition (fun _ _ => rfl) 1 es
    rw [kept]
    exact names
  · intro e he
    obtain ⟨e₀, he₀, _, rfl⟩ := Sequence.mem_number he
    exact h.parents e₀ (sub e₀ he₀)

theorem WellFormed.renumber {f : Folder} {es : List Entry} (h : f.WellFormed)
    (names : (es.map (·.name)).Nodup) (sub : ∀ e ∈ es, e ∈ f.entries) :
    (f.renumber es).WellFormed := by
  refine ⟨h.toIsSound.renumber names sub, fun e he => ?_⟩
  obtain ⟨e₀, he₀, _, rfl⟩ := Sequence.mem_number he
  exact (h.regular e₀ (sub e₀ he₀)).congr rfl rfl

/-! ### Changes -/

theorem wellFormed_empty (name : String) : (empty name).WellFormed where
  names := List.nodup_nil
  positions := rfl
  parents := nofun
  regular := nofun

theorem add?_eq_some {f f' : Folder} {e : Entry} (h : f.add? e = some f') :
    (∀ e' ∈ f.entries, e'.name ≠ e.name) ∧
      f' = { f with entries := f.entries ++
        [{ e with position := f.entries.length + 1, parent := some f.name }] } := by
  unfold add? at h
  split at h
  · cases h
  · next hnone =>
    exact ⟨entry?_eq_none.1 (by simpa using hnone), (Option.some.inj h).symm⟩

theorem IsSound.add? {f f' : Folder} {e : Entry} (h : f.IsSound) (hadd : f.add? e = some f') :
    f'.IsSound := by
  obtain ⟨free, rfl⟩ := add?_eq_some hadd
  refine ⟨Sequence.nodup_map_concat h.names free, h.positions.concat rfl, fun e' he' => ?_⟩
  rcases List.mem_append.1 he' with he' | he'
  · exact h.parents e' he'
  · rw [List.mem_singleton.1 he']

theorem WellFormed.add? {f f' : Folder} {e : Entry} (h : f.WellFormed) (he : e.IsRegular)
    (hadd : f.add? e = some f') : f'.WellFormed := by
  refine ⟨h.toIsSound.add? hadd, fun e' he' => ?_⟩
  obtain ⟨-, rfl⟩ := add?_eq_some hadd
  rcases List.mem_append.1 he' with he' | he'
  · exact h.regular e' he'
  · rw [List.mem_singleton.1 he']
    exact he.congr rfl rfl

/-- Folders and their entries stay as they are where a name is taken. -/
theorem WellFormed.addAll : ∀ {es : List Entry} {f : Folder}, f.WellFormed →
    (∀ e ∈ es, e.IsRegular) → (f.addAll es).WellFormed
  | [], _, h, _ => h
  | e :: es, f, h, hes => by
    have hstep : ((f.add? e).getD f).WellFormed := by
      cases hadd : f.add? e with
      | none => exact h
      | some f' => exact h.add? (hes e List.mem_cons_self) hadd
    exact hstep.addAll fun e' he' => hes e' (List.mem_cons_of_mem e he')

theorem take?_of_entry? {f : Folder} {name : String} {e : Entry} (h : f.entry? name = some e) :
    f.take? name = some ({ e with parent := none },
      f.renumber (f.entries.eraseP (·.name == name))) := by
  rw [Folder.take?, h]
  rfl

theorem take?_eq_some {f f' : Folder} {name : String} {e : Entry}
    (h : f.take? name = some (e, f')) :
    ∃ e₀, f.entry? name = some e₀ ∧ e = { e₀ with parent := none } ∧
      f' = f.renumber (f.entries.eraseP (·.name == name)) := by
  obtain ⟨e₀, he₀, heq⟩ := Option.bind_eq_some_iff.1 h
  cases heq
  exact ⟨e₀, he₀, rfl, rfl⟩

theorem IsSound.take? {f f' : Folder} {name : String} {e : Entry} (h : f.IsSound)
    (htake : f.take? name = some (e, f')) : f'.IsSound := by
  obtain ⟨e₀, -, -, rfl⟩ := take?_eq_some htake
  have sub : (f.entries.eraseP (·.name == name)).Sublist f.entries := List.eraseP_sublist
  exact h.renumber (h.names.sublist (sub.map _)) fun e he => sub.mem he

theorem WellFormed.take? {f f' : Folder} {name : String} {e : Entry} (h : f.WellFormed)
    (htake : f.take? name = some (e, f')) : e.IsRegular ∧ f'.WellFormed := by
  obtain ⟨e₀, he₀, rfl, rfl⟩ := take?_eq_some htake
  have sub : (f.entries.eraseP (·.name == name)).Sublist f.entries := List.eraseP_sublist
  exact ⟨(h.regular e₀ (entry?_eq_some he₀).1).congr rfl rfl,
    h.renumber (h.names.sublist (sub.map _)) fun e he => sub.mem he⟩

/-- The name that a changed entry gets must be its old one or nobody's. -/
theorem IsSound.modify {f : Folder} {name : String} {change : Entry → Entry} (h : f.IsSound)
    (kept : ∀ e, f.entry? name = some e →
      (change e).position = e.position ∧ (change e).parent = e.parent ∧
        ∀ e' ∈ f.entries, e'.name = (change e).name → e'.name = e.name) :
    (f.modify name change).IsSound := by
  refine ⟨?_, h.positions.modifyFirst fun e he => (kept e he).1, fun e he => ?_⟩
  · exact Sequence.nodup_map_modifyFirst h.names fun e he => (kept e he).2.2
  · rcases Sequence.mem_modifyFirst he with he | ⟨e₀, he₀, rfl⟩
    · exact h.parents e he
    · exact (kept e₀ he₀).2.1.trans (h.parents e₀ (entry?_eq_some he₀).1)

theorem WellFormed.modify {f : Folder} {name : String} {change : Entry → Entry} (h : f.WellFormed)
    (kept : ∀ e, f.entry? name = some e → e.KeepsPlace (change e) ∧
      ∀ e' ∈ f.entries, e'.name = (change e).name → e'.name = e.name) :
    (f.modify name change).WellFormed := by
  refine ⟨h.toIsSound.modify fun e he => ?_, fun e he => ?_⟩
  · exact ⟨(kept e he).1.position, (kept e he).1.parent, (kept e he).2⟩
  · rcases Sequence.mem_modifyFirst he with he | ⟨e₀, he₀, rfl⟩
    · exact h.regular e he
    · exact (kept e₀ he₀).1.regular (h.regular e₀ (entry?_eq_some he₀).1)

theorem place_eq_ok {f f' : Folder} {name : String} {rank : Int} (h : f.place name rank = .ok f') :
    ∃ e es, f.entry? name = some e ∧ es.Perm f.entries ∧ f' = f.renumber es := by
  unfold Folder.place at h
  split at h
  · cases h
  · next i hi =>
    cases h
    obtain ⟨e, he⟩ := Sequence.exists_of_findIdx? hi
    exact ⟨e, _, he, Sequence.reposition_perm f.entries i rank, rfl⟩

theorem IsSound.place {f f' : Folder} {name : String} {rank : Int} (h : f.IsSound)
    (hplace : f.place name rank = .ok f') : f'.IsSound := by
  obtain ⟨-, es, -, perm, rfl⟩ := place_eq_ok hplace
  exact h.renumber ((perm.map _).nodup_iff.2 h.names) fun e he => perm.mem_iff.1 he

theorem WellFormed.place {f f' : Folder} {name : String} {rank : Int} (h : f.WellFormed)
    (hplace : f.place name rank = .ok f') : f'.WellFormed := by
  obtain ⟨-, es, -, perm, rfl⟩ := place_eq_ok hplace
  exact h.renumber ((perm.map _).nodup_iff.2 h.names) fun e he => perm.mem_iff.1 he

theorem renameEntry_eq_ok {f f' : Folder} {name new given : String}
    (h : f.renameEntry name new = .ok (given, f')) :
    ∃ e, f.entry? name = some e ∧ given = (e.rename new).name ∧ f' = f.modify name (·.rename new) ∧
      (given = name ∨ ∀ e' ∈ f.entries, e'.name ≠ given) := by
  unfold renameEntry at h
  split at h
  · cases h
  · next e he =>
    dsimp only at h
    split at h
    · cases h
    · next hfree =>
      cases h
      refine ⟨e, he, rfl, rfl, ?_⟩
      rcases not_and_or.1 hfree with hsame | hnone
      · exact .inl (not_not.1 hsame)
      · exact .inr (entry?_eq_none.1 (by simpa using hnone))

/-- No other entry has the name that a renamed one gets. -/
theorem only_renamed {f f' : Folder} {name new given : String}
    (h : f.renameEntry name new = .ok (given, f')) {e : Entry} (he : f.entry? name = some e)
    {e' : Entry} (he' : e' ∈ f.entries) (heq : e'.name = (e.rename new).name) :
    e'.name = e.name := by
  obtain ⟨e₀, he₀, rfl, -, free⟩ := renameEntry_eq_ok h
  cases Option.some.inj (he₀.symm.trans he)
  rcases free with hsame | hnone
  · exact heq.trans (hsame.trans (entry?_eq_some he).2.symm)
  · exact absurd heq (hnone e' he')

theorem IsSound.renameEntry {f f' : Folder} {name new given : String} (h : f.IsSound)
    (hrename : f.renameEntry name new = .ok (given, f')) : f'.IsSound := by
  obtain ⟨-, -, -, rfl, -⟩ := renameEntry_eq_ok hrename
  exact h.modify fun e he => ⟨rfl, rfl, fun e' => only_renamed hrename he⟩

theorem WellFormed.renameEntry {f f' : Folder} {name new given : String} (h : f.WellFormed)
    (hrename : f.renameEntry name new = .ok (given, f')) : f'.WellFormed := by
  obtain ⟨-, -, -, rfl, -⟩ := renameEntry_eq_ok hrename
  refine h.modify fun e he => ⟨⟨rfl, rfl, fun he => ?_⟩, fun e' => only_renamed hrename he⟩
  exact Entry.isRegular_rename new he.keyword

theorem IsSound.rename {f : Folder} (h : f.IsSound) (name : String) : (f.rename name).IsSound := by
  refine ⟨?_, h.positions.map fun _ => rfl, fun e he => ?_⟩
  · rw [Folder.rename, List.map_map]
    exact h.names
  · obtain ⟨e₀, -, rfl⟩ := List.mem_map.1 he
    rfl

theorem WellFormed.rename {f : Folder} (h : f.WellFormed) (name : String) :
    (f.rename name).WellFormed := by
  refine ⟨h.toIsSound.rename name, fun e he => ?_⟩
  obtain ⟨e₀, he₀, rfl⟩ := List.mem_map.1 he
  exact (h.regular e₀ he₀).congr rfl rfl

/-- The place of the folder itself does not matter. -/
theorem IsSound.setPosition {f : Folder} (h : f.IsSound) (position : Nat) :
    (f.setPosition position).IsSound := ⟨h.names, h.positions, h.parents⟩

theorem WellFormed.setPosition {f : Folder} (h : f.WellFormed) (position : Nat) :
    (f.setPosition position).WellFormed := ⟨h.toIsSound.setPosition position, h.regular⟩

theorem IsSound.setIcon {f : Folder} (h : f.IsSound) (icon : String) (iconClass : Option String) :
    (f.setIcon icon iconClass).IsSound := ⟨h.names, h.positions, h.parents⟩

theorem WellFormed.setIcon {f : Folder} (h : f.WellFormed) (icon : String)
    (iconClass : Option String) : (f.setIcon icon iconClass).WellFormed :=
  ⟨h.toIsSound.setIcon icon iconClass, h.regular⟩

end Folder
end StartPage
