import StartPage.Proofs.Hits.Ledger
import StartPage.Proofs.Move.Cases
import StartPage.Proofs.Routes
import StartPage.Proofs.WellFormed.Session

/-!
    Paths lead to entries. The name of a folder is plain if it is not empty and has no slash. Commands
    give folders no other names, whatever words they get, so the path of an entry, cut at its
    first slash, leads back to the entry, and no two entries have the same path.

        mkdir sites tools/     mv tools/ pages/old     ──▶   sites, pages
        sites and a/b.lnk      ──▶   sites/a/b.lnk     ──▶   sites and a/b.lnk

    Names of entries may have slashes. -/

namespace StartPage

/-- A name that can stand before the first slash of a path. -/
structure Name.IsPlain (name : String) : Prop where
  nonempty : name ≠ ""
  slashless : '/' ∉ name.toList

instance (name : String) : Decidable (Name.IsPlain name) :=
  decidable_of_iff (name ≠ "" ∧ '/' ∉ name.toList)
    ⟨fun ⟨nonempty, slashless⟩ => ⟨nonempty, slashless⟩, fun h => ⟨h.nonempty, h.slashless⟩⟩

/-- The folder of a path is named by what stands before the first slash. -/
theorem Path.slashless_folder (text : String) : '/' ∉ (ofText text).folder.toList := by
  unfold ofText
  split
  · next hnone => exact Text.not_mem_of_cutAt?_eq_none hnone
  · next folder hcut => simpa using Text.not_mem_of_cutAt?_eq_some hcut
  · next folder c r hcut => simpa using Text.not_mem_of_cutAt?_eq_some hcut

namespace Store

/-- The names of all folders are plain. -/
def HasPlainNames (s : Store) : Prop := ∀ name ∈ s.folderNames, Name.IsPlain name

instance (s : Store) : Decidable s.HasPlainNames :=
  inferInstanceAs (Decidable (∀ name ∈ s.folderNames, Name.IsPlain name))

/-- The paths of all entries, in the order in which these are shown. -/
def paths (s : Store) : List String := s.flatten.map fun (folder, e) => Path.text folder e.name

/-- Every entry is the one that its path leads to, and no other entry has its path. -/
structure Addressable (s : Store) : Prop where
  plain : s.HasPlainNames
  found : ∀ f ∈ s.folders, ∀ e ∈ f.entries, s.entry? (Path.text f.name e.name) = some e
  distinct : s.paths.Nodup

theorem WellFormed.nodup_textPaths {s : Store} (h : s.WellFormed) (plain : s.HasPlainNames) :
    s.paths.Nodup := by
  have hread : s.paths.map Path.ofText =
      s.flatten.map fun (folder, e) => (ledgerLine folder e).1 := by
    rw [paths, List.map_map]
    refine List.map_congr_left fun line hmem => ?_
    obtain ⟨f, hf, hentries⟩ := List.mem_flatMap.1 hmem
    obtain ⟨_, he, rfl⟩ := List.mem_map.1 hentries
    have hname := plain f.name (List.mem_map_of_mem hf)
    exact Path.ofText_text hname.slashless ((h.folders f hf).regular _ he).named
  have hpaths : (s.flatten.map fun (folder, e) => (ledgerLine folder e).1).Nodup := by
    have hledger := h.nodup_paths
    rw [ledger, tally, Multiset.map_coe, Multiset.coe_nodup, List.map_map] at hledger
    exact hledger
  exact List.Nodup.of_map Path.ofText (hread ▸ hpaths)

/-- Where the names of the folders are plain, paths can be told apart and lead to their entries. -/
theorem WellFormed.addressable {s : Store} (h : s.WellFormed) (plain : s.HasPlainNames) :
    s.Addressable where
  plain := plain
  found f hf _ he := h.entry?_text hf he (plain f.name (List.mem_map_of_mem hf)).slashless
  distinct := h.nodup_textPaths plain

end Store

/-! ### Names that changes leave -/

namespace Folder

variable {f f' : Folder}

theorem name_add? {e : Entry} (h : f.add? e = some f') : f'.name = f.name := by
  obtain ⟨-, rfl⟩ := add?_eq_some h
  rfl

theorem name_take? {name : String} {e : Entry} (h : f.take? name = some (e, f')) :
    f'.name = f.name := by
  obtain ⟨_, -, -, rfl⟩ := take?_eq_some h
  rfl

theorem name_place {name : String} {rank : Int} (h : f.place name rank = .ok f') :
    f'.name = f.name := by
  obtain ⟨-, -, -, -, rfl⟩ := place_eq_ok h
  rfl

end Folder

namespace Store

/-- The folders of the second store have names of the first or plain ones. -/
def NamesPlainly (s s' : Store) : Prop :=
  ∀ name ∈ s'.folderNames, name ∈ s.folderNames ∨ Name.IsPlain name

section

variable {s s' s'' : Store}

theorem NamesPlainly.of_subset (h : s'.folderNames ⊆ s.folderNames) : s.NamesPlainly s' :=
  fun _ hname => .inl (h hname)

theorem NamesPlainly.of_eq (h : s'.folderNames = s.folderNames) : s.NamesPlainly s' :=
  fun _ hname => .inl (h ▸ hname)

theorem NamesPlainly.refl (s : Store) : s.NamesPlainly s := .of_eq rfl

theorem NamesPlainly.trans (h : s.NamesPlainly s') (h' : s'.NamesPlainly s'') :
    s.NamesPlainly s'' := fun name hname => (h' name hname).elim (h name) .inr

theorem HasPlainNames.of_namesPlainly (plain : s.HasPlainNames) (h : s.NamesPlainly s') :
    s'.HasPlainNames := fun name hname => (h name hname).elim (plain name) id

theorem folderNames_modifyFolder {name : String} {change : Folder → Folder}
    (same : ∀ f, s.folder? name = some f → (change f).name = f.name) :
    (s.modifyFolder name change).folderNames = s.folderNames := Sequence.map_modifyFirst same

theorem folderNames_setFolder {name : String} {f : Folder} (same : f.name = name) :
    (s.setFolder name f).folderNames = s.folderNames :=
  folderNames_modifyFolder fun _ hg => same.trans (folder?_eq_some hg).2.symm

theorem folderNames_modifyEntry (s : Store) (path : Path) (change : Entry → Entry) :
    (s.modifyEntry path change).folderNames = s.folderNames := by
  unfold modifyEntry
  split
  · rfl
  · exact folderNames_modifyFolder fun _ _ => rfl

/-- A folder that gets a plain name. -/
theorem namesPlainly_rename {name new : String} (h : Name.IsPlain new) :
    s.NamesPlainly (s.modifyFolder name (·.rename new)) := by
  intro given hgiven
  obtain ⟨f, hf, rfl⟩ := List.mem_map.1 hgiven
  rcases Sequence.mem_modifyFirst hf with hf | ⟨f₀, -, rfl⟩
  · exact .inl (List.mem_map_of_mem hf)
  · exact .inr h

theorem namesPlainly_addFolder? {name : String} (h : Name.IsPlain name)
    (hadd : s.addFolder? name = some s') : s.NamesPlainly s' := by
  obtain ⟨-, rfl⟩ := insert?_eq_some hadd
  intro given hgiven
  rw [folderNames, List.map_append, List.mem_append] at hgiven
  refine hgiven.imp_right fun hnew => ?_
  rw [List.mem_singleton.1 hnew]
  exact h

theorem namesPlainly_removeFolder? {name : String} (hremove : s.removeFolder? name = some s') :
    s.NamesPlainly s' := by
  refine .of_subset ?_
  rw [removeFolder?_eq_some hremove, folderNames_renumber]
  exact (List.filter_sublist.map _).subset

theorem namesPlainly_placeFolder {name : String} {rank : Int}
    (hplace : s.placeFolder name rank = .ok s') : s.NamesPlainly s' := by
  obtain ⟨-, fs, -, perm, rfl⟩ := placeFolder_eq_ok hplace
  refine .of_subset ?_
  rw [folderNames_renumber]
  exact (perm.map _).subset

end

end Store

/-! ### Commands -/

namespace Action

open Store (NamesPlainly)

variable {s : Store}

theorem namesPlainly_makeFolders (words : List String) (s : Store) :
    s.NamesPlainly (makeFolders words s).1 :=
  of_makeFolders (fun nonempty slashless hs hadd =>
    hs.trans (Store.namesPlainly_addFolder? ⟨nonempty, slashless⟩ hadd)) words (.refl s)

theorem namesPlainly_makeEntry (words : List String) (s : Store) :
    s.NamesPlainly (makeEntry words s).1 := by
  unfold makeEntry
  split
  · next s' path hmade =>
    obtain ⟨folderName, f, f', e, hf, -, -, hadd, rfl⟩ := madeEntry?_eq_some hmade
    exact .of_eq (Store.folderNames_setFolder
      ((Folder.name_add? hadd).trans (Store.folder?_eq_some hf).2))
  · exact .refl s

theorem namesPlainly_removeEntry? {s s' : Store} {path : String}
    (hremove : removeEntry? s path = some s') : s.NamesPlainly s' := by
  obtain ⟨name, f, e, f', -, hf, htake, rfl⟩ := removeEntry?_eq_some hremove
  exact .of_eq (Store.folderNames_setFolder
    ((Folder.name_take? htake).trans (Store.folder?_eq_some hf).2))

theorem namesPlainly_removeEntries (words : List String) (s : Store) :
    s.NamesPlainly (removeEntries words s).1 := by
  rw [store_removeEntries]
  exact of_removeAll (fun hs hremove => hs.trans <| namesPlainly_removeEntry? hremove) _ (.refl s)

theorem namesPlainly_removeFolders (words : List String) (s : Store) :
    s.NamesPlainly (removeFolders words s).1 := by
  rw [store_removeFolders]
  exact of_removeAll (fun hs hremove => hs.trans (Store.namesPlainly_removeFolder? hremove)) _
    (.refl s)

/-- The new name of a folder stands before the first slash of a path, and an empty one is refused. -/
theorem namesPlainly_moveFolder {dest : String} (slashless : '/' ∉ dest.toList) (source : String) :
    s.NamesPlainly (moveFolder s source dest).1 := by
  unfold moveFolder
  split
  · exact .refl s
  next hnonempty =>
  split
  · exact .refl s
  · exact Store.namesPlainly_rename ⟨by simpa using hnonempty, slashless⟩

/-- An entry that is moved leaves the names of folders alone. -/
theorem folderNames_moveEntry {source dest : String} {path target : Path} {f : Folder} {e : Entry}
    (named : path.entry? = some e.name) (found : s.folder? path.folder = some f)
    (entry : f.entry? e.name = some e) :
    (moveEntry s source dest f e target).1.folderNames = s.folderNames := by
  have hcases : RefusesMove s (moveEntry s source dest f e target) ∨
      MakesMove s path target (moveEntry s source dest f e target) :=
    moveEntry_cases named found entry
  rcases hcases with hrefused | hmade
  · rw [hrefused.store]
  have hmoves := hmade.moves
  generalize (moveEntry s source dest f e target).1 = s' at hmoves ⊢
  cases hmoves with
  | folder whole => cases named.symm.trans whole
  | within _ hf => exact Store.folderNames_setFolder (Store.folder?_eq_some hf).2
  | across _ hf _ _ hg taken added =>
    have hleft := (Folder.name_take? taken).trans (Store.folder?_eq_some hf).2
    have hfilled := (Folder.name_add? added).trans (Store.folder?_eq_some hg).2
    rw [Store.folderNames_setFolder hfilled, Store.folderNames_setFolder hleft]

theorem namesPlainly_move (words : List String) (s : Store) :
    s.NamesPlainly (move words s).1 := by
  unfold move
  split
  · next source dest =>
    dsimp only
    split
    · exact .refl s
    next f found =>
    split
    · exact namesPlainly_moveFolder (Path.slashless_folder dest) _
    · next name hname =>
      split
      · exact .refl s
      · next e entry =>
        obtain ⟨-, rfl⟩ := Folder.entry?_eq_some entry
        exact .of_eq (folderNames_moveEntry hname found entry)
  · exact .refl s

/-! ### Details -/

theorem namesPlainly_placeAt {s s' : Store} {path : String} {rank : Int}
    (hplace : placeAt s path rank = .ok s') : s.NamesPlainly s' := by
  obtain ⟨-, hfolder⟩ | ⟨name, f, f', -, hf, hentry, rfl⟩ := placeAt_eq_ok hplace
  · exact Store.namesPlainly_placeFolder hfolder
  · exact .of_eq (Store.folderNames_setFolder
      ((Folder.name_place hentry).trans (Store.folder?_eq_some hf).2))

theorem Adjusts.namesPlainly {s' : Store} (adjusts : Adjusts s s') : s.NamesPlainly s' := by
  cases adjusts with
  | same => exact .refl s
  | @entry path change => exact .of_eq (s.folderNames_modifyEntry path change)
  | icon => exact .of_eq (Store.folderNames_modifyFolder fun _ _ => rfl)
  | place hplace => exact namesPlainly_placeAt hplace

end Action

/-- No command gives a folder a name that is not plain. -/
theorem Command.namesPlainly_run (c : Command) (words : List String) (p : Page) :
    p.store.NamesPlainly (c.run words p).1.store := by
  cases c with
  | makeFolder => exact Action.namesPlainly_makeFolders words p.store
  | makeEntry => exact Action.namesPlainly_makeEntry words p.store
  | edit => exact (Action.adjusts_edit words p.store).namesPlainly
  | move => exact Action.namesPlainly_move words p.store
  | removeEntry => exact Action.namesPlainly_removeEntries words p.store
  | removeFolder => exact Action.namesPlainly_removeFolders words p.store
  | setPosition => exact (Action.adjusts_setPosition words p.store).namesPlainly
  | setRule => exact (Action.adjusts_setRule words p.store).namesPlainly
  | setDescription => exact (Action.adjusts_setDescription words p.store).namesPlainly
  | setIcon => exact (Action.adjusts_setIcon words p.store).namesPlainly
  | toggleCommands => exact .refl p.store
  | help => exact .refl p.store

/-! ### Sessions -/

namespace Page

theorem namesPlainly_execute (p : Page) (path : String) (words : List String) :
    p.store.NamesPlainly (p.execute path words).1.store := by
  unfold execute
  split
  · exact .refl p.store
  · exact .of_eq (p.store.folderNames_modifyEntry _ _)

theorem namesPlainly_fallBack (p : Page) (verb : String) (args : List String) :
    p.store.NamesPlainly (p.fallBack verb args).1.store := by
  unfold fallBack
  split
  · exact namesPlainly_execute p _ _
  split
  · exact namesPlainly_execute p _ _
  split
  · exact namesPlainly_execute p _ _
  · exact .refl p.store

theorem namesPlainly_runWords (p : Page) (verb : String) (args : List String) :
    p.store.NamesPlainly (p.runWords verb args).1.store := by
  unfold runWords
  split
  · next c _ => exact c.namesPlainly_run args p
  · exact namesPlainly_fallBack p verb args

end Page

/-- A line or the run of an entry, and not a page that is taken over from a text. -/
def Step.isInput : Step → Bool
  | .line _ | .execute _ _ => true
  | .restore _ | .reopen => false

namespace Session

theorem namesPlainly_step (s : Session) (access : Access) {step : Step} (h : step.isInput = true) :
    s.page.store.NamesPlainly (s.step access step).1.page.store := by
  cases step with
  | line text =>
    show s.page.store.NamesPlainly (s.dispatch access text).1.page.store
    unfold dispatch
    split
    · exact .refl s.page.store
    · exact Page.namesPlainly_runWords s.page _ _
  | execute path words => exact Page.namesPlainly_execute s.page path words
  | restore backup => cases h
  | reopen => cases h

/-- As long as no page is taken over from a text, a well-formed store whose folders have plain names
    keeps plain names, and every entry in it can be addressed by a path of its own. -/
theorem addressable_throughout {s : Session} (h : s.page.store.WellFormed)
    (plain : s.page.store.HasPlainNames) (steps : List (Access × Step))
    (inputs : ∀ step ∈ steps, step.2.isInput = true) :
    s.page.store.Addressable ∧ ∀ e ∈ s.run steps, e.after.page.store.Addressable := by
  refine ⟨h.addressable plain, fun e he => ?_⟩
  have hafter : e.after.page.store.WellFormed ∧ e.after.page.store.HasPlainNames :=
    of_mem_run_of (P := fun s => s.page.store.WellFormed ∧ s.page.store.HasPlainNames)
      (fun s access step hinput hs =>
        ⟨wellFormed_step s access step hs.1, hs.2.of_namesPlainly (namesPlainly_step s access hinput)⟩)
      ⟨h, plain⟩ inputs he
  exact hafter.1.addressable hafter.2

/-- An entry with a slash in its name. -/
def slashed : Session :=
  ofPage
    { store := ⟨[{ Folder.empty "sites" with
        position := 1
        entries :=
          [{ Entry.link "a/b" "http://[::1]/" with position := 1, parent := some "sites" }] }]⟩
      config := .initial }

theorem addressable_throughout_slashed :
    slashed.page.store.WellFormed ∧ slashed.page.store.HasPlainNames ∧
      (∀ e ∈ slashed.run
          [(.full, .line "mkdir new/ more// a/b"), (.full, .line "mkdir new/ more//"),
            (⟨false, true⟩, .line "mv sites/a/b.lnk new/c/d e"),
            (.full, .line "mv sites/a/b.lnk new/c/d"), (.full, .line "mv new/ old/z"),
            (.full, .line "touch sites/c/d x.org"), (.full, .execute "old/c/d.lnk" [])],
        e.after.page.store.Addressable) ∧
      (slashed.runTo
          [(.full, .line "mkdir new/ more//"), (.full, .line "mv sites/a/b.lnk new/c/d"),
            (.full, .line "mv new/ old/z"), (.full, .line "touch sites/c/d x.org")]).page.store.paths =
        ["sites/c/d.lnk", "old/c/d.lnk"] := by
  have hstore : slashed.page.store.WellFormed := by decide +kernel
  have hplain : slashed.page.store.HasPlainNames := by decide +kernel
  exact ⟨hstore, hplain, (addressable_throughout hstore hplain _ (by decide)).2, by decide +kernel⟩

end Session
end StartPage
