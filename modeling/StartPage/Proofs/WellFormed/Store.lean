import StartPage.Proofs.WellFormed.Folder
import StartPage.Store.Basic

/-!
    Well-formed stores. The names of the folders are distinct, their positions count from 1, and
    every folder is well-formed. Every change to a store keeps it well-formed; a folder that is
    changed in its place may get a new name, but none that another folder has. -/

namespace StartPage

structure Store.WellFormed (s : Store) : Prop where
  names : s.folderNames.Nodup
  positions : Sequence.IsNumbered Folder.position s.folders
  folders : ∀ f ∈ s.folders, f.WellFormed

/-- The folders of a store are numbered from 1 on, and each of them has a property. -/
structure Store.ListsOnly (s : Store) (P : Folder → Prop) : Prop where
  positions : Sequence.IsNumbered Folder.position s.folders
  folders : ∀ f ∈ s.folders, P f

namespace Store

theorem WellFormed.listsOnly {s : Store} (h : s.WellFormed) : s.ListsOnly Folder.WellFormed :=
  ⟨h.positions, h.folders⟩

theorem ListsOnly.wellFormed {s : Store} (h : s.ListsOnly Folder.WellFormed)
    (names : s.folderNames.Nodup) : s.WellFormed := ⟨names, h.positions, h.folders⟩

instance (s : Store) : Decidable s.WellFormed :=
  decidable_of_iff (s.folderNames.Nodup ∧
      Sequence.IsNumbered Folder.position s.folders ∧ ∀ f ∈ s.folders, f.WellFormed)
    ⟨fun ⟨names, positions, folders⟩ => ⟨names, positions, folders⟩,
      fun h => ⟨h.names, h.positions, h.folders⟩⟩

theorem wellFormed_empty : empty.WellFormed where
  names := List.nodup_nil
  positions := rfl
  folders := nofun

theorem folder?_eq_some {s : Store} {name : String} {f : Folder} (h : s.folder? name = some f) :
    f ∈ s.folders ∧ f.name = name :=
  ⟨List.mem_of_find?_eq_some h, by simpa using List.find?_some h⟩

theorem folder?_eq_none {s : Store} {name : String} :
    s.folder? name = none ↔ ∀ f ∈ s.folders, f.name ≠ name :=
  List.find?_eq_none.trans (by simp)

/-! ### Adding, removing and ordering folders -/

theorem renumber_eq_mapIdx (fs : List Folder) :
    Store.renumber fs = ⟨fs.mapIdx fun i f => { f with position := i + 1 }⟩ := by
  rw [renumber, Sequence.number_eq_mapIdx]
  simp only [Folder.setPosition, Nat.add_comm 1]

theorem folderNames_renumber (fs : List Folder) :
    (Store.renumber fs).folderNames = fs.map (·.name) :=
  Sequence.map_number Folder.setPosition (fun _ _ => rfl) 1 fs

theorem insert?_eq_some {s s' : Store} {f : Folder} (h : s.insert? f = some s') :
    (∀ g ∈ s.folders, g.name ≠ f.name) ∧
      s' = ⟨s.folders ++ [f.setPosition (s.folders.length + 1)]⟩ := by
  unfold insert? at h
  split at h
  · cases h
  · next hnone =>
    exact ⟨folder?_eq_none.1 (by simpa using hnone), (Option.some.inj h).symm⟩

theorem removeFolder?_eq_some {s s' : Store} {name : String} (h : s.removeFolder? name = some s') :
    s' = Store.renumber (s.folders.filter (·.name != name)) := by
  unfold Store.removeFolder? at h
  split at h
  · exact (Option.some.inj h).symm
  · cases h

theorem placeFolder_eq_ok {s s' : Store} {name : String} {rank : Int}
    (h : s.placeFolder name rank = .ok s') :
    ∃ f fs, s.folder? name = some f ∧ fs.Perm s.folders ∧ s' = Store.renumber fs := by
  unfold Store.placeFolder at h
  split at h
  · cases h
  · next i hi =>
    cases h
    obtain ⟨f, hf⟩ := Sequence.exists_of_findIdx? hi
    exact ⟨f, _, hf, Sequence.reposition_perm s.folders i rank, rfl⟩

section

variable {P : Folder → Prop} {s s' : Store} (still : ∀ f n, P f → P (f.setPosition n))
include still

theorem listsOnly_renumber {fs : List Folder} (h : ∀ f ∈ fs, P f) :
    (Store.renumber fs).ListsOnly P := by
  refine ⟨Sequence.isNumbered_number (fun _ _ => rfl) fs, fun f hf => ?_⟩
  obtain ⟨f₀, hf₀, position, rfl⟩ := Sequence.mem_number hf
  exact still f₀ position (h f₀ hf₀)

theorem ListsOnly.insert? {f : Folder} (h : s.ListsOnly P) (hf : P f)
    (hinsert : s.insert? f = some s') : s'.ListsOnly P := by
  obtain ⟨-, rfl⟩ := insert?_eq_some hinsert
  refine ⟨h.positions.concat rfl, fun g hg => ?_⟩
  rcases List.mem_append.1 hg with hg | hg
  · exact h.folders g hg
  · rw [List.mem_singleton.1 hg]
    exact still f _ hf

theorem ListsOnly.removeFolder? {name : String} (h : s.ListsOnly P)
    (hremove : s.removeFolder? name = some s') : s'.ListsOnly P := by
  rw [removeFolder?_eq_some hremove]
  exact listsOnly_renumber still fun f hf => h.folders f (List.mem_of_mem_filter hf)

theorem ListsOnly.placeFolder {name : String} {rank : Int} (h : s.ListsOnly P)
    (hplace : s.placeFolder name rank = .ok s') : s'.ListsOnly P := by
  obtain ⟨-, fs, -, perm, rfl⟩ := placeFolder_eq_ok hplace
  exact listsOnly_renumber still fun f hf => h.folders f (perm.mem_iff.1 hf)

end

theorem WellFormed.renumber {s : Store} {fs : List Folder} (h : s.WellFormed)
    (names : (fs.map (·.name)).Nodup) (sub : ∀ f ∈ fs, f ∈ s.folders) :
    (Store.renumber fs).WellFormed := by
  have hlists := listsOnly_renumber (fun f n hf => hf.setPosition n)
    fun f hf => h.folders f (sub f hf)
  refine hlists.wellFormed ?_
  rw [folderNames_renumber]
  exact names

theorem WellFormed.insert? {s s' : Store} {f : Folder} (h : s.WellFormed) (hf : f.WellFormed)
    (hinsert : s.insert? f = some s') : s'.WellFormed := by
  refine (h.listsOnly.insert? (fun f n hf => hf.setPosition n) hf hinsert).wellFormed ?_
  obtain ⟨free, rfl⟩ := insert?_eq_some hinsert
  exact Sequence.nodup_map_concat h.names free

theorem WellFormed.insertAll : ∀ {fs : List Folder} {s : Store}, s.WellFormed →
    (∀ f ∈ fs, f.WellFormed) → (s.insertAll fs).WellFormed
  | [], _, h, _ => h
  | f :: fs, s, h, hfs => by
    have hstep : ((s.insert? f).getD s).WellFormed := by
      cases hinsert : s.insert? f with
      | none => exact h
      | some s' => exact h.insert? (hfs f List.mem_cons_self) hinsert
    exact hstep.insertAll fun g hg => hfs g (List.mem_cons_of_mem f hg)

theorem WellFormed.addFolder? {s s' : Store} {name : String} (h : s.WellFormed)
    (hadd : s.addFolder? name = some s') : s'.WellFormed :=
  h.insert? (Folder.wellFormed_empty name) hadd

theorem WellFormed.removeFolder? {s s' : Store} {name : String} (h : s.WellFormed)
    (hremove : s.removeFolder? name = some s') : s'.WellFormed := by
  have sub : (s.folders.filter (·.name != name)).Sublist s.folders := List.filter_sublist
  rw [removeFolder?_eq_some hremove]
  exact h.renumber (h.names.sublist (sub.map _)) fun f hf => sub.mem hf

theorem WellFormed.placeFolder {s s' : Store} {name : String} {rank : Int} (h : s.WellFormed)
    (hplace : s.placeFolder name rank = .ok s') : s'.WellFormed := by
  obtain ⟨-, fs, -, perm, rfl⟩ := placeFolder_eq_ok hplace
  exact h.renumber ((perm.map _).nodup_iff.2 h.names) fun f hf => perm.mem_iff.1 hf

/-! ### Changing a folder in its place -/

theorem ListsOnly.modifyFolder {P : Folder → Prop} {s : Store} {name : String}
    {change : Folder → Folder} (h : s.ListsOnly P)
    (kept : ∀ f, s.folder? name = some f → P (change f) ∧ (change f).position = f.position) :
    (s.modifyFolder name change).ListsOnly P := by
  refine ⟨h.positions.modifyFirst fun f hf => (kept f hf).2, fun f hf => ?_⟩
  rcases Sequence.mem_modifyFirst hf with hf | ⟨f₀, hf₀, rfl⟩
  · exact h.folders f hf
  · exact (kept f₀ hf₀).1

/-- The name that a changed folder gets must be its old one or nobody's. -/
theorem WellFormed.modifyFolder {s : Store} {name : String} {change : Folder → Folder}
    (h : s.WellFormed)
    (kept : ∀ f, s.folder? name = some f →
      (change f).WellFormed ∧ (change f).position = f.position ∧
        ∀ g ∈ s.folders, g.name = (change f).name → g.name = f.name) :
    (s.modifyFolder name change).WellFormed := by
  refine (h.listsOnly.modifyFolder fun f hf => ?_).wellFormed ?_
  · exact ⟨(kept f hf).1, (kept f hf).2.1⟩
  · exact Sequence.nodup_map_modifyFirst h.names fun f hf => (kept f hf).2.2

theorem WellFormed.setFolder {s : Store} {name : String} {f f' : Folder} (h : s.WellFormed)
    (hf : s.folder? name = some f) (hf' : f'.WellFormed) (sameName : f'.name = f.name)
    (samePosition : f'.position = f.position) : (s.setFolder name f').WellFormed := by
  refine h.modifyFolder fun g hg => ?_
  cases Option.some.inj (hf.symm.trans hg)
  exact ⟨hf', samePosition, fun g _ heq => heq.trans sameName⟩

theorem WellFormed.setIcon {s : Store} (h : s.WellFormed) (name icon : String)
    (iconClass : Option String) : (s.modifyFolder name (·.setIcon icon iconClass)).WellFormed :=
  h.modifyFolder fun f hf =>
    ⟨(h.folders f (folder?_eq_some hf).1).setIcon icon iconClass, rfl, fun _ _ heq => heq⟩

/-- A folder may get a name that no folder has. -/
theorem WellFormed.renameFolder {s : Store} {new : String} (h : s.WellFormed) (name : String)
    (free : s.folder? new = none) : (s.modifyFolder name (·.rename new)).WellFormed :=
  h.modifyFolder fun f hf =>
    ⟨(h.folders f (folder?_eq_some hf).1).rename new, rfl,
      fun g hg heq => absurd heq (folder?_eq_none.1 free g hg)⟩

/-- What may be made of an entry hangs on the entry that the path leads to, and on no other. -/
theorem WellFormed.modifyEntry {s : Store} {path : Path} {change : Entry → Entry}
    (h : s.WellFormed) (stays : ∀ e, s.entryAt? path = some e → e.StaysPut (change e)) :
    (s.modifyEntry path change).WellFormed := by
  unfold Store.modifyEntry
  split
  · exact h
  · next name hname =>
    refine h.modifyFolder fun f hf => ⟨?_, rfl, fun _ _ heq => heq⟩
    refine (h.folders f (folder?_eq_some hf).1).modify fun e he => ?_
    have put := stays e (by simp [entryAt?, hf, hname, he])
    exact ⟨put.toKeepsPlace, fun _ _ heq => heq.trans put.name⟩

end Store
end StartPage
