import StartPage.Proofs.Replacement

/-!
    What is left of a store. Without some of its entries, or without some of its folders, a store has
    the others in their order and with new positions, and they are as they were otherwise.

        sites  ┬  1  a.lnk                                    sites  ─  1  b.lnk
               └  2  b.lnk    ──  without sites/a.lnk  ──▶    tools  ─  1  c.qry
        tools  ─  1  c.qry

    What is left of what is left hangs on all that is gone, and not on the order in which it went. -/

namespace StartPage

namespace Sequence

variable {α : Type} {place : α → Nat → α}

/-- Items that are already in their places get them again. -/
theorem number_of_positions (position : α → Nat) (own : ∀ a, place a (position a) = a) :
    ∀ {n : Nat} {items : List α}, items.map position = List.range' n items.length →
      number place n items = items
  | _, [], _ => rfl
  | n, a :: r, h => by
    rw [List.map_cons, List.length_cons, List.range'_succ] at h
    obtain ⟨ha, hr⟩ := List.cons.inj h
    rw [number, number_of_positions position own hr, ← ha, own]

/-- The positions that items have when some of them leave do not matter. -/
theorem number_filter_number (p : α → Bool) (again : ∀ a n m, place (place a n) m = place a m)
    (keeps : ∀ a n, p (place a n) = p a) : ∀ (n m : Nat) (items : List α),
      number place m ((number place n items).filter p) = number place m (items.filter p)
  | _, _, [] => rfl
  | n, m, a :: r => by
    rw [number, List.filter_cons, List.filter_cons, keeps]
    cases hp : p a with
    | false => simpa using number_filter_number p again keeps (n + 1) m r
    | true => simp [number, again, number_filter_number p again keeps (n + 1) (m + 1) r]

end Sequence

/-! ### Folders -/

namespace Folder

/-- A folder with some of its entries, in their order and with new positions. -/
def keep (f : Folder) (p : Entry → Bool) : Folder :=
  { f with entries := (f.entries.filter p).mapIdx fun i e => { e with position := i + 1 } }

variable {f : Folder} {p q : Entry → Bool}

theorem keep_eq (f : Folder) (p : Entry → Bool) : f.keep p = f.renumber (f.entries.filter p) :=
  (f.renumber_eq_mapIdx _).symm

theorem keep_congr (h : ∀ e ∈ f.entries, p e = q e) : f.keep p = f.keep q := by
  rw [keep, keep, List.filter_congr h]

theorem keep_keep (f : Folder) (p : Entry → Bool) (hq : ∀ e n, q (e.setPosition n) = q e) :
    (f.keep p).keep q = f.keep fun e => p e && q e := by
  have again : ∀ (e : Entry) n m, (e.setPosition n).setPosition m = e.setPosition m :=
    fun _ _ _ => rfl
  have hentries := Sequence.number_filter_number q again hq 1 1 (f.entries.filter p)
  rw [keep_eq, keep_eq, keep_eq]
  simp only [renumber, hentries, List.filter_filter, Bool.and_comm]

theorem WellFormed.keep (h : f.WellFormed) (p : Entry → Bool) : (f.keep p).WellFormed := by
  have sub : (f.entries.filter p).Sublist f.entries := List.filter_sublist
  rw [keep_eq]
  exact h.renumber (h.names.sublist (sub.map _)) fun e he => sub.mem he

/-- A folder that keeps all of its entries stays as it is. -/
theorem IsSound.keep_all (h : f.IsSound) (all : ∀ e ∈ f.entries, p e = true) : f.keep p = f := by
  rw [keep_eq, List.filter_eq_self.2 all, Folder.renumber,
    Sequence.number_of_positions Entry.position (fun _ => rfl) h.positions]

theorem isSome_entry? (f : Folder) (name : String) :
    (f.entry? name).isSome = true ↔ ∃ e ∈ f.entries, e.name = name := by
  unfold entry?
  simp

theorem isSome_entry?_keep (f : Folder) (p : Entry → Bool) (name : String) :
    (Folder.entry? (f.keep p) name).isSome = true ↔ ∃ e ∈ f.entries, p e = true ∧ e.name = name := by
  rw [keep_eq, isSome_entry?]
  constructor
  · rintro ⟨e, he, hname⟩
    obtain ⟨e₀, he₀, n, rfl⟩ := Sequence.mem_number he
    obtain ⟨hmem, hkept⟩ := List.mem_filter.1 he₀
    exact ⟨e₀, hmem, hkept, hname⟩
  · rintro ⟨e, he, hkept, rfl⟩
    have hmem : e.name ∈ (f.entries.filter p).map (·.name) :=
      List.mem_map_of_mem (List.mem_filter.2 ⟨he, hkept⟩)
    rw [← Sequence.map_number Entry.setPosition (fun _ _ => rfl) 1] at hmem
    exact List.mem_map.1 hmem

end Folder

/-! ### Stores -/

namespace Store

/-- A store without the entries that have some paths. -/
def withoutEntries (s : Store) (paths : List Path) : Store where
  folders := s.folders.map fun f => f.keep fun e => ⟨f.name, some e.name⟩ ∉ paths

/-- A store without the folders that have some names. -/
def withoutFolders (s : Store) (names : List String) : Store where
  folders := (s.folders.filter (·.name ∉ names)).mapIdx fun i f => { f with position := i + 1 }

/-- A path leads to an entry. -/
def hasEntry (s : Store) (path : Path) : Bool := (s.entryAt? path).isSome

/-- A folder has a name. -/
def hasFolder (s : Store) (name : String) : Bool := (s.folder? name).isSome

variable {s : Store}

theorem withoutEntries_congr {paths paths' : List Path} (h : ∀ path, path ∈ paths ↔ path ∈ paths') :
    s.withoutEntries paths = s.withoutEntries paths' := by
  simp only [withoutEntries, h]

theorem withoutEntries_append (s : Store) (paths paths' : List Path) :
    (s.withoutEntries paths).withoutEntries paths' = s.withoutEntries (paths ++ paths') := by
  rw [withoutEntries, withoutEntries, withoutEntries, List.map_map]
  refine congrArg Store.mk (List.map_congr_left fun f _ => ?_)
  rw [Function.comp_apply, Folder.keep_keep _ _ fun _ _ => rfl]
  refine Folder.keep_congr fun e _ => ?_
  simp [Folder.keep, not_or]

theorem WellFormed.withoutEntries (h : s.WellFormed) (paths : List Path) :
    (s.withoutEntries paths).WellFormed := by
  refine ⟨?_, h.positions.map fun _ => rfl, fun f hf => ?_⟩
  · rw [folderNames, Store.withoutEntries, List.map_map]
    exact h.names
  · obtain ⟨f₀, hf₀, rfl⟩ := List.mem_map.1 hf
    exact (h.folders f₀ hf₀).keep _

/-- Paths that lead nowhere leave a store as it is. -/
theorem WellFormed.withoutEntries_of_not (h : s.WellFormed) {paths : List Path}
    (none : ∀ path ∈ paths, s.hasEntry path = false) : s.withoutEntries paths = s := by
  have hkept : ∀ f ∈ s.folders, (f.keep fun e => decide (⟨f.name, some e.name⟩ ∉ paths)) = f := by
    intro f hf
    refine (h.folders f hf).keep_all fun e he => decide_eq_true fun hmem => ?_
    have hfound : s.entryAt? ⟨f.name, some e.name⟩ = some e :=
      entryAt?_eq_some.2 ⟨f, e.name, h.folder?_of_mem hf, rfl, (h.folders f hf).entry?_of_mem he⟩
    have hnone := none _ hmem
    simp [hasEntry, hfound] at hnone
  rw [Store.withoutEntries, List.map_congr_left hkept, List.map_id']

theorem folder?_withoutEntries (s : Store) (paths : List Path) (name : String) :
    (s.withoutEntries paths).folder? name =
      (s.folder? name).map fun f => f.keep fun e => ⟨f.name, some e.name⟩ ∉ paths := by
  rw [folder?, withoutEntries, List.find?_map]
  rfl

theorem hasEntry_withoutEntries (s : Store) (paths : List Path) (path : Path) :
    (s.withoutEntries paths).hasEntry path = (s.hasEntry path && decide (path ∉ paths)) := by
  obtain ⟨folder, entry⟩ := path
  cases hf : s.folder? folder with
  | none => simp [hasEntry, entryAt?, folder?_withoutEntries, hf]
  | some f =>
    cases entry with
    | none => simp [hasEntry, entryAt?]
    | some name =>
      obtain ⟨-, rfl⟩ := folder?_eq_some hf
      have hkept := f.isSome_entry?_keep (fun e => decide (⟨f.name, some e.name⟩ ∉ paths)) name
      have hentry := f.isSome_entry? name
      rw [Bool.eq_iff_iff]
      simp only [hasEntry, entryAt?, folder?_withoutEntries, hf, Option.map_some, Option.bind_some,
        Option.bind_eq_bind, hkept, Bool.and_eq_true, hentry, decide_eq_true_eq]
      constructor
      · rintro ⟨e, he, hgone, rfl⟩
        exact ⟨⟨e, he, rfl⟩, hgone⟩
      · rintro ⟨⟨e, he, rfl⟩, hgone⟩
        exact ⟨e, he, hgone, rfl⟩

/-! ### Folders that go -/

theorem withoutFolders_eq (s : Store) (names : List String) :
    s.withoutFolders names = renumber (s.folders.filter (·.name ∉ names)) :=
  (renumber_eq_mapIdx _).symm

theorem withoutFolders_congr {names names' : List String} (h : ∀ name, name ∈ names ↔ name ∈ names') :
    s.withoutFolders names = s.withoutFolders names' := by
  simp only [withoutFolders, h]

theorem withoutFolders_append (s : Store) (names names' : List String) :
    (s.withoutFolders names).withoutFolders names' = s.withoutFolders (names ++ names') := by
  have again : ∀ (f : Folder) n m, (f.setPosition n).setPosition m = f.setPosition m :=
    fun _ _ _ => rfl
  have hfolders := Sequence.number_filter_number (fun f => decide (f.name ∉ names')) again
    (fun _ _ => rfl) 1 1 (s.folders.filter (·.name ∉ names))
  rw [withoutFolders_eq, withoutFolders_eq, withoutFolders_eq, renumber, renumber, hfolders,
    List.filter_filter, renumber]
  simp only [List.mem_append, not_or, Bool.decide_and, Bool.and_comm]

theorem WellFormed.withoutFolders (h : s.WellFormed) (names : List String) :
    (s.withoutFolders names).WellFormed := by
  have sub : (s.folders.filter (·.name ∉ names)).Sublist s.folders := List.filter_sublist
  rw [withoutFolders_eq]
  exact h.renumber (h.names.sublist (sub.map _)) fun f hf => sub.mem hf

theorem isSome_folder? {name : String} :
    s.hasFolder name = true ↔ ∃ f ∈ s.folders, f.name = name := by
  simp [hasFolder, folder?]

/-- Names that no folder has leave a store as it is. -/
theorem WellFormed.withoutFolders_of_not (h : s.WellFormed) {names : List String}
    (none : ∀ name ∈ names, s.hasFolder name = false) : s.withoutFolders names = s := by
  have hkept : s.folders.filter (·.name ∉ names) = s.folders := by
    refine List.filter_eq_self.2 fun f hf => decide_eq_true fun hmem => ?_
    have hfound := isSome_folder?.2 ⟨f, hf, rfl⟩
    rw [none _ hmem] at hfound
    cases hfound
  rw [withoutFolders_eq, hkept, Store.renumber,
    Sequence.number_of_positions Folder.position (fun _ => rfl) h.positions]

theorem hasFolder_withoutFolders (s : Store) (names : List String) (name : String) :
    (s.withoutFolders names).hasFolder name = (s.hasFolder name && decide (name ∉ names)) := by
  have hnames : (s.withoutFolders names).folderNames =
      (s.folders.filter (·.name ∉ names)).map (·.name) := by
    rw [withoutFolders_eq, folderNames_renumber]
  have hmem (s : Store) : s.hasFolder name = true ↔ name ∈ s.folderNames :=
    isSome_folder?.trans (by simp [folderNames])
  rw [Bool.eq_iff_iff, hmem, hnames, Bool.and_eq_true, isSome_folder?, decide_eq_true_eq]
  constructor
  · intro h
    obtain ⟨f, hf, rfl⟩ := List.mem_map.1 h
    obtain ⟨hf, hgone⟩ := List.mem_filter.1 hf
    exact ⟨⟨f, hf, rfl⟩, of_decide_eq_true hgone⟩
  · rintro ⟨⟨f, hf, rfl⟩, hgone⟩
    exact List.mem_map_of_mem (List.mem_filter.2 ⟨hf, decide_eq_true hgone⟩)

end Store
end StartPage
