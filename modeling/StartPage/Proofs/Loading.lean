import Mathlib.Data.List.Induction
import StartPage.Proofs.Ranks
import StartPage.Proofs.WellFormed.Document

/-!
    What is read from records. Of the folders and of the entries in each, the records are put in the
    order of their ranks; the first of every name is kept, and stands for a folder or an entry with
    all that it holds. Positions are given anew.

        rank 2  b            1  a
        rank –  a, icon x    2  b
        rank 1  a            the second record of a is left out

    The order of the records does not matter where each has a rank of its own. -/

namespace StartPage

section Lists

variable {α β γ : Type}

theorem mapIdx_map (f : α → β) (g : Nat → β → γ) (items : List α) :
    (items.map f).mapIdx g = items.mapIdx fun i a => g i (f a) :=
  List.ext_getElem (by simp) (by simp)

/-- Items that are changed by their places are found by what does not change. -/
theorem exists_mem_mapIdx (key : β → γ) (key' : α → γ) (g : Nat → α → β)
    (keeps : ∀ i a, key (g i a) = key' a) (items : List α) (k : γ) :
    (∃ b ∈ items.mapIdx g, key b = k) ↔ ∃ a ∈ items, key' a = k := by
  constructor
  · rintro ⟨b, hb, rfl⟩
    obtain ⟨i, hi, rfl⟩ := List.mem_mapIdx.1 hb
    exact ⟨items[i], List.getElem_mem hi, (keeps i _).symm⟩
  · rintro ⟨a, ha, rfl⟩
    obtain ⟨i, hi, rfl⟩ := List.mem_iff_getElem.1 ha
    exact ⟨g i items[i], List.mem_mapIdx.2 ⟨i, hi, rfl⟩, keeps i _⟩

end Lists

/-! ### Adding one after the other -/

/-- An entry in its place of a folder. -/
def Entry.placed (e : Entry) (folder : String) (position : Nat) : Entry :=
  { e with position := position, parent := some folder }

namespace Folder

theorem add?_getD (f : Folder) (e : Entry) : (f.add? e).getD f =
    if ∃ e' ∈ f.entries, e'.name = e.name then f
    else { f with entries := f.entries ++ [e.placed f.name (f.entries.length + 1)] } := by
  have htaken : (f.entry? e.name).isSome = true ↔ ∃ e' ∈ f.entries, e'.name = e.name := by
    simp [ entry?]
  rw [add?]
  by_cases h : ∃ e' ∈ f.entries, e'.name = e.name
  · rw [if_pos (htaken.2 h), if_pos h]
    rfl
  · rw [if_neg (mt htaken.1 h), if_neg h]
    rfl

/-- Of the entries that are added to an empty folder, it has the first of every name. -/
theorem addAll_of_nil {f : Folder} (h : f.entries = []) (es : List Entry) :
    f.addAll es = { f with
      entries := (Sequence.firsts Entry.name es).mapIdx fun i e => e.placed f.name (i + 1) } := by
  induction es using List.reverseRecOn with
  | nil =>
    obtain ⟨name, icon, iconClass, position, entries⟩ := f
    obtain rfl : entries = [] := h
    rfl
  | append_singleton es e ih =>
    have hlast : f.addAll (es ++ [e]) = ((f.addAll es).add? e).getD (f.addAll es) := by
      simp [addAll]
    have htaken := exists_mem_mapIdx Entry.name Entry.name (fun i e => e.placed f.name (i + 1))
      (fun _ _ => rfl) (Sequence.firsts Entry.name es) e.name
    rw [hlast, add?_getD, ih, Sequence.firsts_concat]
    simp only [htaken]
    split
    · rfl
    · simp [List.mapIdx_concat]

end Folder

namespace Store

theorem insert?_getD (s : Store) (f : Folder) : (s.insert? f).getD s =
    if ∃ g ∈ s.folders, g.name = f.name then s
    else ⟨s.folders ++ [f.setPosition (s.folders.length + 1)]⟩ := by
  have htaken : (s.folder? f.name).isSome = true ↔ ∃ g ∈ s.folders, g.name = f.name := by
    simp [folder?]
  rw [insert?]
  by_cases h : ∃ g ∈ s.folders, g.name = f.name
  · rw [if_pos (htaken.2 h), if_pos h]
    rfl
  · rw [if_neg (mt htaken.1 h), if_neg h]
    rfl

/-- Of the folders that are put into an empty store, it has the first of every name. -/
theorem insertAll_empty (fs : List Folder) : empty.insertAll fs =
    ⟨(Sequence.firsts Folder.name fs).mapIdx fun i f => f.setPosition (i + 1)⟩ := by
  induction fs using List.reverseRecOn with
  | nil => rfl
  | append_singleton fs f ih =>
    have hlast : empty.insertAll (fs ++ [f]) =
        ((empty.insertAll fs).insert? f).getD (empty.insertAll fs) := by
      simp [insertAll]
    have htaken := exists_mem_mapIdx Folder.name Folder.name (fun i f => f.setPosition (i + 1))
      (fun _ _ => rfl) (Sequence.firsts Folder.name fs) f.name
    rw [hlast, insert?_getD, ih, Sequence.firsts_concat]
    simp only [htaken]
    split
    · rfl
    · simp [List.mapIdx_concat]

end Store

/-! ### The records that are kept -/

namespace EntryRecord

/-- The name of the entry that a record describes. -/
def entryName (r : EntryRecord) : String := Name.normalize r.name r.kind.extension

/-- What a record says of the kind of its entry, with the colons of the keyword deleted. -/
def entryKind (r : EntryRecord) : EntryKind :=
  match r.kind with
  | .link => .link
  | .query keyword rule => .query (Text.without ':' keyword) rule

/-- The entry that a record describes, at a position of a folder. -/
def entryAt (r : EntryRecord) (folder : String) (position : Nat) : Entry where
  name := r.entryName
  kind := r.entryKind
  content := r.content
  icon := r.icon.getD r.kind.icon
  iconClass := r.iconClass.getD defaultIconClass
  hits := r.hits
  description := r.description
  position := position
  parent := some folder

/-- The records of the entries that a folder has. -/
def kept (records : List EntryRecord) : List EntryRecord :=
  Sequence.firsts entryName (sortByRank rank records)

theorem ofRecord_placed (r : EntryRecord) (folder : String) (position : Nat) :
    (Entry.ofRecord r).placed folder position = r.entryAt folder position := by
  obtain ⟨kind, content, name, icon, iconClass, hits, description, rank⟩ := r
  cases kind with
  | link => rfl
  | query keyword rule => rfl

theorem name_ofRecord (r : EntryRecord) : (Entry.ofRecord r).name = r.entryName := by
  obtain ⟨kind, content, name, icon, iconClass, hits, description, rank⟩ := r
  cases kind with
  | link => rfl
  | query keyword rule => rfl

end EntryRecord

namespace FolderRecord

/-- The folder that a record describes, at a position of the store. -/
def folderAt (r : FolderRecord) (position : Nat) : Folder where
  name := r.name
  icon := r.icon.getD "folder"
  iconClass := r.iconClass.getD defaultIconClass
  position := position
  entries := (EntryRecord.kept r.entries).mapIdx fun i e => e.entryAt r.name (i + 1)

/-- The records of the folders that a store has. -/
def kept (records : List FolderRecord) : List FolderRecord :=
  Sequence.firsts name (sortByRank rank records)

theorem ofRecord_placed (r : FolderRecord) (position : Nat) :
    (Folder.ofRecord r).setPosition position = r.folderAt position := by
  have hnames : (fun e : EntryRecord => (Entry.ofRecord e).name) = EntryRecord.entryName :=
    funext EntryRecord.name_ofRecord
  rw [Folder.ofRecord, Folder.addAll_of_nil rfl, Sequence.firsts_map, mapIdx_map, hnames]
  simp only [EntryRecord.ofRecord_placed]
  rfl

theorem name_ofRecord (r : FolderRecord) : (Folder.ofRecord r).name = r.name := by
  have hname := congrArg Folder.name (ofRecord_placed r 0)
  exact hname

end FolderRecord

/-- The folders of a store stand for the records that are kept. -/
theorem Store.folders_ofRecords (records : List FolderRecord) : (ofRecords records).folders =
    (FolderRecord.kept records).mapIdx fun i r => r.folderAt (i + 1) := by
  have hnames : (fun r : FolderRecord => (Folder.ofRecord r).name) = FolderRecord.name :=
    funext FolderRecord.name_ofRecord
  rw [ofRecords, insertAll_empty, Sequence.firsts_map, mapIdx_map, hnames]
  simp only [FolderRecord.ofRecord_placed]
  rfl

/-! ### The order of the records -/

namespace Store

end Store
end StartPage
