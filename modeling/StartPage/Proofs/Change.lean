import StartPage.Proofs.Document
import StartPage.Proofs.Move.Effect
import StartPage.Store.Change

/-!
    Runs of changes to a store. Folders may come to have the same name, but each of them stays sound:
    its entries have distinct names, are numbered from 1 on and know the folder by the name that it
    has now. A change that cannot be made changes nothing.

        a  ─  1  x.lnk                               b  ─  1  x.lnk
        b  ─  1  x.lnk     ── rename a to b ──▶      b  ─  1  x.lnk      each parent b

    An entry gets a new name unless another entry of its folder has it. -/

namespace StartPage

/-- A change was not made. -/
def Change.Result.isRefused : Change.Result → Bool
  | .refused | .noFolder | .failed _ => true
  | .made | .taken _ | .named _ => false

/-- A change was not made because a name is taken. -/
def Change.Result.IsConflict (r : Change.Result) : Prop := ∃ f, r = .failed f ∧ f.kind = .conflict

/-! ### One change to a folder -/

/-- What a change makes of a folder, and what comes of it. -/
inductive Folder.Becomes (f : Folder) : FolderChange → Folder × Change.Result → Prop
  | same {c : FolderChange} {r : Change.Result} (refused : r.isRefused = true) : Becomes f c (f, r)
  | added {e : Entry} {f' : Folder} (h : f.add? e = some f') : Becomes f (.add e) (f', .made)
  | taken {name : String} {e : Entry} {f' : Folder} (h : f.take? name = some (e, f')) :
      Becomes f (.take name) (f', .taken e)
  | placed {name : String} {rank : Int} {f' : Folder} (h : f.place name rank = .ok f') :
      Becomes f (.place name rank) (f', .made)
  | entryNamed {name new given : String} {f' : Folder}
      (h : f.renameEntry name new = .ok (given, f')) :
      Becomes f (.renameEntry name new) (f', .named given)
  | named (name : String) : Becomes f (.rename name) (f.rename name, .made)
  | adorned (icon : String) (iconClass : Option String) :
      Becomes f (.setIcon icon iconClass) (f.setIcon icon iconClass, .made)

namespace Folder

variable {f : Folder}

theorem becomes_change (f : Folder) (c : FolderChange) : f.Becomes c (f.change c) := by
  cases c with
  | add e =>
    rw [change]
    cases h : f.add? e with
    | none => exact .same rfl
    | some f' => exact .added h
  | take name =>
    rw [change]
    split
    · next h => exact .taken h
    · exact .same rfl
  | place name rank =>
    rw [change]
    cases h : f.place name rank with
    | error fault => exact .same rfl
    | ok f' => exact .placed h
  | renameEntry name new =>
    rw [change]
    split
    · next h => exact .entryNamed h
    · exact .same rfl
  | rename name => exact .named name
  | setIcon icon iconClass => exact .adorned icon iconClass

theorem change_of_refused {c : FolderChange} (h : (f.change c).2.isRefused = true) :
    (f.change c).1 = f := by
  have hbecomes := f.becomes_change c
  generalize f.change c = result at h hbecomes
  cases hbecomes with
  | same => rfl
  | _ => cases h

/-- A change within a folder leaves it in its place. -/
theorem position_change (f : Folder) (c : FolderChange) : (f.change c).1.position = f.position := by
  have hbecomes := f.becomes_change c
  generalize f.change c = result at hbecomes
  cases hbecomes with
  | same => rfl
  | added h =>
    obtain ⟨-, rfl⟩ := add?_eq_some h
    rfl
  | taken h =>
    obtain ⟨-, -, -, rfl⟩ := take?_eq_some h
    rfl
  | placed h =>
    obtain ⟨-, -, -, -, rfl⟩ := place_eq_ok h
    rfl
  | entryNamed h =>
    obtain ⟨-, -, -, rfl, -⟩ := renameEntry_eq_ok h
    rfl
  | named => rfl
  | adorned => rfl

theorem IsSound.change (h : f.IsSound) (c : FolderChange) : (f.change c).1.IsSound := by
  have hbecomes := f.becomes_change c
  generalize f.change c = result at hbecomes
  cases hbecomes with
  | same => exact h
  | added hadd => exact h.add? hadd
  | taken htake => exact h.take? htake
  | placed hplace => exact h.place hplace
  | entryNamed hrename => exact h.renameEntry hrename
  | named name => exact h.rename name
  | adorned icon iconClass => exact h.setIcon icon iconClass

/-- Makes changes one after the other. -/
def changeAll (f : Folder) (changes : List FolderChange) : Folder :=
  changes.foldl (fun f c => (f.change c).1) f

theorem IsSound.changeAll : ∀ {changes : List FolderChange} {f : Folder}, f.IsSound →
    (f.changeAll changes).IsSound
  | [], _, h => h
  | c :: _, _, h => (h.change c).changeAll

/-- A folder that was new, and was changed since. -/
def IsFilled (f : Folder) : Prop := ∃ name changes, f = (empty name).changeAll changes

theorem IsFilled.isSound (h : f.IsFilled) : f.IsSound := by
  obtain ⟨name, changes, rfl⟩ := h
  exact (wellFormed_empty name).toIsSound.changeAll

end Folder

/-! ### New names for entries -/

namespace Folder

variable {f : Folder} {name new : String}

/-- The entry with a name would get one that another entry has. -/
def Clashes (f : Folder) (name new : String) : Prop :=
  ∃ e ∈ f.entries, e.name = name ∧
    ∃ e' ∈ f.entries, e' ≠ e ∧ e'.name = Name.normalize new e.extension

/-- What comes of giving an entry a new name: there is no such entry, another one has the name, or
    it is given. -/
inductive Renaming (f : Folder) (name new : String) : Except Fault (String × Folder) → Prop
  | absent (none : ∀ e ∈ f.entries, e.name ≠ name) :
      Renaming f name new (.error (.noFile (Path.text f.name name)))
  | taken {e : Entry} (entry : e ∈ f.entries) (named : e.name = name)
      (clash : f.Clashes name new) :
      Renaming f name new (.error (.nameTaken (Name.normalize new e.extension) f.name))
  | given {e : Entry} {f' : Folder} (entry : e ∈ f.entries) (named : e.name = name)
      (free : ¬ f.Clashes name new)
      (changed : f.Replaces f' e { e with name := Name.normalize new e.extension }) :
      Renaming f name new (.ok (Name.normalize new e.extension, f'))

/-- In a sound folder, that the name is taken means that another entry has it. -/
theorem IsSound.renaming (h : f.IsSound) (name new : String) :
    f.Renaming name new (f.renameEntry name new) := by
  unfold Folder.renameEntry
  split
  · next hnone => exact .absent (entry?_eq_none.1 hnone)
  next e he =>
  obtain ⟨hmem, hname⟩ := entry?_eq_some he
  dsimp only
  split
  · next htaken =>
    obtain ⟨hne, hsome⟩ := htaken
    obtain ⟨e', he'⟩ := Option.isSome_iff_exists.1 hsome
    obtain ⟨hmem', hname'⟩ := entry?_eq_some he'
    refine .taken hmem hname ⟨e, hmem, hname, e', hmem', fun heq => ?_, hname'⟩
    rw [heq, hname] at hname'
    exact hne hname'.symm
  · next hfree =>
    refine .given hmem hname ?_ (replaces_modify he _)
    rintro ⟨e₁, hmem₁, hname₁, e', hmem', hne, hname'⟩
    obtain rfl := h.eq_of_entry? he hmem₁ hname₁
    -- an entry with the new name is another one only if that is not the old name
    by_cases hsame : (e₁.rename new).name = name
    · exact hne (h.eq_of_entry? he hmem' (hname'.trans hsame))
    · have hnone : f.entry? (e₁.rename new).name = none := by
        simpa [hsame] using hfree
      exact entry?_eq_none.1 hnone e' hmem' hname'

end Folder

/-! ### Changes to a store -/

/-- If a change inserts a folder, that one was new and was changed since. -/
def Change.InsertsFilled : Change → Prop
  | .insert f => f.IsFilled
  | _ => True

namespace Store

/-- What a change makes of a store, and what comes of it. -/
inductive Becomes (s : Store) : Change → Store × Change.Result → Prop
  | same {c : Change} {r : Change.Result} (refused : r.isRefused = true) : Becomes s c (s, r)
  | added {name : String} {s' : Store} (h : s.addFolder? name = some s') :
      Becomes s (.addFolder name) (s', .made)
  | inserted {f : Folder} {s' : Store} (h : s.insert? f = some s') :
      Becomes s (.insert f) (s', .made)
  | removed {name : String} {s' : Store} (h : s.removeFolder? name = some s') :
      Becomes s (.removeFolder name) (s', .made)
  | placed {name : String} {rank : Int} {s' : Store} (h : s.placeFolder name rank = .ok s') :
      Becomes s (.placeFolder name rank) (s', .made)
  | within {name : String} {f : Folder} {c : FolderChange} (found : s.folder? name = some f)
      (made : (f.change c).2.isRefused = false) :
      Becomes s (.within name c) (s.setFolder name (f.change c).1, (f.change c).2)

variable {s : Store}

theorem setFolder_self {name : String} {f : Folder} (h : s.folder? name = some f) :
    s.setFolder name f = s := by
  obtain ⟨before, after, hsplit, hchanged⟩ := Sequence.modifyFirst_split (f := fun _ => f) h
  exact congrArg Store.mk (hchanged.trans hsplit.symm)

/-- A change within a folder is made to the first of its name. -/
theorem change_within {name : String} {f : Folder} (found : s.folder? name = some f)
    (c : FolderChange) :
    s.change (.within name c) = (s.setFolder name (f.change c).1, (f.change c).2) := by
  rw [change, found]

theorem becomes_change (s : Store) (c : Change) : s.Becomes c (s.change c) := by
  cases c with
  | addFolder name =>
    rw [change]
    cases h : s.addFolder? name with
    | none => exact .same rfl
    | some s' => exact .added h
  | insert f =>
    rw [change]
    cases h : s.insert? f with
    | none => exact .same rfl
    | some s' => exact .inserted h
  | removeFolder name =>
    rw [change]
    cases h : s.removeFolder? name with
    | none => exact .same rfl
    | some s' => exact .removed h
  | placeFolder name rank =>
    rw [change]
    cases h : s.placeFolder name rank with
    | error fault => exact .same rfl
    | ok s' => exact .placed h
  | within name c =>
    cases found : s.folder? name with
    | none =>
      rw [change, found]
      exact .same rfl
    | some f =>
      rw [change_within found]
      cases hr : (f.change c).2.isRefused with
      | false => exact .within found hr
      | true =>
        rw [Folder.change_of_refused hr, setFolder_self found]
        exact .same hr

theorem change_of_refused {c : Change} (h : (s.change c).2.isRefused = true) :
    (s.change c).1 = s := by
  have hbecomes := s.becomes_change c
  generalize s.change c = result at h hbecomes
  cases hbecomes with
  | same => rfl
  | within found made => exact absurd h (by simp [made])
  | _ => cases h

/-- The folders are numbered from 1 on, and each of them is sound. They may have the same name. -/
def IsSound (s : Store) : Prop := s.ListsOnly Folder.IsSound

theorem IsSound.change (h : s.IsSound) {c : Change} (filled : c.InsertsFilled) :
    (s.change c).1.IsSound := by
  have still : ∀ (f : Folder) n, f.IsSound → (f.setPosition n).IsSound :=
    fun f n hf => hf.setPosition n
  have hbecomes := s.becomes_change c
  generalize s.change c = result at hbecomes
  cases hbecomes with
  | same => exact h
  | @added name _ hadd =>
    exact ListsOnly.insert? still h (Folder.wellFormed_empty name).toIsSound hadd
  | inserted hinsert => exact ListsOnly.insert? still h filled.isSound hinsert
  | removed hremove => exact ListsOnly.removeFolder? still h hremove
  | placed hplace => exact ListsOnly.placeFolder still h hplace
  | @within name f c found _ =>
    refine ListsOnly.modifyFolder h fun g hg => ?_
    cases Option.some.inj (found.symm.trans hg)
    exact ⟨(h.folders f (folder?_eq_some found).1).change c, f.position_change c⟩

/-- Makes changes one after the other. -/
def changeAll (s : Store) (changes : List Change) : Store :=
  changes.foldl (fun s c => (s.change c).1) s

theorem IsSound.changeAll : ∀ {changes : List Change} {s : Store}, s.IsSound →
    (∀ c ∈ changes, c.InsertsFilled) → (s.changeAll changes).IsSound
  | [], _, h, _ => h
  | c :: _, _, h, filled =>
    (h.change (filled c List.mem_cons_self)).changeAll
      fun d hd => filled d (List.mem_cons_of_mem c hd)

/-- What comes of giving an entry of a folder a new name: a conflict if another entry has the name,
    and a success if there is the entry and no other has it. Then the name is all that changes. -/
structure Renames (s : Store) (f : Folder) (name new : String) (result : Store × Change.Result) :
    Prop where
  conflict : result.2.IsConflict ↔ f.Clashes name new
  success : (∃ given, result.2 = .named given) ↔
    (∃ e ∈ f.entries, e.name = name) ∧ ¬ f.Clashes name new
  effect : ∀ given, result.2 = .named given →
    ∃ e ∈ f.entries, e.name = name ∧ given = Name.normalize new e.extension ∧
      ∃ before f' after, s.folders = before ++ f :: after ∧
        result.1.folders = before ++ f' :: after ∧ f.Replaces f' e { e with name := given }

theorem IsSound.renames {folder : String} {f : Folder} (h : s.IsSound)
    (found : s.folder? folder = some f) (name new : String) :
    s.Renames f name new (s.change (.within folder (.renameEntry name new))) := by
  have hrenaming := (h.folders f (folder?_eq_some found).1).renaming name new
  rw [change_within found, Folder.change]
  generalize f.renameEntry name new = result at hrenaming ⊢
  cases hrenaming with
  | absent none =>
    refine ⟨⟨?_, ?_⟩, ⟨nofun, ?_⟩, nofun⟩
    · rintro ⟨fault, hfault, hkind⟩
      cases hfault
      cases hkind
    · rintro ⟨e, he, hname, -⟩
      exact absurd hname (none e he)
    · rintro ⟨⟨e, he, hname⟩, -⟩
      exact absurd hname (none e he)
  | taken entry named clash =>
    exact ⟨⟨fun _ => clash, fun _ => ⟨_, rfl, rfl⟩⟩, ⟨nofun, fun hfree => absurd clash hfree.2⟩, nofun⟩
  | @given e f' entry named free changed =>
    refine ⟨⟨nofun, fun hclash => absurd hclash free⟩, ?_, ?_⟩
    · exact ⟨fun _ => ⟨⟨e, entry, named⟩, free⟩, fun _ => ⟨_, rfl⟩⟩
    · intro given hgiven
      cases hgiven
      obtain ⟨before, after, hsplit, hset⟩ := Sequence.modifyFirst_split (f := fun _ => f') found
      exact ⟨e, entry, named, rfl, before, f', after, hsplit, hset, changed⟩

/-- However a store that was read is changed, and whatever names its folders come to have, each of
    them is sound and stands in its place. A change that is refused leaves the store as it is, and a
    new name for an entry is refused for a conflict just if another entry of the folder has it. -/
theorem sound_throughout {v : Json} {s : Store} (read : ofJson v = .ok s) {changes : List Change}
    (filled : ∀ c ∈ changes, c.InsertsFilled) :
    (s.changeAll changes).IsSound ∧
      (∀ c, ((s.changeAll changes).change c).2.isRefused = true →
        ((s.changeAll changes).change c).1 = s.changeAll changes) ∧
      ∀ folder f, (s.changeAll changes).folder? folder = some f → ∀ name new,
        (s.changeAll changes).Renames f name new
          ((s.changeAll changes).change (.within folder (.renameEntry name new))) := by
  have hread : s.IsSound :=
    ⟨(wellFormed_of_ofJson read).positions,
      fun f hf => ((wellFormed_of_ofJson read).folders f hf).toIsSound⟩
  have hsound := hread.changeAll filled
  exact ⟨hsound, fun c => change_of_refused, fun folder f found => hsound.renames found⟩

/-- Gives two folders one name, adds to the first of them, and inserts a third before it. -/
def sameNames : List Change :=
  [.within "sites" (.rename "other"), .within "other" (.add (Entry.query "e" "e" "e.org")),
    .insert ((Folder.empty "new").changeAll [.add (Entry.link "z" "z.org")]),
    .within "other" (.place "e.qry" 1), .placeFolder "new" 1]

/-- Folders of one name stay apart, and a name that is taken in one of them is refused. -/
theorem sound_throughout_sameNames :
    ofJson Action.twoFolders.toJson = .ok Action.twoFolders ∧
      (∀ c ∈ sameNames, c.InsertsFilled) ∧
      (Action.twoFolders.changeAll sameNames).folderNames = ["new", "other", "other"] ∧
      (Action.twoFolders.changeAll sameNames).IsSound ∧
      ((Action.twoFolders.changeAll sameNames).change
        (.within "other" (.renameEntry "e.qry" "d"))).2.isRefused = false ∧
      ∃ f, (Action.twoFolders.changeAll sameNames).folder? "other" = some f ∧
        f.Clashes "a.lnk" "b" := by
  have hstore : Action.twoFolders.WellFormed := by decide +kernel
  have read := hstore.ofJson_toJson
  have filled : ∀ c ∈ sameNames, c.InsertsFilled := by
    simp only [sameNames, List.forall_mem_cons]
    exact ⟨trivial, trivial, ⟨"new", _, rfl⟩, trivial, trivial, nofun⟩
  obtain ⟨hsound, -, hnames⟩ := sound_throughout read filled
  have hfound : ((Action.twoFolders.changeAll sameNames).folder? "other").isSome := by
    decide +kernel
  obtain ⟨f, hf⟩ := Option.isSome_iff_exists.1 hfound
  have hconflict : ((Action.twoFolders.changeAll sameNames).change
      (.within "other" (.renameEntry "a.lnk" "b"))).2.IsConflict :=
    ⟨.nameTaken "b.lnk" "other", rfl, rfl⟩
  exact ⟨read, filled, by decide +kernel, hsound, by decide +kernel, f, hf,
    (hnames "other" f hf "a.lnk" "b").conflict.1 hconflict⟩

end Store
end StartPage
