import StartPage.Action.Details
import StartPage.Action.Entries
import StartPage.Proofs.Move.Cases

/-!
    Commands keep the store well-formed, whatever words they are given. Each one either leaves the
    store alone or makes changes that were checked before: a name that is new in its folder, an
    entry that stays put, a folder name that is free. -/

namespace StartPage.Action

variable {s : Store}

/-! ### Folders -/

section Keeps

variable {P : Store → Prop}

/-- What each new folder keeps, all of them keep. -/
theorem of_addFolders {names : List String}
    (keeps : ∀ {s s' : Store}, ∀ name ∈ names, P s → s.addFolder? name = some s' → P s')
    (h : P s) : P (addFolders s names).1 := by
  induction names generalizing s with
  | nil => exact h
  | cons name names ih =>
    have hrest := fun {s : Store} => ih (s := s) fun other hother =>
      keeps other (List.mem_cons_of_mem name hother)
    unfold addFolders
    split
    · next s' hadd => exact hrest (keeps name List.mem_cons_self h hadd)
    · exact hrest h

/-- Names that are empty are passed over, and a nested one stops all. -/
theorem of_makeFolders
    (keeps : ∀ {s s' : Store} {name}, name ≠ "" → '/' ∉ name.toList → P s →
      s.addFolder? name = some s' → P s')
    (words : List String) (h : P s) : P (makeFolders words s).1 := by
  unfold makeFolders
  split
  · exact h
  dsimp only
  split
  · exact h
  next hnested =>
  have hadd : P (addFolders s ((words.map trimSlashes).filter (· != ""))).1 := by
    refine of_addFolders (fun name hname => keeps ?_ ?_) h
    · simpa using (List.mem_filter.1 hname).2
    · simpa [isNested] using List.find?_eq_none.1 hnested name hname
  split
  · exact hadd
  · exact hadd

/-- What removing for one word keeps, removing for one word after the other keeps. -/
theorem of_removeAll {remove? : Store → String → Option Store}
    (keeps : ∀ {s s' : Store} {word}, P s → remove? s word = some s' → P s')
    (words : List String) (h : P s) : P (removeAll remove? s words).1 := by
  induction words generalizing s with
  | nil => exact h
  | cons word words ih =>
    unfold removeAll
    split
    · next s' hremove => exact ih (keeps h hremove)
    · exact ih h

end Keeps

theorem wellFormed_makeFolders (words : List String) (h : s.WellFormed) :
    (makeFolders words s).1.WellFormed :=
  of_makeFolders (fun _ _ h hadd => h.addFolder? hadd) words h

theorem store_removeFolders (words : List String) (s : Store) :
    (removeFolders words s).1 =
      (removeAll Store.removeFolder? s (words.map (Text.without '/'))).1 := by
  cases words with
  | nil => rfl
  | cons word words =>
    unfold removeFolders
    rw [if_neg (by simp)]
    dsimp only
    split
    · rfl
    · rfl

theorem wellFormed_removeFolders (words : List String) (h : s.WellFormed) :
    (removeFolders words s).1.WellFormed := by
  rw [store_removeFolders]
  exact of_removeAll (fun h => h.removeFolder?) _ h

/-! ### Making and removing entries -/

theorem isRegular_newEntry {name : String} {words rest : List String} {e : Entry}
    (h : newEntry? name words = some (e, rest)) : e.IsRegular := by
  unfold newEntry? at h
  split at h
  · split at h
    · next keyword content _ =>
      obtain ⟨rfl, -⟩ := Prod.mk.inj (Option.some.inj h)
      exact Entry.isRegular_query name keyword content
    · cases h
  · split at h
    · next content _ =>
      obtain ⟨rfl, -⟩ := Prod.mk.inj (Option.some.inj h)
      exact Entry.isRegular_link name content
    · cases h

theorem isRegular_withIcon {e : Entry} (h : e.IsRegular) (words : List String) :
    (withIcon e words).IsRegular := by
  cases words with
  | nil => exact h
  | cons icon rest => exact (Entry.staysPut_setIcon e icon rest.head?).regular h

theorem hits_newEntry {name : String} {words rest : List String} {e : Entry}
    (h : newEntry? name words = some (e, rest)) : e.hits = 0 := by
  unfold newEntry? at h
  split at h
  · split at h
    · obtain ⟨rfl, -⟩ := Prod.mk.inj (Option.some.inj h)
      rfl
    · cases h
  · split at h
    · obtain ⟨rfl, -⟩ := Prod.mk.inj (Option.some.inj h)
      rfl
    · cases h

theorem hits_withIcon (e : Entry) (words : List String) : (withIcon e words).hits = e.hits := by
  cases words with
  | nil => rfl
  | cons icon rest => rfl

/-- A new entry is put at the end of a folder that is there. -/
theorem madeEntry?_eq_some {words : List String} {s s' : Store} {path : String}
    (h : madeEntry? words s = some (s', path)) :
    ∃ folderName folder folder' e, s.folder? folderName = some folder ∧ e.IsRegular ∧ e.hits = 0 ∧
      folder.add? e = some folder' ∧ s' = s.setFolder folderName folder' := by
  unfold madeEntry? at h
  split at h
  · next path rest =>
    split at h
    · next folderName name _ =>
      obtain ⟨folder, hfolder, h⟩ := Option.bind_eq_some_iff.1 h
      obtain ⟨⟨e, rest'⟩, hnew, h⟩ := Option.bind_eq_some_iff.1 h
      obtain ⟨folder', hadd, h⟩ := Option.bind_eq_some_iff.1 h
      cases h
      exact ⟨folderName, folder, folder', withIcon e rest', hfolder,
        isRegular_withIcon (isRegular_newEntry hnew) rest',
        (hits_withIcon e rest').trans (hits_newEntry hnew), hadd, rfl⟩
    · cases h
  · cases h

theorem wellFormed_makeEntry (words : List String) (h : s.WellFormed) :
    (makeEntry words s).1.WellFormed := by
  unfold makeEntry
  split
  · next s' path hmade =>
    obtain ⟨folderName, folder, folder', e, hfolder, he, -, hadd, rfl⟩ := madeEntry?_eq_some hmade
    have hf := h.folders folder (Store.folder?_eq_some hfolder).1
    obtain ⟨-, rfl⟩ := Folder.add?_eq_some hadd
    exact h.setFolder hfolder (hf.add? he hadd) rfl rfl
  · exact h

/-- An entry is removed from the folder in which the path finds it. -/
theorem removeEntry?_eq {text : String} {path : Path} (h : Path.ofText text = path) (s : Store) :
    removeEntry? s text = path.entry?.bind fun name =>
      (s.folder? path.folder).bind fun f =>
        (f.take? name).bind fun taken => some (s.setFolder path.folder taken.2) := by
  unfold removeEntry?
  rw [h]
  rcases path with ⟨folder, _ | name⟩
  · rfl
  · rfl

theorem removeEntry?_eq_some {s s' : Store} {path : String} (h : removeEntry? s path = some s') :
    ∃ name f e f', Path.entry? (Path.ofText path) = some name ∧
      s.folder? (Path.ofText path).folder = some f ∧ f.take? name = some (e, f') ∧
      s' = s.setFolder (Path.ofText path).folder f' := by
  rw [removeEntry?_eq rfl] at h
  obtain ⟨name, hname, h⟩ := Option.bind_eq_some_iff.1 h
  obtain ⟨f, hf, h⟩ := Option.bind_eq_some_iff.1 h
  obtain ⟨⟨e, f'⟩, htake, h⟩ := Option.bind_eq_some_iff.1 h
  cases h
  exact ⟨name, f, e, f', hname, hf, htake, rfl⟩

theorem wellFormed_removeEntry? {s s' : Store} {path : String} (h : s.WellFormed)
    (hremove : removeEntry? s path = some s') : s'.WellFormed := by
  obtain ⟨name, f, e, f', -, hf, htake, rfl⟩ := removeEntry?_eq_some hremove
  have hrest := ((h.folders f (Store.folder?_eq_some hf).1).take? htake).2
  obtain ⟨_, -, -, rfl⟩ := Folder.take?_eq_some htake
  exact h.setFolder hf hrest rfl rfl

theorem store_removeEntries (words : List String) (s : Store) :
    (removeEntries words s).1 = (removeAll removeEntry? s words).1 := by
  cases words with
  | nil => rfl
  | cons word words =>
    unfold removeEntries
    rw [if_neg (by simp)]
    dsimp only
    split
    · rfl
    · rfl

theorem wellFormed_removeEntries (words : List String) (h : s.WellFormed) :
    (removeEntries words s).1.WellFormed := by
  rw [store_removeEntries]
  exact of_removeAll wellFormed_removeEntry? words h

/-! ### Moving -/

theorem Moves.wellFormed {s' : Store} {source target : Path} (h : s.WellFormed)
    (moves : Moves s source target s') : s'.WellFormed := by
  cases moves with
  | folder _ _ free => exact h.renameFolder source.folder free
  | @within f e _ found entry _ free =>
    refine h.setFolder found ?_ rfl rfl
    refine (h.folders f (Store.folder?_eq_some found).1).modify fun e₀ he₀ => ?_
    cases Option.some.inj (entry.symm.trans he₀)
    refine ⟨⟨rfl, rfl, fun he => Entry.isRegular_rename _ he.keyword⟩, fun e' he' heq => ?_⟩
    exact absurd (heq.trans (e.normalize_nameAt target)) (Folder.entry?_eq_none.1 free e' he')
  | @across f f' g g' e e' _ found _ other dest taken added =>
    obtain ⟨he, hrest⟩ := (h.folders f (Store.folder?_eq_some found).1).take? taken
    have hfilled := (h.folders g (Store.folder?_eq_some dest).1).add?
      (Entry.isRegular_rename _ he.keyword) added
    obtain ⟨_, -, -, hleft⟩ := Folder.take?_eq_some taken
    obtain ⟨-, rfl⟩ := Folder.add?_eq_some added
    have hname : f'.name = source.folder := hleft ▸ (Store.folder?_eq_some found).2
    have hdest := (Store.folder?_setFolder_of_ne other hname).trans dest
    refine (h.setFolder found hrest ?_ ?_).setFolder hdest hfilled rfl rfl
    · rw [hleft, Folder.renumber]
    · rw [hleft, Folder.renumber]

theorem wellFormed_move (words : List String) (h : s.WellFormed) :
    (move words s).1.WellFormed := by
  rcases move_cases words s with hrefused | ⟨source, dest, -, hmade⟩
  · rw [hrefused.store]
    exact h
  · exact hmade.moves.wellFormed h

/-! ### Details -/

/-- What is placed is a folder, or an entry of a folder that then has it in another place. -/
theorem placeAt_eq_ok {s s' : Store} {path : String} {rank : Int}
    (h : placeAt s path rank = .ok s') :
    Path.entry? (Path.ofText path) = none ∧ s.placeFolder (Path.ofText path).folder rank = .ok s' ∨
      ∃ name f f', Path.entry? (Path.ofText path) = some name ∧
        s.folder? (Path.ofText path).folder = some f ∧ f.place name rank = .ok f' ∧
        s' = s.setFolder (Path.ofText path).folder f' := by
  unfold placeAt at h
  dsimp only at h
  split at h
  · next hentry => exact .inl ⟨hentry, h⟩
  next name hname =>
  split at h
  · cases h
  next f hf =>
  cases hplace : f.place name rank with
  | error fault =>
    rw [hplace] at h
    cases h
  | ok f' =>
    rw [hplace] at h
    cases h
    exact .inr ⟨name, f, f', hname, hf, hplace, rfl⟩

theorem wellFormed_placeAt {s s' : Store} {path : String} {rank : Int} (h : s.WellFormed)
    (hplace : placeAt s path rank = .ok s') : s'.WellFormed := by
  obtain ⟨-, hfolder⟩ | ⟨name, f, f', -, hf, hentry, rfl⟩ := placeAt_eq_ok hplace
  · exact h.placeFolder hfolder
  · have hf' := (h.folders f (Store.folder?_eq_some hf).1).place hentry
    obtain ⟨-, es, -, -, rfl⟩ := Folder.place_eq_ok hentry
    exact h.setFolder hf hf' rfl rfl

/-- What becomes of a store where details are set: nothing at all, an entry is changed but for its
    name, its place and its hits, a folder gets an icon, or something gets another place. -/
inductive Adjusts (s : Store) : Store → Prop
  | same : Adjusts s s
  | entry {path : Path} {change : Entry → Entry} (stays : ∀ e : Entry, e.StaysPut (change e))
      (hits : ∀ e, (change e).hits = e.hits) : Adjusts s (s.modifyEntry path change)
  | icon (name icon : String) (iconClass : Option String) :
      Adjusts s (s.modifyFolder name (·.setIcon icon iconClass))
  | place {path : String} {rank : Int} {s' : Store} (h : placeAt s path rank = .ok s') :
      Adjusts s s'

theorem Adjusts.wellFormed {s' : Store} (h : s.WellFormed) (adjusts : Adjusts s s') :
    s'.WellFormed := by
  cases adjusts with
  | same => exact h
  | entry stays _ => exact h.modifyEntry fun e _ => stays e
  | icon name icon iconClass => exact h.setIcon name icon iconClass
  | place hplace => exact wellFormed_placeAt h hplace

theorem adjusts_changeEntry {path message : String} {change : Entry → Entry}
    (stays : ∀ e : Entry, e.StaysPut (change e)) (hits : ∀ e, (change e).hits = e.hits) :
    Adjusts s (changeEntry s path change message).1 := by
  unfold changeEntry
  split
  · exact .entry stays hits
  · exact .same

theorem adjusts_edit (words : List String) (s : Store) : Adjusts s (edit words s).1 := by
  unfold edit
  split
  · exact .same
  · exact adjusts_changeEntry (fun e => e.staysPut_edit _) fun e => e.hits_edit _

theorem adjusts_setRule (words : List String) (s : Store) : Adjusts s (setRule words s).1 := by
  unfold setRule
  split
  · exact .same
  split
  · exact .same
  split
  · exact adjusts_changeEntry (fun e => e.staysPut_setRule _) fun e => e.hits_setRule _
  · exact .same

theorem adjusts_setDescription (words : List String) (s : Store) :
    Adjusts s (setDescription words s).1 := by
  unfold setDescription
  split
  · exact .same
  · exact adjusts_changeEntry (fun e => e.staysPut_describe _) fun _ => rfl

theorem adjusts_setIcon (words : List String) (s : Store) : Adjusts s (setIcon words s).1 := by
  unfold setIcon
  split
  · dsimp only
    split
    · exact adjusts_changeEntry (fun e => e.staysPut_setIcon _ _) fun _ => rfl
    split
    · exact .icon ..
    · exact .same
  · exact .same

theorem adjusts_setPosition (words : List String) (s : Store) :
    Adjusts s (setPosition words s).1 := by
  unfold setPosition
  split
  · split
    · exact .same
    split
    · next hplace => exact .place hplace
    · exact .same
  · exact .same

end StartPage.Action
