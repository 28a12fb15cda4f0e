import Mathlib.Data.Multiset.Bind
import StartPage.Proofs.Replacement

/-!
    Tallies: something is noted down for every entry of a store, and the notes are kept in a bag
    without order.

        sites  ┬  example.lnk  3 hits
               └  search.qry   1 hit       ──▶   {3, 1, 0}     the tally of hits
        tools  ─  docs.lnk     0 hits

    What a change does to a tally hangs on the changed folders alone, and in these on the entries
    that are added, taken out or changed. -/

namespace StartPage

variable {β : Type}

/-- What is noted down for the entries of a folder. -/
def Folder.tally (note : String → Entry → β) (f : Folder) : Multiset β :=
  f.entries.map (note f.name)

/-- What is noted down for the entries of a store, given the names of their folders. -/
def Store.tally (note : String → Entry → β) (s : Store) : Multiset β :=
  s.flatten.map fun (folder, e) => note folder e

/-- A note that does not say where in its folder an entry is, nor what the entry has as its
    parent. -/
structure IgnoresPlace (note : String → Entry → β) : Prop where
  position : ∀ folder e n, note folder (e.setPosition n) = note folder e
  parent : ∀ folder (e : Entry) parent, note folder { e with parent := parent } = note folder e

variable {note : String → Entry → β}

/-- An item of a list may as well be the first of its bag. -/
theorem coe_append_cons (before after : List β) (b : β) :
    ((before ++ b :: after : List β) : Multiset β) = b ::ₘ (before ++ after : List β) :=
  Multiset.coe_eq_coe.2 List.perm_middle

namespace Folder

theorem tally_renumber (hnote : IgnoresPlace note) (f : Folder) (es : List Entry) :
    (f.renumber es).tally note = es.map (note f.name) :=
  congrArg _ (Sequence.map_number Entry.setPosition (hnote.position f.name) 1 es)

theorem tally_add? (hnote : IgnoresPlace note) {f f' : Folder} {e : Entry}
    (h : f.add? e = some f') : f'.tally note = note f.name e ::ₘ f.tally note := by
  obtain ⟨-, rfl⟩ := add?_eq_some h
  have hlast : note f.name { e with position := f.entries.length + 1, parent := some f.name } =
      note f.name e :=
    (hnote.parent f.name (e.setPosition (f.entries.length + 1)) _).trans (hnote.position ..)
  rw [tally, List.map_append, List.map_singleton, hlast, coe_append_cons, List.append_nil]
  rfl

theorem tally_take? (hnote : IgnoresPlace note) {f f' : Folder} {name : String} {e : Entry}
    (h : f.take? name = some (e, f')) : f.tally note = note f.name e ::ₘ f'.tally note := by
  obtain ⟨e₀, he₀, rfl, rfl⟩ := take?_eq_some h
  obtain ⟨hp, before, after, hsplit, hbefore⟩ := List.find?_eq_some_iff_append.1 he₀
  have hrest : f.entries.eraseP (·.name == name) = before ++ after := by
    rw [hsplit, List.eraseP_append_right _ (by simpa using hbefore)]
    simp [hp]
  rw [tally_renumber hnote, hrest, hnote.parent, tally, hsplit, List.map_append, List.map_cons,
    coe_append_cons, List.map_append]

theorem Replaces.tally (note : String → Entry → β) {f f' : Folder} {e e' : Entry}
    (h : f.Replaces f' e e') :
    note f.name e ::ₘ f'.tally note = note f.name e' ::ₘ f.tally note := by
  obtain ⟨before, after, hsplit, rfl⟩ := h
  rw [Folder.tally, Folder.tally, hsplit]
  simp only [List.map_append, List.map_cons, coe_append_cons]
  exact Multiset.cons_swap ..

theorem tally_place (hnote : IgnoresPlace note) {f f' : Folder} {name : String} {rank : Int}
    (h : f.place name rank = .ok f') : f'.tally note = f.tally note := by
  obtain ⟨-, es, -, perm, rfl⟩ := place_eq_ok h
  rw [tally_renumber hnote, tally, Multiset.coe_eq_coe]
  exact perm.map _

theorem tally_rename (hnote : IgnoresPlace note) (f : Folder) (name : String) :
    (f.rename name).tally note = f.entries.map (note name) := by
  rw [tally, rename, List.map_map]
  exact congrArg _ (List.map_congr_left fun e _ => hnote.parent name e (some name))

end Folder

namespace Store

theorem tally_cons (f : Folder) (fs : List Folder) :
    (⟨f :: fs⟩ : Store).tally note = f.tally note + (⟨fs⟩ : Store).tally note := by
  simp [tally, Folder.tally, flatten, Function.comp_def]

theorem tally_eq_bind (s : Store) :
    s.tally note = (s.folders : Multiset Folder).bind (·.tally note) := by
  obtain ⟨folders⟩ := s
  induction folders with
  | nil => rfl
  | cons f fs ih => rw [tally_cons, ih, ← Multiset.cons_coe, Multiset.cons_bind]

/-- Folders with the same tallies make stores with the same tally, in whatever order. -/
theorem tally_congr {s s' : Store}
    (h : (s'.folders.map (·.tally note)).Perm (s.folders.map (·.tally note))) :
    s'.tally note = s.tally note := by
  rw [tally_eq_bind, tally_eq_bind, Multiset.bind, Multiset.bind, Multiset.map_coe,
    Multiset.map_coe, Multiset.coe_eq_coe.2 h]

/-- What is done to the notes of every folder is done to the tally. -/
theorem tally_map {g : β → β} {change : Folder → Folder} {fs : List Folder}
    (h : ∀ f ∈ fs, (change f).tally note = (f.tally note).map g) :
    (⟨fs.map change⟩ : Store).tally note = ((⟨fs⟩ : Store).tally note).map g := by
  induction fs with
  | nil => rfl
  | cons f fs ih =>
    have hfs := ih fun f' hf' => h f' (List.mem_cons_of_mem f hf')
    rw [List.map_cons, tally_cons, tally_cons, hfs, h f List.mem_cons_self, Multiset.map_add]

/-- Folders that are left out take their notes with them. -/
theorem tally_filter {p : β → Prop} [DecidablePred p] {q : Folder → Bool} {fs : List Folder}
    (h : ∀ f ∈ fs, (f.tally note).filter p = if q f = true then f.tally note else 0) :
    (⟨fs.filter q⟩ : Store).tally note = ((⟨fs⟩ : Store).tally note).filter p := by
  induction fs with
  | nil => rfl
  | cons f fs ih =>
    have hfs := ih fun f' hf' => h f' (List.mem_cons_of_mem f hf')
    rw [tally_cons, Multiset.filter_add, h f List.mem_cons_self, ← hfs]
    by_cases hq : q f = true
    · rw [List.filter_cons_of_pos hq, tally_cons, if_pos hq]
    · rw [List.filter_cons_of_neg hq, if_neg hq, zero_add]

theorem tally_modifyFolder {s : Store} {name : String} {change : Folder → Folder}
    (kept : ∀ f, s.folder? name = some f → (change f).tally note = f.tally note) :
    (s.modifyFolder name change).tally note = s.tally note :=
  tally_congr (.of_eq (Sequence.map_modifyFirst kept))

/-- The tally changes by what is noted down for one folder. -/
theorem tally_of_split (note : String → Entry → β) {s s' : Store} {f f' : Folder}
    {before after : List Folder} (hs : s.folders = before ++ f :: after)
    (hs' : s'.folders = before ++ f' :: after) :
    s'.tally note + f.tally note = s.tally note + f'.tally note := by
  rw [tally_eq_bind, tally_eq_bind, hs, hs']
  simp only [← Multiset.coe_add, ← Multiset.cons_coe, Multiset.add_bind, Multiset.cons_bind]
  ac_rfl

theorem tally_setFolder (note : String → Entry → β) {s : Store} {name : String} {f : Folder}
    (h : s.folder? name = some f) (f' : Folder) :
    (s.setFolder name f').tally note + f.tally note = s.tally note + f'.tally note := by
  obtain ⟨before, after, hsplit, hchanged⟩ := Sequence.modifyFirst_split (f := fun _ => f') h
  exact tally_of_split note hsplit hchanged

/-- The tally loses a note where one is taken from a folder. -/
theorem tally_setFolder_of_take {s : Store} {name : String} {f f' : Folder} {b : β}
    (h : s.folder? name = some f) (taken : f.tally note = b ::ₘ f'.tally note) :
    b ::ₘ (s.setFolder name f').tally note = s.tally note := by
  have hset := tally_setFolder note h f'
  rw [taken, Multiset.add_cons, ← Multiset.cons_add] at hset
  exact add_right_cancel hset

/-- The tally gains a note where one is added to a folder. -/
theorem tally_setFolder_of_add {s : Store} {name : String} {f f' : Folder} {b : β}
    (h : s.folder? name = some f) (added : f'.tally note = b ::ₘ f.tally note) :
    (s.setFolder name f').tally note = b ::ₘ s.tally note := by
  have hset := tally_setFolder note h f'
  rw [added, Multiset.add_cons, ← Multiset.cons_add] at hset
  exact add_right_cancel hset

/-- Where no note says what changes in the entries, the tally stays. -/
theorem tally_modifyEntry_of_same {s : Store} {path : Path} {change : Entry → Entry}
    (same : ∀ folder e, note folder (change e) = note folder e) :
    (s.modifyEntry path change).tally note = s.tally note := by
  unfold modifyEntry
  split
  · rfl
  · refine tally_modifyFolder fun f _ => congrArg Multiset.ofList ?_
    exact Sequence.map_modifyFirst fun e _ => same f.name e

theorem tally_renumber {s : Store} {fs : List Folder} (perm : fs.Perm s.folders) :
    (renumber fs).tally note = s.tally note := by
  refine tally_congr ?_
  rw [renumber, Sequence.map_number Folder.setPosition fun _ _ => rfl]
  exact perm.map _

theorem tally_insert? {s s' : Store} {f : Folder} (h : s.insert? f = some s') :
    s'.tally note = s.tally note + f.tally note := by
  obtain ⟨-, rfl⟩ := insert?_eq_some h
  rw [tally_eq_bind, tally_eq_bind, ← Multiset.coe_add, Multiset.add_bind, Multiset.coe_singleton,
    Multiset.singleton_bind]
  rfl

theorem tally_placeFolder {s s' : Store} {name : String} {rank : Int}
    (h : s.placeFolder name rank = .ok s') : s'.tally note = s.tally note := by
  obtain ⟨-, fs, -, perm, rfl⟩ := placeFolder_eq_ok h
  exact tally_renumber perm

/-- A folder that is changed in one note changes the tally of the store in that note. -/
theorem cons_tally_of_split {s s' : Store} {f f' : Folder} {b b' : β}
    (h : s'.tally note + f.tally note = s.tally note + f'.tally note)
    (hf : b ::ₘ f'.tally note = b' ::ₘ f.tally note) :
    b ::ₘ s'.tally note = b' ::ₘ s.tally note := by
  refine add_right_cancel (b := f.tally note) ?_
  rw [Multiset.cons_add, h, ← Multiset.add_cons, hf, Multiset.add_cons, Multiset.cons_add]

theorem Replaces.tally (note : String → Entry → β) {s s' : Store} {e e' : Entry}
    (h : s.Replaces s' e e') : ∃ f ∈ s.folders, e ∈ f.entries ∧
      note f.name e ::ₘ s'.tally note = note f.name e' ::ₘ s.tally note := by
  obtain ⟨before, f, f', after, hs, hs', hf⟩ := h
  refine ⟨f, by simp [hs], ?_, cons_tally_of_split (tally_of_split note hs hs') (hf.tally note)⟩
  obtain ⟨before, after, hsplit, -⟩ := hf
  simp [hsplit]

/-- The tally changes by what is noted down for one entry. -/
theorem tally_modifyEntry (note : String → Entry → β) {s : Store} {path : Path} {e : Entry}
    (h : s.entryAt? path = some e) (change : Entry → Entry) :
    note path.folder e ::ₘ (s.modifyEntry path change).tally note =
      note path.folder (change e) ::ₘ s.tally note := by
  obtain ⟨f, name, hf, hname, he⟩ := entryAt?_eq_some.1 h
  obtain ⟨-, hfolder⟩ := folder?_eq_some hf
  have hentry := (Folder.replaces_modify he change).tally note
  rw [hfolder] at hentry
  rw [modifyEntry_eq_setFolder hf hname]
  exact cons_tally_of_split (tally_setFolder note hf _) hentry

end Store
end StartPage
