import StartPage.Proofs.WellFormed.Store

/-!
    Stores that differ in one entry. Changing the entry that a path leads to puts another in its
    place, and leaves every other entry, every folder and their order as they are.

        sites  ┬  example.lnk  0 hits          sites  ┬  example.lnk  1 hit
               └  search.qry                 ──▶      └  search.qry               -/

namespace StartPage

/-- The second folder has `e'` where the first has `e`, and is the same otherwise. -/
def Folder.Replaces (f f' : Folder) (e e' : Entry) : Prop :=
  ∃ before after, f.entries = before ++ e :: after ∧
    f' = { f with entries := before ++ e' :: after }

/-- The second store has `e'` where the first has `e`, and is the same otherwise. -/
def Store.Replaces (s s' : Store) (e e' : Entry) : Prop :=
  ∃ before f f' after, s.folders = before ++ f :: after ∧ s'.folders = before ++ f' :: after ∧
    f.Replaces f' e e'

theorem Folder.replaces_modify {f : Folder} {name : String} {e : Entry}
    (h : f.entry? name = some e) (change : Entry → Entry) :
    f.Replaces (f.modify name change) e (change e) := by
  obtain ⟨before, after, hsplit, hchanged⟩ := Sequence.modifyFirst_split (f := change) h
  exact ⟨before, after, hsplit, by rw [Folder.modify, hchanged]⟩

theorem Folder.IsSound.entry?_of_mem {f : Folder} {e : Entry} (h : f.IsSound)
    (he : e ∈ f.entries) : f.entry? e.name = some e := Sequence.find?_of_mem h.names he

/-- No other entry of the folder has the name. -/
theorem Folder.IsSound.eq_of_entry? {f : Folder} {name : String} {e x : Entry} (h : f.IsSound)
    (he : f.entry? name = some e) (hx : x ∈ f.entries) (hname : x.name = name) : x = e := by
  subst hname
  exact Option.some.inj ((h.entry?_of_mem hx).symm.trans he)

namespace Store

theorem WellFormed.folder?_of_mem {s : Store} {f : Folder} (h : s.WellFormed)
    (hf : f ∈ s.folders) : s.folder? f.name = some f := Sequence.find?_of_mem h.names hf

/-- No other folder has the name. -/
theorem WellFormed.eq_of_folder? {s : Store} {name : String} {f g : Folder} (h : s.WellFormed)
    (hf : s.folder? name = some f) (hg : g ∈ s.folders) (hname : g.name = name) : g = f := by
  subst hname
  exact Option.some.inj ((h.folder?_of_mem hg).symm.trans hf)

theorem entryAt?_eq_some {s : Store} {path : Path} {e : Entry} :
    s.entryAt? path = some e ↔ ∃ f name, s.folder? path.folder = some f ∧
      path.entry? = some name ∧ f.entry? name = some e := by
  constructor
  · intro h
    obtain ⟨f, hf, h⟩ := Option.bind_eq_some_iff.1 h
    obtain ⟨name, hname, h⟩ := Option.bind_eq_some_iff.1 h
    exact ⟨f, name, hf, hname, h⟩
  · rintro ⟨f, name, hf, hname, h⟩
    simp [entryAt?, hf, hname, h]

theorem replaces_modifyEntry {s : Store} {path : Path} {e : Entry} (h : s.entryAt? path = some e)
    (change : Entry → Entry) : s.Replaces (s.modifyEntry path change) e (change e) := by
  obtain ⟨f, name, hf, hname, he⟩ := entryAt?_eq_some.1 h
  obtain ⟨before, after, hsplit, hchanged⟩ :=
    Sequence.modifyFirst_split (f := (·.modify name change)) hf
  refine ⟨before, f, f.modify name change, after, hsplit, ?_, Folder.replaces_modify he change⟩
  rw [modifyEntry, hname, ← hchanged]
  rfl

theorem Replaces.eq_of_same {s s' : Store} {e : Entry} (h : s.Replaces s' e e) : s' = s := by
  obtain ⟨before, f, f', after, hs, hs', es, es', hf, rfl⟩ := h
  obtain ⟨folders⟩ := s
  obtain ⟨folders'⟩ := s'
  obtain ⟨name, icon, iconClass, position, entries⟩ := f
  simp_all

/-- An entry that is put back where it was found changes nothing. -/
theorem modifyEntry_self {s : Store} {path : Path} {e : Entry} (h : s.entryAt? path = some e) :
    (s.modifyEntry path fun _ => e) = s :=
  (replaces_modifyEntry h fun _ => e).eq_of_same

theorem modifyFolder_eq_setFolder {s : Store} {name : String} {f : Folder}
    (h : s.folder? name = some f) (change : Folder → Folder) :
    s.modifyFolder name change = s.setFolder name (change f) := by
  refine congrArg Store.mk (Sequence.modifyFirst_congr fun g hg => ?_)
  rw [Option.some.inj (hg.symm.trans h)]

theorem modifyEntry_eq_setFolder {s : Store} {path : Path} {f : Folder} {name : String}
    (hf : s.folder? path.folder = some f) (hname : path.entry? = some name)
    (change : Entry → Entry) :
    s.modifyEntry path change = s.setFolder path.folder (f.modify name change) := by
  rw [modifyEntry, hname, ← modifyFolder_eq_setFolder hf fun f => f.modify name change]

theorem folder?_setFolder_of_ne {s : Store} {name other : String} {f : Folder}
    (hne : other ≠ name) (hf : f.name = name) :
    (s.setFolder name f).folder? other = s.folder? other := by
  refine Sequence.find?_modifyFirst_of_not (fun g hg => ?_) (fun _ _ => ?_) s.folders
  · have hname : g.name = name := by simpa using hg
    simpa [hname] using hne.symm
  · simpa [hf] using hne.symm

end Store
end StartPage
