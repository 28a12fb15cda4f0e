import StartPage.Action.Entries
import StartPage.Proofs.Replacement

/-!
    What a move can do. It is refused, and then leaves the store as it was, or it is made in one of
    three ways: a folder gets a new name, an entry gets a new name within its folder, or an entry is
    taken out of its folder and added to another.

        mv sites/ pages/       mv sites/a.lnk sites/b       mv sites/a.lnk other/

    An entry that was taken out is always added: the name that was looked for in the other folder
    is the one that it gets there. -/

namespace StartPage

/-- The name that an entry gets when it is moved to where a path leads. -/
def Entry.nameAt (e : Entry) (target : Path) : String :=
  Name.normalize (target.entry?.getD e.name) e.extension

theorem Entry.normalize_nameAt (e : Entry) (target : Path) :
    Name.normalize (e.nameAt target) e.extension = e.nameAt target :=
  Name.normalize_normalize e.kind.not_mem_extension _

theorem Entry.rename_nameAt (e : Entry) (target : Path) :
    e.rename (e.nameAt target) = { e with name := e.nameAt target } := by
  rw [rename, e.normalize_nameAt]

namespace Action

/-- What is said of a move that lost its entry on the way. -/
def failedToMove (source dest : String) : Response :=
  .error ("Failed to move " ++ source ++ " to " ++ dest)

/-- A move that is refused leaves the store as it was, and nothing gets lost. -/
structure RefusesMove (s : Store) (result : Store × Response) : Prop where
  store : result.1 = s
  kind : result.2.kind ≠ .success
  navigation : result.2.navigation = none
  kept : ∀ source dest, result.2 ≠ failedToMove source dest

theorem ne_failedToMove {r : Response} (h : r.message.toList.head? ≠ some 'F')
    (source dest : String) : r ≠ failedToMove source dest := by
  rintro rfl
  exact h (by simp [failedToMove, Response.error])

theorem RefusesMove.error {s : Store} {message : String} (h : message.toList.head? ≠ some 'F') :
    RefusesMove s (s, .error message) := ⟨rfl, nofun, rfl, ne_failedToMove h⟩

theorem RefusesMove.info {s : Store} {message : String} (h : message.toList.head? ≠ some 'F') :
    RefusesMove s (s, .info message) := ⟨rfl, nofun, rfl, ne_failedToMove h⟩

/-- What a move from one path to another makes of a store, where it is made: a folder gets a new
    name, an entry gets one within its folder, or it is taken out of its folder and added to
    another. -/
inductive Moves (s : Store) (source target : Path) : Store → Prop
  | folder {f : Folder} (whole : source.entry? = none)
      (found : s.folder? source.folder = some f) (free : s.folder? target.folder = none) :
      Moves s source target (s.modifyFolder source.folder (·.rename target.folder))
  | within {f : Folder} {e : Entry} (named : source.entry? = some e.name)
      (found : s.folder? source.folder = some f) (entry : f.entry? e.name = some e)
      (same : target.folder = source.folder) (free : f.entry? (e.nameAt target) = none) :
      Moves s source target
        (s.setFolder source.folder (f.modify e.name (·.rename (e.nameAt target))))
  | across {f f' g g' : Folder} {e e' : Entry} (named : source.entry? = some e.name)
      (found : s.folder? source.folder = some f) (entry : f.entry? e.name = some e)
      (other : target.folder ≠ source.folder) (dest : s.folder? target.folder = some g)
      (taken : f.take? e.name = some (e', f'))
      (added : g.add? (e'.rename (e.nameAt target)) = some g') :
      Moves s source target ((s.setFolder source.folder f').setFolder target.folder g')

/-- A move that is made, and reported. -/
structure MakesMove (s : Store) (source target : Path) (result : Store × Response) : Prop where
  kind : result.2.kind = .success
  message : result.2.message ≠ ""
  navigation : result.2.navigation = none
  moves : Moves s source target result.1

section Cases

variable {s : Store} {source dest : String} {path target : Path} {f : Folder} {e : Entry}

theorem makesMove_renameWithin (named : path.entry? = some e.name)
    (found : s.folder? path.folder = some f) (entry : f.entry? e.name = some e)
    (same : target.folder = path.folder) (free : f.entry? (e.nameAt target) = none) :
    MakesMove s path target (renameWithin s source f e.name (e.nameAt target)) := by
  have hname : (e.rename (e.nameAt target)).name = e.nameAt target := e.normalize_nameAt target
  have hrename : f.renameEntry e.name (e.nameAt target) =
      .ok (e.nameAt target, f.modify e.name (·.rename (e.nameAt target))) := by
    simp [Folder.renameEntry, entry, hname, free]
  unfold renameWithin
  rw [hrename, (Store.folder?_eq_some found).2]
  exact ⟨rfl, by simp [Response.success], rfl, .within named found entry same free⟩

/-- The destination refuses no entry whose name was looked for before: the rules for names, applied
    a second time, change nothing. -/
theorem makesMove_carryOver {g : Folder} (named : path.entry? = some e.name)
    (found : s.folder? path.folder = some f) (entry : f.entry? e.name = some e)
    (other : target.folder ≠ path.folder) (hg : s.folder? target.folder = some g)
    (free : g.entry? (e.nameAt target) = none) :
    MakesMove s path target
      (carryOver s source dest f target.folder e.name (e.nameAt target)) := by
  obtain ⟨-, hfolder⟩ := Store.folder?_eq_some found
  have taken := Folder.take?_of_entry? entry
  have hrest : (f.renumber (f.entries.eraseP (·.name == e.name))).name = path.folder := hfolder
  have hdest := (Store.folder?_setFolder_of_ne other hrest).trans hg
  have hmoved : (Entry.rename { e with parent := none } (e.nameAt target)).name =
    e.nameAt target := e.normalize_nameAt target
  obtain ⟨g', added⟩ : ∃ g',
      g.add? (Entry.rename { e with parent := none } (e.nameAt target)) = some g' := by
    simp [Folder.add?, hmoved, free]
  unfold carryOver
  rw [taken, hfolder]
  dsimp only
  rw [hdest, Option.bind_some, added]
  exact ⟨rfl, by simp [Response.success], rfl, .across named found entry other hg taken added⟩

theorem moveEntry_cases (named : path.entry? = some e.name)
    (found : s.folder? path.folder = some f) (entry : f.entry? e.name = some e) :
    RefusesMove s (moveEntry s source dest f e target) ∨
      MakesMove s path target (moveEntry s source dest f e target) := by
  obtain ⟨-, hfolder⟩ := Store.folder?_eq_some found
  have hnew : Name.normalize (target.entry?.getD e.name) e.extension = e.nameAt target := rfl
  unfold moveEntry
  rw [hnew]
  dsimp only
  split
  · exact .inl (.error (by simp))
  next g hg =>
  split
  · exact .inl (.info (by simp))
  next hfree =>
  have free : g.entry? (e.nameAt target) = none := by simpa using hfree
  split
  · next hsame =>
    have same : target.folder = path.folder := hsame.symm.trans hfolder
    cases Option.some.inj (found.symm.trans (same ▸ hg))
    exact .inr (makesMove_renameWithin named found entry same free)
  · next hother =>
    have other : target.folder ≠ path.folder := fun h => hother (hfolder.trans h.symm)
    exact .inr (makesMove_carryOver named found entry other hg free)

theorem moveFolder_cases (whole : path.entry? = none) (found : s.folder? path.folder = some f) :
    RefusesMove s (moveFolder s path.folder target.folder) ∨
      MakesMove s path target (moveFolder s path.folder target.folder) := by
  unfold moveFolder
  split
  · exact .inl (.error (by decide))
  split
  · exact .inl (.error (by simp))
  · next hfree =>
    exact .inr ⟨rfl, by simp [Response.success], rfl, .folder whole found (by simpa using hfree)⟩

end Cases

theorem move_cases (words : List String) (s : Store) :
    RefusesMove s (move words s) ∨
      ∃ source dest, words = [source, dest] ∧
        MakesMove s (Path.ofText source) (Path.ofText dest) (move words s) := by
  unfold move
  split
  · next source dest =>
    dsimp only
    split
    · exact .inl (.error (by simp))
    next f found =>
    split
    · next whole => exact (moveFolder_cases whole found).imp_right fun h => ⟨source, dest, rfl, h⟩
    · next name hname =>
      split
      · exact .inl (.error (by simp))
      · next e entry =>
        obtain ⟨-, rfl⟩ := Folder.entry?_eq_some entry
        exact (moveEntry_cases hname found entry).imp_right fun h => ⟨source, dest, rfl, h⟩
  · exact .inl (.error (by decide))

end Action
end StartPage
