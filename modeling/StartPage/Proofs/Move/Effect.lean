import StartPage.Proofs.Move.Cases
import StartPage.Proofs.Tally

/-!
    What a move does to the entries of a store. It neither loses nor doubles nor alters any: what an
    entry carries is the same before and after. A move that is made touches the entry or the folder
    that it is about, and beyond these only the positions of the entries that are left behind.

        sites  ┬  1  a.lnk                             sites  ─  1  b.lnk
               └  2  b.lnk    ──  mv sites/a.lnk other/c  ──▶
        other  ─  1  d.qry                             other  ┬  1  d.qry
                                                              └  2  c.lnk        -/

namespace StartPage

/-! ### What entries carry -/

/-- What an entry carries wherever it is: everything but its name, its position and its parent. -/
structure Cargo where
  kind : EntryKind
  content : String
  icon : String
  iconClass : String
  hits : UInt64
  description : String
  deriving DecidableEq

def Entry.cargo (e : Entry) : Cargo :=
  ⟨e.kind, e.content, e.icon, e.iconClass, e.hits, e.description⟩

/-- What the entries of a store carry. -/
def Store.cargo (s : Store) : Multiset Cargo := s.tally fun _ e => e.cargo

namespace Action

variable {β : Type} {note : String → Entry → β} {s s' : Store} {source target : Path}

/-- A move either gives a folder a new name, or takes a note about one entry back and makes it anew
    where the entry is then. -/
theorem Moves.tally (hnote : IgnoresPlace note) (h : Moves s source target s') :
    (source.entry? = none ∧ s' = s.modifyFolder source.folder (·.rename target.folder)) ∨
      ∃ e, s.entryAt? source = some e ∧ note source.folder e ::ₘ s'.tally note =
        note target.folder (e.rename (e.nameAt target)) ::ₘ s.tally note := by
  cases h with
  | folder whole found free => exact .inl ⟨whole, rfl⟩
  | @within f e named found entry same free =>
    have hentry : s.entryAt? source = some e :=
      Store.entryAt?_eq_some.2 ⟨f, e.name, found, named, entry⟩
    refine .inr ⟨e, hentry, ?_⟩
    have hmodify := Store.tally_modifyEntry note hentry (·.rename (e.nameAt target))
    rw [Store.modifyEntry_eq_setFolder found named] at hmodify
    rw [same, hmodify]
  | @across f f' g g' e e' named found entry other dest taken added =>
    refine .inr ⟨e, Store.entryAt?_eq_some.2 ⟨f, e.name, found, named, entry⟩, ?_⟩
    obtain ⟨-, hf⟩ := Store.folder?_eq_some found
    obtain ⟨-, hg⟩ := Store.folder?_eq_some dest
    obtain ⟨e₀, he₀, rfl, rfl⟩ := Folder.take?_eq_some taken
    cases Option.some.inj (he₀.symm.trans entry)
    have hdest := (Store.folder?_setFolder_of_ne other
      (f := f.renumber (f.entries.eraseP (·.name == e.name))) hf).trans dest
    have hleft := Store.tally_setFolder_of_take found (Folder.tally_take? hnote taken)
    have hfilled := Store.tally_setFolder_of_add hdest (Folder.tally_add? hnote added)
    have hgiven := hnote.parent g.name (e.rename (e.nameAt target)) none
    rw [hnote.parent, hf] at hleft
    rw [hfilled, Multiset.cons_swap, hleft, ← hg]
    exact congrArg (· ::ₘ s.tally note) hgiven

theorem cargo_move (words : List String) (s : Store) : (move words s).1.cargo = s.cargo := by
  have hnote : IgnoresPlace fun (_ : String) (e : Entry) => e.cargo :=
    ⟨fun _ _ _ => rfl, fun _ _ _ => rfl⟩
  rcases move_cases words s with hrefused | ⟨source, dest, -, hmade⟩
  · rw [hrefused.store]
  rcases hmade.moves.tally hnote with ⟨-, hfolder⟩ | ⟨e, -, hentry⟩
  · rw [hfolder]
    exact Store.tally_modifyFolder fun f _ => f.tally_rename hnote _
  · exact (Multiset.cons_inj_right _).1 hentry

end Action

/-! ### Where entries are -/

namespace Store

/-- A store after an entry of a folder got a new name. -/
def entryRenamed (s : Store) (folder name new : String) : Store where
  folders := s.folders.map fun f =>
    if f.name = folder then
      { f with
        entries := f.entries.map fun e => if e.name = name then { e with name := new } else e }
    else f

/-- A store after an entry of a folder came to the end of another folder, under a new name. -/
def entryCarried (s : Store) (folder : String) (e : Entry) (dest new : String) : Store where
  folders := s.folders.map fun f =>
    if f.name = folder then
      { f with
        entries := (f.entries.filter (·.name != e.name)).mapIdx fun i e =>
          { e with position := i + 1 } }
    else if f.name = dest then
      { f with
        entries := f.entries ++
          [{ e with name := new, position := f.entries.length + 1, parent := some dest }] }
    else f

/-- A store after a folder got a new name. -/
def folderRenamed (s : Store) (folder new : String) : Store where
  folders := s.folders.map fun f =>
    if f.name = folder then
      { f with name := new, entries := f.entries.map fun e => { e with parent := some new } }
    else f

theorem WellFormed.modifyFolder_eq_map {s : Store} (h : s.WellFormed) (name : String)
    (change : Folder → Folder) : s.modifyFolder name change =
      ⟨s.folders.map fun f => if f.name = name then change f else f⟩ :=
  congrArg Store.mk (Sequence.modifyFirst_eq_map h.names name)

/-- A folder is put in its place by any change of all folders that makes it of the old one and leaves
    the others alone. -/
theorem WellFormed.setFolder_eq_map {s : Store} {name : String} {f f' : Folder}
    {change : Folder → Folder} (h : s.WellFormed) (hf : s.folder? name = some f)
    (made : f' = change f) (others : ∀ g ∈ s.folders, g.name ≠ name → change g = g) :
    s.setFolder name f' = ⟨s.folders.map change⟩ := by
  rw [Store.setFolder, h.modifyFolder_eq_map]
  refine congrArg Store.mk (List.map_congr_left fun g hg => ?_)
  split
  · next hname => rw [made, h.eq_of_folder? hf hg hname]
  · next hname => exact (others g hg hname).symm

end Store

namespace Action

/-- What a store is after a move from one path to another that was made. An entry gets the name
    that the destination gives it, or its own if it gives none, by the rules for names. -/
inductive Moved (s : Store) (source target : Path) : Store → Prop
  | within {e : Entry} (named : source.entry? = some e.name)
      (found : s.entryAt? source = some e) (same : target.folder = source.folder) :
      Moved s source target (s.entryRenamed source.folder e.name
        (Name.normalize (target.entry?.getD e.name) e.extension))
  | across {e : Entry} (named : source.entry? = some e.name)
      (found : s.entryAt? source = some e) (other : target.folder ≠ source.folder)
      (dest : (s.folder? target.folder).isSome) :
      Moved s source target (s.entryCarried source.folder e target.folder
        (Name.normalize (target.entry?.getD e.name) e.extension))
  | folder (whole : source.entry? = none) (found : (s.folder? source.folder).isSome)
      (free : s.folder? target.folder = none) :
      Moved s source target (s.folderRenamed source.folder target.folder)

variable {s s' : Store} {source target : Path}

theorem modifyFolder_eq_entryRenamed {f : Folder} {e : Entry} (h : s.WellFormed)
    (found : s.folder? source.folder = some f) (entry : f.entry? e.name = some e) :
    s.modifyFolder source.folder (·.modify e.name (·.rename (e.nameAt target))) =
      s.entryRenamed source.folder e.name (e.nameAt target) := by
  have hf := h.folders f (Store.folder?_eq_some found).1
  rw [h.modifyFolder_eq_map, Store.entryRenamed]
  refine congrArg Store.mk (List.map_congr_left fun g hg => ?_)
  split
  · next hname =>
    obtain rfl := h.eq_of_folder? found hg hname
    rw [Folder.modify, Sequence.modifyFirst_eq_map hf.names]
    have hentries : ∀ x ∈ g.entries, (if x.name = e.name then x.rename (e.nameAt target) else x) =
        if x.name = e.name then { x with name := e.nameAt target } else x := by
      intro x hx
      split
      · next hx' => rw [hf.eq_of_entry? entry hx hx', e.rename_nameAt]
      · rfl
    rw [List.map_congr_left hentries]
  · rfl

theorem setFolder_eq_entryCarried {f f' g g' : Folder} {e e' : Entry} (h : s.WellFormed)
    (found : s.folder? source.folder = some f) (entry : f.entry? e.name = some e)
    (other : target.folder ≠ source.folder) (dest : s.folder? target.folder = some g)
    (taken : f.take? e.name = some (e', f'))
    (added : g.add? (e'.rename (e.nameAt target)) = some g') :
    (s.setFolder source.folder f').setFolder target.folder g' =
      s.entryCarried source.folder e target.folder (e.nameAt target) := by
  have hf := h.folders f (Store.folder?_eq_some found).1
  have hf' := (hf.take? taken).2
  obtain ⟨e₀, he₀, rfl, rfl⟩ := Folder.take?_eq_some taken
  cases Option.some.inj (he₀.symm.trans entry)
  have hgiven : Entry.rename { e with parent := none } (e.nameAt target) =
    { e with name := e.nameAt target, parent := none } := Entry.rename_nameAt _ target
  rw [hgiven] at added
  obtain ⟨-, rfl⟩ := Folder.add?_eq_some added
  have hleft := h.setFolder found hf' rfl rfl
  rw [Store.setFolder, hleft.modifyFolder_eq_map, Store.setFolder, h.modifyFolder_eq_map,
    Store.entryCarried, List.map_map]
  refine congrArg Store.mk (List.map_congr_left fun x hx => ?_)
  dsimp only [Function.comp_apply]
  -- the folder that is left keeps its name, so the second change passes it by
  by_cases hsource : x.name = source.folder
  · obtain rfl := h.eq_of_folder? found hx hsource
    have hleaves : (x.renumber (x.entries.eraseP (·.name == e.name))).name ≠ target.folder :=
      fun hname => other (hname.symm.trans hsource)
    rw [if_pos hsource, if_neg hleaves, if_pos hsource, Folder.renumber,
      Sequence.eraseP_eq_filter hf.names, Sequence.number_eq_mapIdx]
    simp only [Entry.setPosition, Nat.add_comm 1]
  · rw [if_neg hsource]
    by_cases htarget : x.name = target.folder
    · obtain rfl := h.eq_of_folder? dest hx htarget
      rw [if_pos htarget, if_neg hsource, if_pos htarget, htarget]
    · rw [if_neg htarget, if_neg hsource, if_neg htarget]

theorem Moves.moved (h : s.WellFormed) (moves : Moves s source target s') :
    Moved s source target s' := by
  cases moves with
  | folder whole found free =>
    rw [h.modifyFolder_eq_map]
    exact .folder whole (by simp [found]) free
  | @within f e named found entry same free =>
    rw [← Store.modifyFolder_eq_setFolder found fun f => f.modify e.name (·.rename (e.nameAt target)),
      modifyFolder_eq_entryRenamed h found entry]
    exact .within named (Store.entryAt?_eq_some.2 ⟨f, e.name, found, named, entry⟩) same
  | @across f f' g g' e e' named found entry other dest taken added =>
    rw [setFolder_eq_entryCarried h found entry other dest taken added]
    exact .across named (Store.entryAt?_eq_some.2 ⟨f, e.name, found, named, entry⟩) other
      (by simp [dest])

/-- A move keeps what the entries carry, whatever words it is given. It reports success only where
    it was made; then there were two paths, and the store is as the move has it. -/
theorem move_keeps_entries (h : s.WellFormed) (words : List String) :
    (move words s).1.cargo = s.cargo ∧
      ((move words s).2.kind = .success → ∃ source dest, words = [source, dest] ∧
        Moved s (Path.ofText source) (Path.ofText dest) (move words s).1) := by
  refine ⟨cargo_move words s, fun hsuccess => ?_⟩
  rcases move_cases words s with hrefused | ⟨source, dest, hwords, hmade⟩
  · exact absurd hsuccess hrefused.kind
  · exact ⟨source, dest, hwords, hmade.moves.moved h⟩

/-- Two links in one folder and a query in another. -/
def twoFolders : Store where
  folders :=
    [{ Folder.empty "sites" with
        position := 1
        entries :=
          [{ Entry.link "a" "a.org" with hits := 3, position := 1, parent := some "sites" },
            { Entry.link "b" "b.org" with position := 2, parent := some "sites" }] },
      { Folder.empty "other" with
        position := 2
        entries := [{ Entry.query "d" "d" "d.org" with position := 1, parent := some "other" }] }]

theorem move_keeps_entries_across :
    twoFolders.WellFormed ∧
      (move ["sites/a.lnk", "other/c d"] twoFolders).2.kind = .success ∧
      (move ["sites/a.lnk", "other/c d"] twoFolders).1.cargo = twoFolders.cargo ∧
      Moved twoFolders ⟨"sites", some "a.lnk"⟩ ⟨"other", some "c d"⟩
        (move ["sites/a.lnk", "other/c d"] twoFolders).1 := by
  have hstore : twoFolders.WellFormed := by decide +kernel
  have hkind : (move ["sites/a.lnk", "other/c d"] twoFolders).2.kind = .success := by
    decide +kernel
  obtain ⟨hcargo, hmoved⟩ := move_keeps_entries hstore ["sites/a.lnk", "other/c d"]
  obtain ⟨source, dest, hwords, hmoved⟩ := hmoved hkind
  cases hwords
  have hsource : Path.ofText "sites/a.lnk" = ⟨"sites", some "a.lnk"⟩ := by decide +kernel
  have hdest : Path.ofText "other/c d" = ⟨"other", some "c d"⟩ := by decide +kernel
  rw [hsource, hdest] at hmoved
  exact ⟨hstore, hkind, hcargo, hmoved⟩

end Action
end StartPage
