import StartPage.Proofs.Change
import StartPage.Proofs.Details

/-!
    What it means to move an item to a rank. The item comes to the index that is one less than the
    rank, or to the nearest that there is, and the others stay in their order. It goes back by the
    rank of the index that it came from. None of this needs more than words of 64 bits.

        b to rank 4 :   a b c d  ──▶  a c d b        b back to rank 2 :   a c d b  ──▶  a b c d
        b to rank 9 :   a b c d  ──▶  a c d b        b to rank -9 :       a b c d  ──▶  b a c d -/

namespace StartPage.Sequence

variable {α : Type} {items items' : List α} {i j : Nat}

/-! ### Moves -/

/-- Items in which the one at an index came to another index; the others are in their order. -/
structure IsMoved (items : List α) (i j : Nat) (items' : List α) : Prop where
  perm : items'.Perm items
  moved : items'[j]? = items[i]?
  others : items'.eraseIdx j = items.eraseIdx i

/-- The number between two bounds that is nearest to a number. -/
def clamp (lo hi n : Int) : Int := max lo (min n hi)

/-- The index at which an item is to stand among so many. -/
def placeOf (length : Nat) (rank : Int) : Nat := (clamp 0 (length - 1) (rank - 1)).toNat

theorem placeOf_eq (length : Nat) (rank : Int) :
    placeOf length rank = indexOfRank (length - 1) rank := by
  unfold placeOf clamp indexOfRank
  omega

theorem placeOf_succ (h : i < items.length) : placeOf items.length (i + 1) = i := by
  unfold placeOf clamp
  omega

theorem reposition_of_lt (h : i < items.length) (rank : Int) :
    reposition items i rank = (items.eraseIdx i).insertIdx (placeOf items.length rank) items[i] := by
  rw [reposition, List.getElem?_eq_getElem h]
  dsimp only
  rw [List.length_eraseIdx_of_lt h, placeOf_eq]

theorem placeOf_le_length_eraseIdx (h : i < items.length) (rank : Int) :
    placeOf items.length rank ≤ (items.eraseIdx i).length := by
  rw [List.length_eraseIdx_of_lt h, placeOf_eq]
  exact indexOfRank_le ..

theorem isMoved_reposition (h : i < items.length) (rank : Int) :
    IsMoved items i (placeOf items.length rank) (reposition items i rank) where
  perm := reposition_perm items i rank
  moved := by
    rw [reposition_of_lt h, List.getElem?_insertIdx_self, if_pos (placeOf_le_length_eraseIdx h rank),
      List.getElem?_eq_getElem h]
  others := by rw [reposition_of_lt h, List.eraseIdx_insertIdx_self]

/-- An item that came from an index to another goes back by the rank of that index. -/
theorem reposition_back (hi : i < items.length) (hj : j < items.length) :
    reposition (reposition items i (j + 1)) j (i + 1) = items := by
  have hmoved := isMoved_reposition hi (j + 1)
  rw [placeOf_succ hj] at hmoved
  have hlength := length_reposition items i (j + 1)
  have hj' : j < (reposition items i (j + 1)).length := hlength ▸ hj
  have hitem : (reposition items i (j + 1))[j] = items[i] := by
    have hget := hmoved.moved
    rwa [List.getElem?_eq_getElem hj', List.getElem?_eq_getElem hi, Option.some.injEq] at hget
  rw [reposition_of_lt hj', hmoved.others, hitem, hlength, placeOf_succ hi,
    List.insertIdx_eraseIdx_getElem hi]

/-! ### Words of 64 bits -/

/-- The word for a number, if there is one. -/
def word? (n : Int) : Option Int64 :=
  if -0x8000_0000_0000_0000 ≤ n ∧ n < 0x8000_0000_0000_0000 then some (Int64.ofInt n) else none

/-- One less than a word; the least word stays. -/
def before (w : Int64) : Int64 := if w = Int64.minValue then w else w - 1

/-- The word between two bounds that is nearest to a word, if the bounds are in order. -/
def clampWord? (lo hi w : Int64) : Option Int64 :=
  if hi < lo then none
  else some (if w < lo then lo else if hi < w then hi else w)

/-- The index for a rank among the others, reckoned in words; nothing if some number does not fit
    into a word, the bounds are not in order, or the word is no index. -/
def indexOfWord? (last : Nat) (rank : Int64) : Option Nat := do
  let index ← clampWord? 0 (← word? last) (before rank)
  if 0 ≤ index then some index.toNatClampNeg else none

/-- Moves an item to a rank, with indices that are reckoned in words; nothing if there is no place
    at the index. -/
def repositionWord? (items : List α) (index : Nat) (rank : Int64) : Option (List α) :=
  match items[index]? with
  | none => some items
  | some a => do
    let others := items.eraseIdx index
    let place ← indexOfWord? others.length rank
    if place ≤ others.length then some (others.insertIdx place a) else none

/-- Taking one away does not leave the words. -/
theorem toInt_before (w : Int64) :
    (before w).toInt = max (w.toInt - 1) (-0x8000_0000_0000_0000) := by
  have hleast := w.le_toInt
  have hmost := w.toInt_lt
  unfold before
  split
  · next h =>
    rw [h, Int64.toInt_minValue]
    omega
  · next h =>
    have hne : w.toInt ≠ -2 ^ 63 := fun heq =>
      h (Int64.toInt_inj.1 (heq.trans Int64.toInt_minValue.symm))
    rw [Int64.toInt_sub, Int64.toInt_one, Int.bmod_eq_of_le (by omega) (by omega)]
    omega

theorem word?_of_lt {n : Nat} (h : n < 2 ^ 63) : ∃ w, word? n = some w ∧ w.toInt = n := by
  refine ⟨Int64.ofInt n, if_pos (by omega), Int64.toInt_ofInt_of_le (by omega) (by omega)⟩

theorem clampWord?_of_le {lo hi : Int64} (h : lo ≤ hi) (w : Int64) :
    ∃ c, clampWord? lo hi w = some c ∧ c.toInt = clamp lo.toInt hi.toInt w.toInt := by
  rw [Int64.le_iff_toInt_le] at h
  refine ⟨_, if_neg (by rw [Int64.lt_iff_toInt_lt]; omega), ?_⟩
  simp only [Int64.lt_iff_toInt_lt, clamp]
  split
  · omega
  · split
    · omega
    · omega

theorem indexOfWord?_eq {last : Nat} (h : last < 2 ^ 63) (rank : Int64) :
    indexOfWord? last rank = some (indexOfRank last rank.toInt) := by
  obtain ⟨hi, hword, hhi⟩ := word?_of_lt h
  have hle : (0 : Int64) ≤ hi := by
    rw [Int64.le_iff_toInt_le, Int64.toInt_zero, hhi]
    omega
  obtain ⟨index, hclamp, hindex⟩ := clampWord?_of_le hle (before rank)
  rw [Int64.toInt_zero, hhi, toInt_before, clamp] at hindex
  have hpos : (0 : Int64) ≤ index := by
    rw [Int64.le_iff_toInt_le, Int64.toInt_zero]
    omega
  simp only [indexOfWord?, hword, Option.bind_eq_bind, Option.bind_some, hclamp, if_pos hpos]
  rw [indexOfRank, ← Int64.toNat_toInt, hindex]
  refine congrArg some ?_
  omega

/-- Where the length fits into a word, every rank that does can be reckoned with in words. -/
theorem repositionWord?_eq (h : items.length < 2 ^ 63) (index : Nat) (rank : Int64) :
    repositionWord? items index rank = some (reposition items index rank.toInt) := by
  unfold repositionWord? reposition
  cases hget : items[index]? with
  | none => rfl
  | some a =>
    have hothers : (items.eraseIdx index).length < 2 ^ 63 :=
      (List.length_eraseIdx_le items index).trans_lt h
    simp only [indexOfWord?_eq hothers, Option.bind_eq_bind, Option.bind_some,
      if_pos (indexOfRank_le ..)]

/-! ### Clamped moves -/

/-- An item that is moved to a rank comes to the nearest index, and the others stay in their order; an
    index without an item moves nothing. An item goes back by the rank of the index that it came
    from. All this can be reckoned in words of 64 bits. -/
structure IsClamped (items : List α) (i : Nat) : Prop where
  moved (rank : Int) (h : i < items.length) :
    IsMoved items i (placeOf items.length rank) (reposition items i rank)
  absent (rank : Int) (h : items.length ≤ i) : reposition items i rank = items
  back (j : Nat) (hi : i < items.length) (hj : j < items.length) :
    reposition (reposition items i (j + 1)) j (i + 1) = items
  words (rank : Int64) (h : items.length < 2 ^ 63) :
    repositionWord? items i rank = some (reposition items i rank.toInt)

theorem isClamped (items : List α) (i : Nat) : IsClamped items i where
  moved rank h := isMoved_reposition h rank
  absent rank h := reposition_of_length_le rank h
  back _ hi hj := reposition_back hi hj
  words rank h := repositionWord?_eq h i rank

end StartPage.Sequence

namespace StartPage

/-! ### Entries and folders -/

/-- A folder with entries in an order, numbered from 1 on. -/
def Folder.inOrder (f : Folder) (entries : List Entry) : Folder :=
  { f with entries := entries.mapIdx fun i e => { e with position := i + 1 } }

/-- Folders in an order, numbered from 1 on. -/
def Store.inOrder (folders : List Folder) : Store where
  folders := folders.mapIdx fun i f => { f with position := i + 1 }

/-- What a store is after an entry or a folder of it was to come to a rank. -/
inductive Store.Placed (s : Store) (rank : Int) : Change → Store → Prop
  | entry {f : Folder} {e : Entry} {i : Nat} {entries : List Entry} (folder : f ∈ s.folders)
      (entry : f.entries[i]? = some e)
      (moved : Sequence.IsMoved f.entries i (Sequence.placeOf f.entries.length rank) entries) :
      Placed s rank (.within f.name (.place e.name rank)) (s.putFolder (f.inOrder entries))
  | folder {f : Folder} {i : Nat} {folders : List Folder} (folder : s.folders[i]? = some f)
      (moved : Sequence.IsMoved s.folders i (Sequence.placeOf s.folders.length rank) folders) :
      Placed s rank (.placeFolder f.name rank) (.inOrder folders)
  | noEntry {folder name : String}
      (none : ∀ f ∈ s.folders, f.name = folder → ∀ e ∈ f.entries, e.name ≠ name) :
      Placed s rank (.within folder (.place name rank)) s
  | noFolder {name : String} (none : ∀ f ∈ s.folders, f.name ≠ name) :
      Placed s rank (.placeFolder name rank) s

section

variable {s : Store} {f : Folder} {e : Entry}

theorem Folder.IsSound.exists_place (h : f.IsSound) (he : e ∈ f.entries) (rank : Int) :
    ∃ i entries, f.entries[i]? = some e ∧
      Sequence.IsMoved f.entries i (Sequence.placeOf f.entries.length rank) entries ∧
      f.place e.name rank = .ok (f.inOrder entries) := by
  obtain ⟨i, hfind, hget⟩ := Sequence.exists_findIdx? h.names he
  obtain ⟨hi, -⟩ := List.getElem?_eq_some_iff.1 hget
  refine ⟨i, _, hget, Sequence.isMoved_reposition hi rank, ?_⟩
  rw [Folder.place, hfind]
  exact congrArg Except.ok (f.renumber_eq_mapIdx _)

theorem Folder.place_of_none {name : String} (h : f.entry? name = none) (rank : Int) :
    f.place name rank = .error (.noFile (Path.text f.name name)) := by
  rw [Folder.place, List.findIdx?_eq_none_iff.2 (by simpa using entry?_eq_none.1 h)]

theorem Store.WellFormed.placed_within (h : s.WellFormed) (rank : Int) (folder name : String) :
    s.Placed rank (.within folder (.place name rank))
      (s.change (.within folder (.place name rank))).1 := by
  cases found : s.folder? folder with
  | none =>
    rw [Store.change, found]
    exact .noEntry fun f hf hname => absurd hname (folder?_eq_none.1 found f hf)
  | some f =>
    obtain ⟨hf, rfl⟩ := folder?_eq_some found
    cases entry : f.entry? name with
    | none =>
      rw [change_within found, Folder.change, f.place_of_none entry]
      dsimp only [Change.settleFault]
      rw [setFolder_self found]
      refine .noEntry fun g hg hname => ?_
      rw [h.eq_of_folder? found hg hname]
      exact Folder.entry?_eq_none.1 entry
    | some e =>
      obtain ⟨he, rfl⟩ := Folder.entry?_eq_some entry
      obtain ⟨i, entries, hget, hmoved, hplace⟩ :=
        (h.folders f hf).toIsSound.exists_place he rank
      have hput : s.setFolder f.name (f.inOrder entries) = s.putFolder (f.inOrder entries) :=
        h.modifyFolder_eq_putFolder hf rfl
      rw [change_within found, Folder.change, hplace]
      dsimp only [Change.settleFault]
      rw [hput]
      exact .entry hf hget hmoved

theorem Store.WellFormed.placed_folder (h : s.WellFormed) (rank : Int) (name : String) :
    s.Placed rank (.placeFolder name rank) (s.change (.placeFolder name rank)).1 := by
  cases found : s.folder? name with
  | none =>
    have habsent := folder?_eq_none.1 found
    rw [Store.change, Store.placeFolder, List.findIdx?_eq_none_iff.2 (by simpa using habsent)]
    exact .noFolder habsent
  | some f =>
    obtain ⟨hf, rfl⟩ := folder?_eq_some found
    obtain ⟨i, hfind, hget⟩ := Sequence.exists_findIdx? h.names hf
    obtain ⟨hi, -⟩ := List.getElem?_eq_some_iff.1 hget
    rw [Store.change, Store.placeFolder, hfind]
    dsimp only [Change.settleFault]
    rw [Store.renumber_eq_mapIdx]
    exact .folder hget (Sequence.isMoved_reposition hi rank)

end

/-- To move an item is to clamp its rank, and to place an entry or a folder of a well-formed store
    changes the order and nothing else. -/
theorem Sequence.reposition_clamped :
    (∀ {α : Type} (items : List α) (i : Nat), IsClamped items i) ∧
      ∀ s : Store, s.WellFormed → ∀ rank : Int,
        (∀ folder name, s.Placed rank (.within folder (.place name rank))
          (s.change (.within folder (.place name rank))).1) ∧
        ∀ name, s.Placed rank (.placeFolder name rank) (s.change (.placeFolder name rank)).1 :=
  ⟨isClamped, fun _ h rank => ⟨h.placed_within rank, h.placed_folder rank⟩⟩

/-- Ranks beyond both ends, the least word among them, and the second of two folders. -/
theorem Sequence.reposition_clamped_ends :
    1 < ['a', 'b', 'c', 'd'].length ∧
      IsMoved ['a', 'b', 'c', 'd'] 1 3 (reposition ['a', 'b', 'c', 'd'] 1 9) ∧
      reposition ['a', 'b', 'c', 'd'] 1 9 = ['a', 'c', 'd', 'b'] ∧
      reposition (reposition ['a', 'b', 'c', 'd'] 1 4) 3 2 = ['a', 'b', 'c', 'd'] ∧
      reposition ['a', 'b', 'c', 'd'] 4 9 = ['a', 'b', 'c', 'd'] ∧
      repositionWord? ['a', 'b', 'c', 'd'] 1 Int64.minValue = some ['b', 'a', 'c', 'd'] ∧
      Action.twoFolders.WellFormed ∧
      Action.twoFolders.Placed 9 (.placeFolder "sites" 9)
        (Action.twoFolders.change (.placeFolder "sites" 9)).1 ∧
      (Action.twoFolders.change (.placeFolder "sites" 9)).1.folderNames = ["other", "sites"] := by
  have hstore : Action.twoFolders.WellFormed := by decide +kernel
  obtain ⟨hclamped, hplaced⟩ := reposition_clamped
  have hb := hclamped ['a', 'b', 'c', 'd'] 1
  refine ⟨by decide, hb.moved 9 (by decide), rfl, hb.back 3 (by decide) (by decide),
    (hclamped _ 4).absent 9 (by decide), ?_, hstore, (hplaced _ hstore 9).2 "sites",
    by decide +kernel⟩
  rw [hb.words Int64.minValue (by decide), Int64.toInt_minValue]
  rfl

end StartPage
