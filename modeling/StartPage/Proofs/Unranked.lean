import StartPage.Proofs.Loading
import StartPage.Proofs.Records

/-!
    Records without a rank. They come after those that have one, with one exception: they are ordered
    as if their rank were the greatest there is, so that they share its place with records that
    really have it, and what came first in the document comes first.

        a –   b 7   c –                    ──▶   b a c
        a –   b 9223372036854775807  c –   ──▶   a b c     -/

namespace StartPage

/-! ### Ranks that are read -/

/-- The greatest rank that a document can give. -/
def greatestRank : Int := 0x7fff_ffff_ffff_ffff

theorem le_greatestRank_of_int64 {v : Json} {n : Int} (h : Shape.int64 v = .ok n) :
    n ≤ greatestRank := by
  cases v with
  | int m =>
    rw [Shape.int64] at h
    split at h
    · next hbounds =>
      obtain rfl := Except.ok.inj h
      rw [greatestRank]
      omega
    · cases h
  | null | bool _ | float _ | str _ | arr _ | obj _ => cases h

theorem le_greatestRank_of_mapM {v : Option Json} {n : Int}
    (h : (v.mapM Shape.int64).map (·.getD 0) = .ok n) : n ≤ greatestRank := by
  cases v with
  | none =>
    obtain rfl := Except.ok.inj h
    decide
  | some v => exact le_greatestRank_of_int64 (Shape.mapM_some_getD_eq_ok.1 h)

theorem EntryRecord.rank_le_of_read {v : Json} {r : EntryRecord} (h : read v = .ok r) :
    r.rank ≤ greatestRank := by
  cases v with
  | obj fields =>
    have hrank := (readFields_eq_ok.1 h).rank
    rw [Shape.field?_eq_mapM] at hrank
    exact le_greatestRank_of_mapM hrank
  | arr items =>
    cases items with
    | nil => cases h
    | cons t ts =>
      obtain ⟨type, -, h⟩ := Shape.bind_eq_ok.1 h
      cases h
  | null | bool _ | int _ | float _ | str _ => cases h

namespace FolderRecord

theorem IsReadFrom.rank_le {name icon iconClass rank files : Option Json} {r : FolderRecord}
    (h : IsReadFrom name icon iconClass rank files r) :
    r.rank ≤ greatestRank ∧ ∀ e ∈ r.entries, e.rank ≤ greatestRank := by
  refine ⟨le_greatestRank_of_mapM h.rank, fun e he => ?_⟩
  have hentries := h.entries
  cases files with
  | none =>
    rw [← Except.ok.inj hentries] at he
    cases he
  | some v =>
    obtain ⟨u, hu⟩ := Shape.exists_of_mem_list (Shape.mapM_some_getD_eq_ok.1 hentries) he
    exact EntryRecord.rank_le_of_read hu

theorem rank_le_of_read {v : Json} {r : FolderRecord} (h : read v = .ok r) :
    r.rank ≤ greatestRank ∧ ∀ e ∈ r.entries, e.rank ≤ greatestRank := by
  cases v with
  | obj fields => exact (readFields_eq_ok.1 h).rank_le
  | arr items => exact (readItems_eq_ok.1 h).2.rank_le
  | null | bool _ | int _ | float _ | str _ => cases h

end FolderRecord

/-! ### The order of what is kept -/

section Order

variable {α β : Type} [DecidableEq β] {rank : α → Int} {records : List α}

/-- A record without a rank stands before one with a rank only where that is the greatest, and the
    two stood so among the records already. -/
def RankedFirst (rank : α → Int) (records : List α) (a b : α) : Prop :=
  rank a ≤ 0 → 0 < rank b → rank b = greatestRank ∧ [a, b].Sublist records

theorem IsRanked.pairwise_rankedFirst {ranked : List α} (h : IsRanked rank records ranked)
    (bounded : ∀ a ∈ records, rank a ≤ greatestRank) :
    ranked.Pairwise (RankedFirst rank records) := by
  refine List.pairwise_iff_forall_sublist.2 fun {a b} hab ha hb => ?_
  have hle := List.pairwise_iff_forall_sublist.1 h.ascending hab
  have hbound := bounded b (h.mem_iff.1 (hab.subset (by simp)))
  rw [rankKey, rankKey, if_neg (by omega), if_pos hb] at hle
  have hgreatest : rank b = greatestRank := Int.le_antisymm hbound hle
  have hkey : rankKey (rank a) = rankKey (rank b) := by
    rw [rankKey, rankKey, if_neg (by omega), if_pos hb, hgreatest]
    rfl
  exact ⟨hgreatest, h.pair_sublist hab hkey⟩

/-- The first of every name are in the order of the ranks, and those without a rank come last. -/
theorem pairwise_rankedFirst_firsts (key : α → β) (bounded : ∀ a ∈ records, rank a ≤ greatestRank) :
    (Sequence.firsts key (sortByRank rank records)).Pairwise (RankedFirst rank records) :=
  ((isRanked_sortByRank rank records).pairwise_rankedFirst bounded).sublist
    (Sequence.firsts_sublist key _)

end Order

namespace Store

/-- Where a document is read, the store has a folder for each record that is kept, in that order.
    Folders with a rank come before those without, and so do entries in each folder; but what has the
    greatest rank there is comes after what stands before it in the document without a rank. -/
theorem ranked_before_unranked {v : Json} {s : Store} (h : ofJson v = .ok s) :
    ∃ records, Shape.list FolderRecord.read v = .ok records ∧
      s.folders = ((FolderRecord.kept records).mapIdx fun i r => r.folderAt (i + 1)) ∧
      (FolderRecord.kept records).Pairwise (RankedFirst FolderRecord.rank records) ∧
      ∀ r ∈ FolderRecord.kept records,
        (EntryRecord.kept r.entries).Pairwise (RankedFirst EntryRecord.rank r.entries) := by
  rw [ofJson] at h
  split at h
  · next records hrecords =>
    obtain rfl := Except.ok.inj h
    have hbounded : ∀ r ∈ records,
        r.rank ≤ greatestRank ∧ ∀ e ∈ r.entries, e.rank ≤ greatestRank := by
      intro r hr
      obtain ⟨u, hu⟩ := Shape.exists_of_mem_list hrecords hr
      exact FolderRecord.rank_le_of_read hu
    refine ⟨records, hrecords, folders_ofRecords records,
      pairwise_rankedFirst_firsts _ fun r hr => (hbounded r hr).1, fun r hr => ?_⟩
    have hmem : r ∈ records := mem_sortByRank.1 ((Sequence.firsts_sublist _ _).subset hr)
    exact pairwise_rankedFirst_firsts _ (hbounded r hmem).2
  · cases h

/-- The record of a link. -/
def linkRecord (name : String) (rank : Int) : EntryRecord :=
  ⟨.link, "x.org", name, none, none, 0, "", rank⟩

/-- The records of two folders without a rank, around that of one with the rank given, in which a
    link without a rank stands before one with that rank. -/
def aroundRecords (rank : Int) : List FolderRecord :=
  [⟨"a", none, none, 0, []⟩, ⟨"b", none, none, rank, [linkRecord "d" 0, linkRecord "e" rank]⟩,
    ⟨"c", none, none, -1, []⟩]

/-- A document with these records. -/
def around (rank : Int) : Json :=
  let link (name : String) (rest : List (String × Json)) : Json :=
    .obj ([("type", .str "LinkFile"), ("fileName", .str name), ("content", .str "x.org")] ++ rest)
  .arr [.obj [("name", .str "a")],
    .obj [("name", .str "b"), ("position", .int rank),
      ("files", .arr [link "d" [], link "e" [("position", .int rank)]])],
    .obj [("name", .str "c"), ("position", .int (-1))]]

/-- Folders by name, with the names of their entries. -/
def names (s : Store) : List (String × List String) :=
  s.folders.map fun f => (f.name, f.entries.map Entry.name)

theorem names_of_kept {s : Store} {records : List FolderRecord}
    (h : s.folders = (FolderRecord.kept records).mapIdx fun i r => r.folderAt (i + 1)) :
    s.names = (FolderRecord.kept records).map fun r =>
      (r.name, (EntryRecord.kept r.entries).map EntryRecord.entryName) := by
  rw [names, h]
  refine List.ext_getElem (by simp) fun i _ _ => ?_
  simp only [List.getElem_map, List.getElem_mapIdx, FolderRecord.folderAt, Prod.mk.injEq, true_and]
  exact List.ext_getElem (by simp) (by simp [EntryRecord.entryAt])

theorem ranked_before_unranked_nine :
    ∃ s, ofJson (around 9) = .ok s ∧ s.names = [("b", ["e.lnk", "d.lnk"]), ("a", []), ("c", [])] ∧
      (FolderRecord.kept (aroundRecords 9)).Pairwise
        (RankedFirst FolderRecord.rank (aroundRecords 9)) := by
  have hread : Shape.list FolderRecord.read (around 9) = .ok (aroundRecords 9) := rfl
  have hstore : ofJson (around 9) = .ok (ofRecords (aroundRecords 9)) := by rw [ofJson, hread]
  obtain ⟨records, hrecords, hfolders, hfirst, -⟩ := ranked_before_unranked hstore
  obtain rfl := Except.ok.inj (hread.symm.trans hrecords)
  refine ⟨_, hstore, ?_, hfirst⟩
  have hsort : sortByRank FolderRecord.rank (aroundRecords 9) =
      [⟨"b", none, none, 9, [linkRecord "d" 0, linkRecord "e" 9]⟩, ⟨"a", none, none, 0, []⟩,
        ⟨"c", none, none, -1, []⟩] :=
    (sortByRank_swap [] (by decide)).trans (List.mergeSort_of_pairwise (by decide))
  have hentries : sortByRank EntryRecord.rank [linkRecord "d" 0, linkRecord "e" 9] =
      [linkRecord "e" 9, linkRecord "d" 0] :=
    (sortByRank_swap [] (by decide)).trans (List.mergeSort_of_pairwise (by decide))
  have hkept : FolderRecord.kept (aroundRecords 9) =
      [⟨"b", none, none, 9, [linkRecord "d" 0, linkRecord "e" 9]⟩, ⟨"a", none, none, 0, []⟩,
        ⟨"c", none, none, -1, []⟩] := by
    rw [FolderRecord.kept, hsort]
    rfl
  rw [names_of_kept hfolders, hkept]
  simp only [List.map_cons, List.map_nil, EntryRecord.kept, hentries]
  decide +kernel

theorem unranked_before_greatest :
    ∃ s, ofJson (around greatestRank) = .ok s ∧
      Shape.list FolderRecord.read (around greatestRank) = .ok (aroundRecords greatestRank) ∧
      s.names = [("a", []), ("b", ["d.lnk", "e.lnk"]), ("c", [])] ∧
      ((aroundRecords greatestRank).map fun r => (r.name, decide (0 < r.rank))) =
        [("a", false), ("b", true), ("c", false)] ∧
      ((aroundRecords greatestRank).map fun r => r.entries.map fun e =>
        (e.name, decide (0 < e.rank))) = [[], [("d", false), ("e", true)], []] := by
  have hread : Shape.list FolderRecord.read (around greatestRank) =
      .ok (aroundRecords greatestRank) := rfl
  have hstore : ofJson (around greatestRank) = .ok (ofRecords (aroundRecords greatestRank)) := by
    rw [ofJson, hread]
  refine ⟨_, hstore, hread, ?_, rfl, rfl⟩
  have hsort : sortByRank FolderRecord.rank (aroundRecords greatestRank) =
      aroundRecords greatestRank := List.mergeSort_of_pairwise (by decide)
  have hentries : sortByRank EntryRecord.rank [linkRecord "d" 0, linkRecord "e" greatestRank] =
      [linkRecord "d" 0, linkRecord "e" greatestRank] := List.mergeSort_of_pairwise (by decide)
  have hkept : FolderRecord.kept (aroundRecords greatestRank) = aroundRecords greatestRank := by
    rw [FolderRecord.kept, hsort]
    rfl
  rw [names_of_kept (folders_ofRecords _), hkept]
  simp only [aroundRecords, List.map_cons, List.map_nil, EntryRecord.kept, hentries]
  decide +kernel

end Store
end StartPage
