import Mathlib.Data.Multiset.Filter
import Mathlib.Data.Multiset.UnionInter
import StartPage.Proofs.Tally

/-!
    The hits of the entries of a store, and a ledger that has them by path.

        sites/example.lnk   3
        sites/search.qry    1     ──  one more hit of search.qry  ──▶     2
        tools/docs.lnk      0

    In a well-formed store no path stands in the ledger twice, and next to a path stand the hits of
    the entry that it leads to. -/

namespace StartPage

/-- The hits of the entries of a store. -/
def Store.hits (s : Store) : Multiset UInt64 := s.tally fun _ e => e.hits

/-- A line of the ledger. -/
def ledgerLine (folder : String) (e : Entry) : Path × UInt64 := (⟨folder, some e.name⟩, e.hits)

/-- The hits of the entries of a store, next to their paths. -/
def Store.ledger (s : Store) : Multiset (Path × UInt64) := s.tally ledgerLine

/-- The hits of the entries whose paths have a property. -/
def Store.hitsOf (s : Store) (p : Path → Prop) [DecidablePred p] : Multiset UInt64 :=
  (s.ledger.filter fun line => p line.1).map Prod.snd

/-- One more hit of an entry; the rest of it is the same. -/
def Entry.OneMoreHit (e e' : Entry) : Prop :=
  e'.hits.toNat = e.hits.toNat + 1 ∧ e' = { e with hits := e'.hits }

/-- One more hit of one entry of a store; the rest of the store is the same. -/
def Store.OneMoreHit (s s' : Store) : Prop :=
  ∃ e e' : Entry, s.Replaces s' e e' ∧ e.OneMoreHit e'

theorem ignoresPlace_ledgerLine : IgnoresPlace ledgerLine :=
  ⟨fun _ _ _ => rfl, fun _ _ _ => rfl⟩

namespace Store

variable {s s' : Store}

theorem hits_eq_map_ledger (s : Store) : s.hits = s.ledger.map Prod.snd := by
  rw [hits, ledger, tally, tally, Multiset.map_coe, List.map_map]
  rfl

theorem ledgerLine_of_entryAt? {path : Path} {e : Entry} (h : s.entryAt? path = some e) :
    ledgerLine path.folder e = (path, e.hits) := by
  obtain ⟨f, name, -, hname, he⟩ := entryAt?_eq_some.1 h
  obtain ⟨-, rfl⟩ := Folder.entry?_eq_some he
  rw [ledgerLine, ← hname]

theorem WellFormed.mem_ledger (h : s.WellFormed) {path : Path} {hits : UInt64} :
    (path, hits) ∈ s.ledger ↔ ∃ e, s.entryAt? path = some e ∧ e.hits = hits := by
  constructor
  · intro hmem
    obtain ⟨⟨folder, e⟩, hflat, hline⟩ := List.mem_map.1 (Multiset.mem_coe.1 hmem)
    obtain ⟨f, hf, hentries⟩ := List.mem_flatMap.1 hflat
    obtain ⟨e', he, hpair⟩ := List.mem_map.1 hentries
    cases hpair
    cases hline
    have hentry := (h.folders f hf).entry?_of_mem he
    exact ⟨e, entryAt?_eq_some.2 ⟨f, e.name, h.folder?_of_mem hf, rfl, hentry⟩, rfl⟩
  · rintro ⟨e, hentry, rfl⟩
    obtain ⟨f, name, hfolder, -, he⟩ := entryAt?_eq_some.1 hentry
    obtain ⟨hf, hfname⟩ := folder?_eq_some hfolder
    have hflat : (path.folder, e) ∈ s.flatten :=
      List.mem_flatMap.2
        ⟨f, hf, List.mem_map.2 ⟨e, (Folder.entry?_eq_some he).1, by rw [hfname]⟩⟩
    exact Multiset.mem_coe.2 (List.mem_map.2 ⟨_, hflat, ledgerLine_of_entryAt? hentry⟩)

theorem WellFormed.nodup_paths (h : s.WellFormed) : (s.ledger.map Prod.fst).Nodup := by
  have hpaths : s.ledger.map Prod.fst =
      (s.folders.flatMap fun f => f.entries.map fun e => (⟨f.name, some e.name⟩ : Path) :
        List Path) := by
    rw [ledger, tally, Multiset.map_coe, List.map_map, flatten, List.map_flatMap]
    simp only [List.map_map]
    rfl
  rw [hpaths, Multiset.coe_nodup, List.nodup_flatMap]
  constructor
  · intro f hf
    refine List.Nodup.of_map (fun path => path.entry?.getD "") ?_
    rw [List.map_map]
    exact (h.folders f hf).names
  · refine (List.pairwise_map.1 h.names).imp fun {f g} hne => ?_
    rintro path hf hg
    obtain ⟨e, -, rfl⟩ := List.mem_map.1 hf
    obtain ⟨e', -, heq⟩ := List.mem_map.1 hg
    exact hne (congrArg Path.folder heq).symm

/-- The path of one line stands in no other. -/
theorem WellFormed.path_ne_of_cons (h : s.WellFormed) {path : Path} {hits : UInt64}
    {rest : Multiset (Path × UInt64)} (hs : s.ledger = (path, hits) ::ₘ rest) :
    ∀ line ∈ rest, line.1 ≠ path := by
  intro line hline heq
  have hpaths := h.nodup_paths
  rw [hs, Multiset.map_cons, Multiset.nodup_cons] at hpaths
  have hpath := Multiset.mem_map_of_mem Prod.fst hline
  rw [heq] at hpath
  exact hpaths.1 hpath

/-! ### One more hit -/

theorem OneMoreHit.tally (h : s.OneMoreHit s') : ∃ f ∈ s.folders, ∃ e ∈ f.entries, ∃ hits,
    hits.toNat = e.hits.toNat + 1 ∧
      (⟨f.name, some e.name⟩, e.hits) ::ₘ s'.ledger = (⟨f.name, some e.name⟩, hits) ::ₘ s.ledger := by
  obtain ⟨e, e', hreplaces, hmore, he'⟩ := h
  obtain ⟨f, hf, he, htally⟩ := hreplaces.tally ledgerLine
  refine ⟨f, hf, e, he, e'.hits, hmore, ?_⟩
  rw [he'] at htally
  exact htally

theorem OneMoreHit.ne (h : s.OneMoreHit s') : s' ≠ s := by
  rintro rfl
  obtain ⟨f, -, e, -, hits, hmore, htally⟩ := h.tally
  have hline := (Multiset.cons_inj_left _).1 htally
  rw [← (Prod.mk.inj hline).2] at hmore
  omega

/-- An entry keeps its path, and its hits do not get fewer. -/
theorem OneMoreHit.le_hits (h : s.OneMoreHit s') (hs : s.WellFormed) {path : Path} {hits : UInt64}
    (hline : (path, hits) ∈ s.ledger) : ∃ hits', hits ≤ hits' ∧ (path, hits') ∈ s'.ledger := by
  obtain ⟨f, hf, e, he, more, hmore, htally⟩ := h.tally
  have hentry : s.entryAt? ⟨f.name, some e.name⟩ = some e :=
    entryAt?_eq_some.2 ⟨f, e.name, hs.folder?_of_mem hf, rfl, (hs.folders f hf).entry?_of_mem he⟩
  -- both sides of the equation have one line more, that of the entry with its old or new hits
  by_cases hpath : path = ⟨f.name, some e.name⟩
  · subst hpath
    obtain ⟨e₀, he₀, rfl⟩ := hs.mem_ledger.1 hline
    cases Option.some.inj (hentry.symm.trans he₀)
    refine ⟨more, UInt64.le_iff_toNat_le.2 (by omega), ?_⟩
    have hmem := Multiset.mem_cons_self (⟨f.name, some e.name⟩, more) s.ledger
    rw [← htally] at hmem
    refine (Multiset.mem_cons.1 hmem).resolve_left fun heq => ?_
    rw [(Prod.mk.inj heq).2] at hmore
    omega
  · refine ⟨hits, UInt64.le_refl hits, ?_⟩
    have hmem := Multiset.mem_cons_of_mem (b := (⟨f.name, some e.name⟩, more)) hline
    rw [← htally] at hmem
    exact (Multiset.mem_cons.1 hmem).resolve_left fun heq => hpath (Prod.mk.inj heq).1

end Store
end StartPage
