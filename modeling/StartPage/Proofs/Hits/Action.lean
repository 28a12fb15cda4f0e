import StartPage.Action.Details
import StartPage.Proofs.Hits.Ledger
import StartPage.Proofs.Move.Effect
import StartPage.Proofs.Report
import StartPage.Proofs.WellFormed.Action

/-!
    What commands make of the ledger of hits. No command is a hit: a new entry starts with none,
    an entry that is removed takes its line with it, one that is moved takes its hits along to its
    new path, and all else that is done to entries is not seen in the ledger.

        sites/a.lnk   3                               other/c.lnk   3
        sites/b.lnk   0    ──  mv sites/a.lnk other/c  ──▶    sites/b.lnk   0     -/

namespace StartPage

namespace Action

variable {s : Store}

/-! ### Making -/

theorem ledger_makeFolders (words : List String) (s : Store) :
    (makeFolders words s).1.ledger = s.ledger := by
  refine of_makeFolders (P := fun s' => s'.ledger = s.ledger) (fun _ _ hledger hadd => ?_) words rfl
  exact (Store.tally_insert? hadd).trans ((add_zero _).trans hledger)

/-- An entry is made, with no hits, exactly when that is reported. -/
theorem ledger_makeEntry (words : List String) (s : Store) :
    ((makeEntry words s).2.ReportsDone ∧
      ∃ path, (makeEntry words s).1.ledger = (path, 0) ::ₘ s.ledger) ∨
    (¬ (makeEntry words s).2.ReportsDone ∧ (makeEntry words s).1.ledger = s.ledger) := by
  unfold makeEntry
  split
  · next s' path hmade =>
    obtain ⟨folderName, f, f', e, hf, -, hhits, hadd, rfl⟩ := madeEntry?_eq_some hmade
    have hline := Store.tally_setFolder_of_add hf (Folder.tally_add? ignoresPlace_ledgerLine hadd)
    refine .inl ⟨⟨rfl, by simp [Response.success]⟩, ⟨f.name, some e.name⟩, ?_⟩
    rw [← hhits]
    exact hline
  · exact .inr ⟨fun h => h.2 rfl, rfl⟩

/-! ### Removing -/

theorem removeAll_cons (remove? : Store → String → Option Store) (s : Store) (word : String)
    (words : List String) : (removeAll remove? s (word :: words)).1 =
      (removeAll remove? ((remove? s word).getD s) words).1 := by
  rw [removeAll]
  split
  · next hs => rw [hs, Option.getD_some]
  · next hs => rw [hs, Option.getD_none]

/-- Where a word removes what it aims at, words remove what one of them aims at. -/
theorem ledger_removeAll {β : Type} [DecidableEq β] {remove? : Store → String → Option Store}
    (key : Path → β) (aim : String → β)
    (keeps : ∀ {s s' : Store} {word}, s.WellFormed → remove? s word = some s' → s'.WellFormed)
    (one : ∀ {s : Store} word, s.WellFormed → ((remove? s word).getD s).ledger =
      s.ledger.filter fun line => key line.1 ≠ aim word)
    (words : List String) (h : s.WellFormed) : (removeAll remove? s words).1.ledger =
      s.ledger.filter fun line => key line.1 ∉ words.map aim := by
  induction words generalizing s with
  | nil => exact (Multiset.filter_eq_self.2 fun _ _ => List.not_mem_nil).symm
  | cons word words ih =>
    have hnext : ((remove? s word).getD s).WellFormed := by
      cases hremove : remove? s word with
      | none => exact h
      | some s' => exact keeps h hremove
    rw [removeAll_cons, ih hnext, one word h, Multiset.filter_filter]
    refine Multiset.filter_congr fun line _ => ?_
    rw [List.map_cons, List.mem_cons, not_or, and_comm]

theorem removeEntry?_of_entryAt? {path : String} {e : Entry}
    (h : s.entryAt? (Path.ofText path) = some e) : ∃ s', removeEntry? s path = some s' ∧
      (Path.ofText path, e.hits) ::ₘ s'.ledger = s.ledger := by
  obtain ⟨f, name, hf, hname, he⟩ := Store.entryAt?_eq_some.1 h
  obtain ⟨-, hfolder⟩ := Store.folder?_eq_some hf
  obtain ⟨-, rfl⟩ := Folder.entry?_eq_some he
  have htake := Folder.take?_of_entry? he
  have hline := Store.tally_setFolder_of_take hf
    (Folder.tally_take? ignoresPlace_ledgerLine htake)
  have hpath : ledgerLine f.name { e with parent := none } = (Path.ofText path, e.hits) := by
    rw [← Store.ledgerLine_of_entryAt? h, hfolder]
    rfl
  rw [hpath] at hline
  refine ⟨_, ?_, hline⟩
  rw [removeEntry?_eq rfl, hname, hf, Option.bind_some, Option.bind_some, htake, Option.bind_some]

theorem removeEntry?_eq_none {path : String} (h : s.entryAt? (Path.ofText path) = none) :
    removeEntry? s path = none := by
  refine Option.eq_none_iff_forall_ne_some.2 fun s' hremove => ?_
  obtain ⟨name, f, e, f', hname, hf, htake, -⟩ := removeEntry?_eq_some hremove
  obtain ⟨e₀, he₀, -, -⟩ := Folder.take?_eq_some htake
  cases h.symm.trans (Store.entryAt?_eq_some.2 ⟨f, name, hf, hname, he₀⟩)

theorem ledger_removeEntry? (path : String) (h : s.WellFormed) :
    (( removeEntry? s path).getD s).ledger =
      s.ledger.filter fun line => line.1 ≠ Path.ofText path := by
  cases hentry : s.entryAt? (Path.ofText path) with
  | some e =>
    obtain ⟨s', hremove, hsplit⟩ := removeEntry?_of_entryAt? hentry
    have hothers := h.path_ne_of_cons hsplit.symm
    rw [hremove, Option.getD_some, ← hsplit, Multiset.filter_cons_of_neg _ (by simp),
      Multiset.filter_eq_self.2 hothers]
  | none =>
    have hothers : ∀ line ∈ s.ledger, line.1 ≠ Path.ofText path := by
      rintro ⟨path', hits⟩ hline rfl
      obtain ⟨e, he, -⟩ := h.mem_ledger.1 hline
      cases hentry.symm.trans he
    rw [removeEntry?_eq_none hentry, Option.getD_none, Multiset.filter_eq_self.2 hothers]

theorem ledger_removeEntries (words : List String) (h : s.WellFormed) :
    (removeEntries words s).1.ledger =
      s.ledger.filter fun line => line.1 ∉ words.map Path.ofText := by
  rw [store_removeEntries]
  exact ledger_removeAll id Path.ofText wellFormed_removeEntry?
    (fun path h => ledger_removeEntry? path h) words h

/-- The folders with a name take the lines of their entries with them. -/
theorem ledger_removeFolder? (name : String) (s : Store) :
    ((s.removeFolder? name).getD s).ledger =
      s.ledger.filter fun line => line.1.folder ≠ name := by
  have hfilter : (⟨s.folders.filter (·.name != name)⟩ : Store).ledger =
      s.ledger.filter fun line => line.1.folder ≠ name := by
    refine Store.tally_filter fun f _ => ?_
    by_cases hname : f.name = name
    · rw [if_neg (by simpa using hname), Multiset.filter_eq_nil]
      intro line hline
      obtain ⟨e, -, rfl⟩ := List.mem_map.1 (Multiset.mem_coe.1 hline)
      exact fun hne => hne hname
    · rw [if_pos (by simpa using hname), Multiset.filter_eq_self]
      intro line hline
      obtain ⟨e, -, rfl⟩ := List.mem_map.1 (Multiset.mem_coe.1 hline)
      exact hname
  rw [← hfilter]
  unfold Store.removeFolder?
  split
  · exact Store.tally_renumber (.refl _)
  · next hnone =>
    have hall : s.folders.filter (·.name != name) = s.folders :=
      List.filter_eq_self.2 fun f hf => by
        have hne : f.name ≠ name := fun heq => hnone (List.any_eq_true.2 ⟨f, hf, by simpa using heq⟩)
        simpa using hne
    rw [Option.getD_none, hall]

theorem ledger_removeFolders (words : List String) (h : s.WellFormed) :
    (removeFolders words s).1.ledger =
      s.ledger.filter fun line => line.1.folder ∉ words.map (Text.without '/') := by
  have hremove := ledger_removeAll Path.folder id (fun h => h.removeFolder?)
    (fun {s} name _ => ledger_removeFolder? name s) (words.map (Text.without '/')) h
  rw [List.map_id] at hremove
  rw [store_removeFolders]
  exact hremove

/-! ### Moving -/

/-- Where a path leads after a move that was made: an entry has a new path, and so have all entries
    of a folder that got a new name. -/
def pathAfterMove (s : Store) (source target path : Path) : Path :=
  match s.entryAt? source with
  | some e => if path = source then ⟨target.folder, some (e.nameAt target)⟩ else path
  | none => if path.folder = source.folder then { path with folder := target.folder } else path

theorem ledger_renameFolder (h : s.WellFormed) {source target : Path}
    (whole : source.entry? = none) :
    (s.modifyFolder source.folder (·.rename target.folder)).ledger =
      s.ledger.map fun line => (pathAfterMove s source target line.1, line.2) := by
  have hnone : s.entryAt? source = none := by
    rcases source with ⟨folder, _ | name⟩
    · simp [Store.entryAt?]
    · cases whole
  rw [h.modifyFolder_eq_map]
  refine Store.tally_map fun f _ => ?_
  split
  · next hname =>
    rw [Folder.tally_rename ignoresPlace_ledgerLine, Folder.tally, Multiset.map_coe, List.map_map]
    refine congrArg Multiset.ofList (List.map_congr_left fun e _ => ?_)
    simp [ledgerLine, pathAfterMove, hnone, hname]
  · next hname =>
    rw [Folder.tally, Multiset.map_coe, List.map_map]
    refine congrArg Multiset.ofList (List.map_congr_left fun e _ => ?_)
    simp [ledgerLine, pathAfterMove, hnone, hname]

/-- The line of one entry gets its new path; no other line has the old one. -/
theorem ledger_of_entryMoved {s' : Store} {source target : Path} {e : Entry} (h : s.WellFormed)
    (hentry : s.entryAt? source = some e)
    (hline : (source, e.hits) ::ₘ s'.ledger =
      (⟨target.folder, some (e.nameAt target)⟩, e.hits) ::ₘ s.ledger) :
    s'.ledger = s.ledger.map fun line => (pathAfterMove s source target line.1, line.2) := by
  obtain ⟨rest, hrest⟩ := Multiset.exists_cons_of_mem (h.mem_ledger.2 ⟨e, hentry, rfl⟩)
  have hothers := h.path_ne_of_cons hrest
  have hkept : (rest.map fun line => (pathAfterMove s source target line.1, line.2)) = rest := by
    refine (Multiset.map_congr rfl fun line hmem => ?_).trans (Multiset.map_id rest)
    simp [pathAfterMove, hentry, hothers line hmem]
  rw [hrest, Multiset.cons_swap] at hline
  rw [(Multiset.cons_inj_right _).1 hline, hrest, Multiset.map_cons, hkept]
  simp [pathAfterMove, hentry]

theorem Moves.ledger {s' : Store} {source target : Path} (h : s.WellFormed)
    (moves : Moves s source target s') :
    s'.ledger = s.ledger.map fun line => (pathAfterMove s source target line.1, line.2) := by
  rcases moves.tally ignoresPlace_ledgerLine with ⟨whole, rfl⟩ | ⟨e, hentry, hline⟩
  · exact ledger_renameFolder h whole
  · refine ledger_of_entryMoved h hentry ?_
    rw [Store.ledgerLine_of_entryAt? hentry, e.rename_nameAt] at hline
    exact hline

/-! ### Details -/

theorem ledger_placeAt {s' : Store} {path : String} {rank : Int}
    (h : placeAt s path rank = .ok s') : s'.ledger = s.ledger := by
  obtain ⟨-, hplace⟩ | ⟨name, f, f', -, hf, hplace, rfl⟩ := placeAt_eq_ok h
  · exact Store.tally_placeFolder hplace
  · refine Store.tally_modifyFolder fun g hg => ?_
    cases Option.some.inj (hf.symm.trans hg)
    exact Folder.tally_place ignoresPlace_ledgerLine hplace

theorem Adjusts.ledger {s' : Store} (adjusts : Adjusts s s') : s'.ledger = s.ledger := by
  cases adjusts with
  | same => rfl
  | entry stays hits =>
    refine Store.tally_modifyEntry_of_same fun folder e => ?_
    rw [ledgerLine, (stays e).name, hits, ledgerLine]
  | icon => exact Store.tally_modifyFolder fun _ _ => rfl
  | place hplace => exact ledger_placeAt hplace

end Action
end StartPage
