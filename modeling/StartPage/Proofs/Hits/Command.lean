import StartPage.Proofs.Hits.Action
import StartPage.Proofs.WellFormed.Session

/-!
    The ledger of hits after a command. It has the lines that the command kept, at their new paths
    if the command was a move, and a line without hits if it made an entry.

        rm sites/a.lnk     takes the line of sites/a.lnk
        rmdir sites/       takes all lines of the folder sites
        mv sites/ pages/   keeps all lines, those of sites under pages -/

namespace StartPage

namespace Command

/-- The entries that a command removes: those at the paths among its words, or in the folders that
    the words name. -/
def takes (c : Command) (words : List String) (path : Path) : Bool :=
  match c with
  | .removeEntry => (words.map Path.ofText).contains path
  | .removeFolder => (words.map (Text.without '/')).contains path.folder
  | _ => false

/-- Where an entry is after a command that did not remove it. -/
def pathAfter (c : Command) (words : List String) (s : Store) (path : Path) : Path :=
  match c, words with
  | .move, [source, dest] =>
    if (Action.move words s).2.isSuccess then
      Action.pathAfterMove s (Path.ofText source) (Path.ofText dest) path
    else path
  | _, _ => path

/-- The hits of the entries that a command makes: of the one entry that is reported to be made. -/
def newHits (c : Command) (r : Response) : Multiset UInt64 :=
  if c = .makeEntry ∧ r.ReportsDone then {0} else 0

/-- The lines of the ledger that a command keeps. -/
def keptLines (c : Command) (words : List String) (s : Store) : Multiset (Path × UInt64) :=
  (s.ledger.filter fun line => c.takes words line.1 = false).map fun line =>
    (c.pathAfter words s line.1, line.2)

theorem takes_of_removesNone {c : Command} (h : c.removes = false) (words : List String)
    (path : Path) : c.takes words path = false := by
  unfold takes
  split
  · cases h
  · cases h
  · rfl

theorem pathAfter_of_ne_move {c : Command} (h : c ≠ .move) (words : List String) (s : Store)
    (path : Path) : c.pathAfter words s path = path := by
  unfold pathAfter
  split
  · exact absurd rfl h
  · rfl

theorem keptLines_of_stay {c : Command} (takesNone : c.removes = false) (movesNone : c ≠ .move)
    (words : List String) (s : Store) : c.keptLines words s = s.ledger := by
  rw [keptLines, Multiset.filter_eq_self.2 fun line _ => takes_of_removesNone takesNone words line.1]
  simp only [pathAfter_of_ne_move movesNone, Multiset.map_id']

theorem ledger_move {words : List String} {s : Store} (h : s.WellFormed) :
    (Action.move words s).1.ledger = Command.move.keptLines words s := by
  rw [keptLines, Multiset.filter_eq_self.2 fun line _ => takes_of_removesNone rfl words line.1]
  rcases Action.move_cases words s with hrefused | ⟨source, dest, rfl, hmade⟩
  · have hstay : ∀ path, Command.move.pathAfter words s path = path := by
      intro path
      unfold pathAfter
      split
      · exact if_neg fun hsuccess => hrefused.kind (by simpa [Response.isSuccess] using hsuccess)
      · rfl
    rw [hrefused.store]
    simp only [hstay, Multiset.map_id']
  · have hmoves : ∀ path, Command.move.pathAfter [source, dest] s path =
        Action.pathAfterMove s (Path.ofText source) (Path.ofText dest) path := fun path =>
      if_pos (by simp [Response.isSuccess, hmade.kind])
    simp only [hmoves]
    exact hmade.moves.ledger h

theorem ledger_removeEntry {words : List String} {s : Store} (h : s.WellFormed) :
    (Action.removeEntries words s).1.ledger = Command.removeEntry.keptLines words s := by
  have htakes : ∀ line ∈ s.ledger, Command.removeEntry.takes words line.1 = false ↔
      line.1 ∉ words.map Path.ofText := fun line _ => by simp [takes]
  rw [Action.ledger_removeEntries words h, keptLines, Multiset.filter_congr htakes]
  exact (Multiset.map_id _).symm

theorem ledger_removeFolder {words : List String} {s : Store} (h : s.WellFormed) :
    (Action.removeFolders words s).1.ledger = Command.removeFolder.keptLines words s := by
  have htakes : ∀ line ∈ s.ledger, Command.removeFolder.takes words line.1 = false ↔
      line.1.folder ∉ words.map (Text.without '/') := fun line _ => by simp [takes]
  rw [Action.ledger_removeFolders words h, keptLines, Multiset.filter_congr htakes]
  exact (Multiset.map_id _).symm

/-- The ledger after a command: the lines that it kept, and those of new entries. -/
def LedgerAfter (c : Command) (words : List String) (s : Store) (result : Page × Response) : Prop :=
  ∃ new : Multiset (Path × UInt64), result.1.store.ledger = c.keptLines words s + new ∧
    new.map Prod.snd = c.newHits result.2

theorem LedgerAfter.of_kept {c : Command} {words : List String} {s : Store}
    {result : Page × Response} (makesNone : c ≠ .makeEntry)
    (kept : result.1.store.ledger = c.keptLines words s) : c.LedgerAfter words s result :=
  ⟨0, kept.trans (add_zero _).symm, (if_neg fun hmakes => makesNone hmakes.1).symm⟩

theorem LedgerAfter.of_same {c : Command} {words : List String} {s : Store}
    {result : Page × Response} (takesNone : c.removes = false) (movesNone : c ≠ .move)
    (makesNone : c ≠ .makeEntry) (same : result.1.store.ledger = s.ledger) :
    c.LedgerAfter words s result :=
  .of_kept makesNone (same.trans (keptLines_of_stay takesNone movesNone words s).symm)

theorem ledgerAfter_makeEntry (words : List String) (p : Page) :
    Command.makeEntry.LedgerAfter words p.store (Command.makeEntry.run words p) := by
  have hkept : Command.makeEntry.keptLines words p.store = p.store.ledger :=
    keptLines_of_stay (c := .makeEntry) rfl nofun words p.store
  rcases Action.ledger_makeEntry words p.store with ⟨hdone, path, hline⟩ | ⟨hnot, hsame⟩
  · refine ⟨{(path, 0)}, ?_, (if_pos ⟨rfl, hdone⟩).symm⟩
    rw [hkept, add_comm, Multiset.singleton_add]
    exact hline
  · refine ⟨0, ?_, (if_neg fun hmakes => hnot hmakes.2).symm⟩
    rw [hkept, add_zero]
    exact hsame

theorem ledger_run (c : Command) (words : List String) {p : Page} (h : p.store.WellFormed) :
    c.LedgerAfter words p.store (c.run words p) := by
  cases c with
  | makeFolder => exact .of_same rfl nofun nofun (Action.ledger_makeFolders words p.store)
  | makeEntry => exact ledgerAfter_makeEntry words p
  | edit => exact .of_same rfl nofun nofun (Action.adjusts_edit words p.store).ledger
  | move => exact .of_kept nofun (ledger_move h)
  | removeEntry => exact .of_kept nofun (ledger_removeEntry h)
  | removeFolder => exact .of_kept nofun (ledger_removeFolder h)
  | setPosition => exact .of_same rfl nofun nofun (Action.adjusts_setPosition words p.store).ledger
  | setRule => exact .of_same rfl nofun nofun (Action.adjusts_setRule words p.store).ledger
  | setDescription => exact .of_same rfl nofun nofun (Action.adjusts_setDescription words p.store).ledger
  | setIcon => exact .of_same rfl nofun nofun (Action.adjusts_setIcon words p.store).ledger
  | toggleCommands => exact .of_same rfl nofun nofun rfl
  | help => exact .of_same rfl nofun nofun rfl

/-- The hits after a command are those before it, less the hits of what it removed, and none for
    what it made. -/
theorem hits_run (c : Command) (words : List String) {p : Page} (h : p.store.WellFormed) :
    (c.run words p).1.store.hits + p.store.hitsOf (fun path => c.takes words path = true) =
      p.store.hits + c.newHits (c.run words p).2 := by
  obtain ⟨new, hledger, hnew⟩ := c.ledger_run words h
  have hkept : (c.keptLines words p.store).map Prod.snd =
      p.store.hitsOf (fun path => c.takes words path = false) := by
    rw [keptLines, Multiset.map_map]
    rfl
  have hsplit : p.store.hitsOf (fun path => c.takes words path = false) +
      p.store.hitsOf (fun path => c.takes words path = true) = p.store.hits := by
    simp only [Store.hitsOf, Store.hits_eq_map_ledger, ← Multiset.map_add, ← Bool.not_eq_true]
    rw [add_comm, Multiset.filter_add_not]
  rw [Store.hits_eq_map_ledger, hledger, Multiset.map_add, hkept, hnew, add_right_comm, hsplit]

/-- What a command keeps is where the command has it, with the hits that it had. -/
theorem entryAt?_run {c : Command} {words : List String} {p : Page} {path : Path} {e : Entry}
    (h : p.store.WellFormed) (kept : c.takes words path = false)
    (he : p.store.entryAt? path = some e) :
    ∃ e', (c.run words p).1.store.entryAt? (c.pathAfter words p.store path) = some e' ∧
      e'.hits = e.hits := by
  obtain ⟨new, hledger, -⟩ := c.ledger_run words h
  have hline : (path, e.hits) ∈ p.store.ledger := h.mem_ledger.2 ⟨e, he, rfl⟩
  have hkept : (c.pathAfter words p.store path, e.hits) ∈ c.keptLines words p.store :=
    Multiset.mem_map.2 ⟨(path, e.hits), Multiset.mem_filter.2 ⟨hline, kept⟩, rfl⟩
  refine (c.wellFormed_run words h).mem_ledger.1 ?_
  rw [hledger]
  exact Multiset.mem_add.2 (.inl hkept)

end Command
end StartPage
