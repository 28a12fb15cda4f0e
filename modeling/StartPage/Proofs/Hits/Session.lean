import StartPage.Proofs.Hits.Command

/-!
    Hits count the times that entries are left for an address. A line that names no command, or the
    run of an entry, leaves for an address exactly when one entry has one hit more; nothing else
    changes. Commands leave for none, and no entry that they keep has other hits after them.

        s: blue whale     leaves    search.qry  1  ──▶  2
        s:                asks      search.qry  2  ──▶  2
        mv sites/ pages/            search.qry  2  ──▶  2     at a new path -/

namespace StartPage

/-- The hits of all entries can grow by one. -/
def Store.HasRoom (s : Store) : Prop :=
  ∀ f ∈ s.folders, ∀ e ∈ f.entries, e.hits.toNat < 2 ^ 64 - 1

instance (s : Store) : Decidable s.HasRoom :=
  inferInstanceAs (Decidable (∀ f ∈ s.folders, ∀ e ∈ f.entries, e.hits.toNat < 2 ^ 64 - 1))

theorem Store.HasRoom.entry {s : Store} (h : s.HasRoom) {path : Path} {e : Entry}
    (he : s.entryAt? path = some e) : e.hits.toNat < 2 ^ 64 - 1 := by
  obtain ⟨f, name, hf, -, he⟩ := entryAt?_eq_some.1 he
  exact h f (folder?_eq_some hf).1 e (Folder.entry?_eq_some he).1

/-! ### Entries that are run -/

/-- Leaving for an address is one more hit; without it an entry stays as it is. -/
theorem Entry.execute_cases (e : Entry) (words : List String)
    (room : e.hits.toNat < 2 ^ 64 - 1) :
    ((e.execute words).2.navigation.isSome ∧ e.OneMoreHit (e.execute words).1) ∨
      ((e.execute words).2.navigation = none ∧ (e.execute words).1 = e) := by
  have hmore : (e.hits + 1).toNat = e.hits.toNat + 1 := by
    rw [UInt64.toNat_add, UInt64.toNat_one]
    omega
  unfold execute
  split
  · exact .inr ⟨Response.navigation_ofFault _, rfl⟩
  · exact .inr ⟨rfl, rfl⟩
  split
  · exact .inr ⟨Response.navigation_ofFault _, rfl⟩
  · exact .inl ⟨rfl, hmore, rfl⟩

/-- What comes of a page where hits are counted: a response that leaves for an address goes with one
    more hit of one entry, and with any other response the folders stay as they are. The settings
    stay in any case. -/
structure Page.CountsHits (p : Page) (result : Page × Response) : Prop where
  config : result.1.config = p.config
  counted : result.2.navigation.isSome ↔ p.store.OneMoreHit result.1.store
  kept : result.2.navigation = none → result.1.store = p.store

namespace Page

variable {p p' : Page} {r : Response}

theorem CountsHits.same (h : r.navigation = none) (same : p' = p) : p.CountsHits (p', r) := by
  subst same
  refine ⟨rfl, ⟨fun hsome => ?_, fun hmore => absurd rfl hmore.ne⟩, fun _ => rfl⟩
  rw [h] at hsome
  cases hsome

theorem CountsHits.more (h : r.navigation.isSome) (config : p'.config = p.config)
    (more : p.store.OneMoreHit p'.store) : p.CountsHits (p', r) := by
  refine ⟨config, ⟨fun _ => more, fun _ => h⟩, fun hnone => ?_⟩
  rw [hnone] at h
  cases h

theorem countsHits_execute (room : p.store.HasRoom) (path : String) (words : List String) :
    p.CountsHits (p.execute path words) := by
  unfold execute
  split
  · exact .same (Response.navigation_ofFault _) rfl
  · next e he =>
    rcases e.execute_cases words (room.entry he) with ⟨hleaves, hmore⟩ | ⟨hstays, hsame⟩
    · exact .more hleaves rfl ⟨e, _, Store.replaces_modifyEntry he _, hmore⟩
    · have hback : (p.store.modifyEntry (Path.ofText path) fun _ => (e.execute words).1) =
          p.store := by
        rw [hsame, Store.modifyEntry_self he]
      exact .same hstays (congrArg (fun store => { p with store := store }) hback)

theorem countsHits_fallBack (room : p.store.HasRoom) (verb : String) (args : List String) :
    p.CountsHits (p.fallBack verb args) := by
  unfold fallBack
  split
  · exact countsHits_execute room _ _
  split
  · exact countsHits_execute room _ _
  split
  · exact countsHits_execute room _ _
  · exact .same rfl rfl

/-- Where hits are counted, an entry keeps its path, and its hits do not get fewer. -/
theorem CountsHits.entryAt? {p p' : Page} {r : Response} {path : Path} {e : Entry}
    (h : p.CountsHits (p', r)) (hp : p.store.WellFormed) (hp' : p'.store.WellFormed)
    (he : p.store.entryAt? path = some e) :
    ∃ e', p'.store.entryAt? path = some e' ∧ e.hits ≤ e'.hits := by
  cases hleaves : r.navigation with
  | none =>
    have hsame : p'.store = p.store := h.kept hleaves
    exact ⟨e, hsame ▸ he, UInt64.le_refl e.hits⟩
  | some n =>
    have hmore : p.store.OneMoreHit p'.store := h.counted.1 (by simp [hleaves])
    obtain ⟨hits, hle, hline⟩ := hmore.le_hits hp (hp.mem_ledger.2 ⟨e, he, rfl⟩)
    obtain ⟨e', he', rfl⟩ := hp'.mem_ledger.1 hline
    exact ⟨e', he', hle⟩

end Page

/-! ### Runs -/

/-- Where an entry is after a step, if the step kept it. A step that puts another page in the place
    of the old one keeps no entry. -/
def Event.pathAfter? (v : Event) (path : Path) : Option Path :=
  match v.step with
  | .line text =>
    match Page.wordsOf text with
    | [] => some path
    | verb :: words =>
      match Command.ofVerb? verb with
      | some c => if c.takes words path then none else some (c.pathAfter words v.before.page.store path)
      | none => some path
  | .execute _ _ => some path
  | .restore _ | .reopen => if v.after.page = v.before.page then some path else none

/-- Where an entry is after steps that all kept it. -/
def pathAfterAll? (events : List Event) (path : Path) : Option Path :=
  events.foldlM (fun path v => v.pathAfter? path) path

namespace Session

theorem dispatch_command {s : Session} {line verb : String} {words : List String} {c : Command}
    (access : Access) (hwords : Page.wordsOf line = verb :: words)
    (hverb : Command.ofVerb? verb = some c) : s.dispatch access line =
      (s.keep access (c.run words s.page).1, (c.run words s.page).2) := by
  simp only [dispatch, hwords, Page.runWords, hverb]

theorem countsHits_dispatch {s : Session} (room : s.page.store.HasRoom) (access : Access)
    (line : String)
    (noCommand : ∀ verb ∈ (Page.wordsOf line).head?, Command.ofVerb? verb = none) :
    s.page.CountsHits ((s.dispatch access line).1.page, (s.dispatch access line).2) := by
  cases hwords : Page.wordsOf line with
  | nil =>
    simp only [dispatch, hwords]
    exact .same rfl rfl
  | cons verb args =>
    have hverb : Command.ofVerb? verb = none := noCommand verb (by rw [hwords]; rfl)
    simp only [dispatch, hwords, Page.runWords, hverb]
    exact Page.countsHits_fallBack room verb args

theorem le_hits_of_samePage {s s' : Session} {path path' : Path} {e : Entry}
    (kept : (if s'.page = s.page then some path else none) = some path')
    (he : s.page.store.entryAt? path = some e) :
    ∃ e', s'.page.store.entryAt? path' = some e' ∧ e.hits ≤ e'.hits := by
  split at kept
  · next hpage =>
    cases kept
    exact ⟨e, by rw [hpage, he], UInt64.le_refl e.hits⟩
  · cases kept

/-- An entry that a step keeps does not lose hits by it. -/
theorem le_hits_step {s : Session} {access : Access} {step : Step} {path path' : Path} {e : Entry}
    (h : s.page.store.WellFormed) (room : s.page.store.HasRoom)
    (kept : (s.event access step).pathAfter? path = some path')
    (he : s.page.store.entryAt? path = some e) :
    ∃ e', (s.step access step).1.page.store.entryAt? path' = some e' ∧ e.hits ≤ e'.hits := by
  have hafter := wellFormed_step s access step h
  cases step with
  | execute path₀ words =>
    cases kept
    exact (Page.countsHits_execute room path₀ words).entryAt? h hafter he
  | restore backup => exact le_hits_of_samePage kept he
  | reopen => exact le_hits_of_samePage kept he
  | line text =>
    cases hwords : Page.wordsOf text with
    | nil =>
      simp only [event, Event.pathAfter?, hwords] at kept
      cases kept
      have hcounts := countsHits_dispatch room access text (by simp [hwords])
      exact hcounts.entryAt? h hafter he
    | cons verb words =>
      cases hverb : Command.ofVerb? verb with
      | none =>
        simp only [event, Event.pathAfter?, hwords, hverb] at kept
        cases kept
        have hcounts := countsHits_dispatch room access text (by simp [hwords, hverb])
        exact hcounts.entryAt? h hafter he
      | some c =>
        simp only [event, Event.pathAfter?, hwords, hverb] at kept
        split at kept
        · cases kept
        · next htakes =>
          cases kept
          obtain ⟨e', he', hhits⟩ := Command.entryAt?_run h (by simpa using htakes) he
          refine ⟨e', ?_, by rw [hhits]; exact UInt64.le_refl _⟩
          show (s.dispatch access text).1.page.store.entryAt? _ = some e'
          rw [dispatch_command access hwords hverb]
          exact he'

/-- An entry that every step of a run keeps does not lose hits on the way. -/
theorem le_hits_run {steps : List (Access × Step)} {s : Session} {path path' : Path} {e : Entry}
    (h : s.page.store.WellFormed) (room : ∀ v ∈ s.run steps, v.before.page.store.HasRoom)
    (kept : pathAfterAll? (s.run steps) path = some path')
    (he : s.page.store.entryAt? path = some e) :
    ∃ e', (s.runTo steps).page.store.entryAt? path' = some e' ∧ e.hits ≤ e'.hits := by
  -- the induction is over the steps; the session and where the entry is in it change with each
  induction steps generalizing s path e with
  | nil =>
    cases kept
    exact ⟨e, he, UInt64.le_refl e.hits⟩
  | cons first steps ih =>
    obtain ⟨access, step⟩ := first
    obtain ⟨path₁, hstep, hrest⟩ := Option.bind_eq_some_iff.1 kept
    obtain ⟨e₁, he₁, hle₁⟩ := le_hits_step h (room _ List.mem_cons_self) hstep he
    obtain ⟨e', he', hle⟩ := ih (wellFormed_step s access step h)
      (fun v hv => room v (List.mem_cons_of_mem _ hv)) hrest he₁
    exact ⟨e', he', UInt64.le_trans hle₁ hle⟩

/-- Hits count navigations. A line that names no command and the run of an entry leave for an address
    exactly where one entry gets one more hit, and change nothing else. A command leaves for none,
    and the hits after it are those before, less the hits of what it removed, and none for an entry
    that it made. So along a run no entry loses hits that is kept, wherever it is moved. -/
theorem hits_count_navigations {s : Session} (access : Access) (h : s.page.store.WellFormed)
    (room : s.page.store.HasRoom) :
    (∀ line, (∀ verb ∈ (Page.wordsOf line).head?, Command.ofVerb? verb = none) →
      s.page.CountsHits ((s.dispatch access line).1.page, (s.dispatch access line).2)) ∧
    (∀ path words, s.page.CountsHits
      ((s.execute access path words).1.page, (s.execute access path words).2)) ∧
    (∀ line verb words c, Page.wordsOf line = verb :: words → Command.ofVerb? verb = some c →
      (s.dispatch access line).2.navigation = none ∧
        (s.dispatch access line).1.page.store.hits +
            s.page.store.hitsOf (fun path => c.takes words path = true) =
          s.page.store.hits + c.newHits (s.dispatch access line).2) ∧
    ∀ steps path path' e, (∀ v ∈ s.run steps, v.before.page.store.HasRoom) →
      pathAfterAll? (s.run steps) path = some path' → s.page.store.entryAt? path = some e →
      ∃ e', (s.runTo steps).page.store.entryAt? path' = some e' ∧ e.hits ≤ e'.hits := by
  refine ⟨countsHits_dispatch room access, Page.countsHits_execute room,
    fun line verb words c hwords hverb => ?_, fun _ _ _ _ => le_hits_run h⟩
  rw [dispatch_command access hwords hverb]
  exact ⟨c.navigation_run words s.page, c.hits_run words h⟩

/-- A link that was followed three times and a query that was run once. -/
def visited : Session :=
  ofPage
    { store := ⟨[{ Folder.empty "sites" with
        position := 1
        entries :=
          [{ Entry.link "home" "http://[::1]/" with
              hits := 3, position := 1, parent := some "sites" },
            { Entry.query "search" "s" "http://[::1]/?q=$\x7b\x7d" with
              hits := 1, position := 2, parent := some "sites" }] }]⟩
      config := .initial }

theorem hits_count_navigations_visited :
    visited.page.store.WellFormed ∧ visited.page.store.HasRoom ∧
      (visited.dispatch .full "s:blue whale").2.navigation =
        some ⟨"http://[::1]/?q=blue+whale", false⟩ ∧
      visited.page.store.OneMoreHit (visited.dispatch .full "s:blue whale").1.page.store ∧
      (visited.execute .full "sites/search.qry" []).1.page.store = visited.page.store ∧
      (visited.dispatch .full "rm sites/home.lnk").1.page.store.hits + {3} =
        visited.page.store.hits ∧
      ∃ e, (visited.runTo [(.full, .line "s:blue whale"), (.full, .line "mv sites/ pages"),
          (.full, .line "mv pages/search.qry pages/find")]).page.store.entryAt?
            ⟨"pages", some "find.qry"⟩ = some e ∧ 1 ≤ e.hits := by
  have hstore : visited.page.store.WellFormed := by decide +kernel
  have hroom : visited.page.store.HasRoom := by decide +kernel
  have hleaves : (visited.dispatch .full "s:blue whale").2.navigation =
    some ⟨"http://[::1]/?q=blue+whale", false⟩ := by decide +kernel
  obtain ⟨hlines, hexecute, hcommands, hruns⟩ := hits_count_navigations .full hstore hroom
  have hline := hlines "s:blue whale" (by decide +kernel)
  have hremove := hcommands "rm sites/home.lnk" "rm" ["sites/home.lnk"] .removeEntry
    (by decide +kernel) (by decide +kernel)
  have htaken : visited.page.store.hitsOf
      (fun path => Command.removeEntry.takes ["sites/home.lnk"] path = true) = {3} := by
    decide +kernel
  refine ⟨hstore, hroom, hleaves, hline.counted.1 (by rw [hleaves]; rfl),
    (hexecute "sites/search.qry" []).kept (by decide +kernel), ?_, ?_⟩
  · rw [← htaken]
    exact hremove.2
  · exact hruns _ ⟨"sites", some "search.qry"⟩ _
      { Entry.query "search" "s" "http://[::1]/?q=$\x7b\x7d" with
        hits := 1, position := 2, parent := some "sites" }
      (by decide +kernel) (by decide +kernel) (by decide +kernel)

end Session
end StartPage
