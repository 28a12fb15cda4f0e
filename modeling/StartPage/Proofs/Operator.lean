import StartPage.Proofs.Routes
import StartPage.Proofs.WellFormed.Session

/-!
    What the operator of a query runs. The query is found first, by its folder and its name; then
    the path written from both is read again, and cut at its first slash. That leads back to the
    query if the name of its folder has no slash. The commands give no folder such a name, but a
    document may.

        s: whale   ──▶   web, search.qry   ──▶   web/search.qry   ──▶   web, search.qry
                         a/b, search.qry   ──▶   a/b/search.qry   ──▶   a, b/search.qry   -/

namespace StartPage

/-! ### Faults of entries that are run -/

/-- What is done in two parts fails in one of them. -/
theorem Fault.bind_eq_error {α β : Type} {x : Except Fault α} {f : α → Except Fault β} {e : Fault} :
    x >>= f = .error e ↔ x = .error e ∨ ∃ a, x = .ok a ∧ f a = .error e := by
  cases x with
  | error e' =>
    refine ⟨fun h => .inl (by cases h; rfl), ?_⟩
    rintro (h | ⟨_, h, -⟩)
    · cases h
      rfl
    · cases h
  | ok a => exact ⟨fun h => .inr ⟨a, rfl, h⟩, fun h => h.elim nofun fun ⟨_, rfl, h⟩ => h⟩

theorem Response.message_ofFault (f : Fault) : (Response.ofFault f).message = f.message := by
  unfold ofFault
  split <;> rfl

/-- Only what is said of something that is not there starts with a `T`. -/
theorem Fault.head?_message {f : Fault} (h : f.kind ≠ .notFound) :
    f.message.toList.head? ≠ some 'T' := by
  cases f with
  | noFolder _ | noFile _ => exact absurd rfl h
  | nameTaken _ _ | noFileInPath _ | noPattern _ | badFlag _ _ | badPattern _ | unresolvable _
  | storage _ =>
    delta Fault.message
    simp

/-- Only where something is not there is an entry said not to exist. -/
theorem Response.ofFault_ne_noFile {f : Fault} (h : f.kind ≠ .notFound) (path : String) :
    Response.ofFault f ≠ .ofFault (.noFile path) := by
  intro heq
  refine Fault.head?_message h ?_
  rw [← message_ofFault f, heq, message_ofFault]
  delta Fault.message
  simp

/-- A rule fails for what is wrong with its expression. -/
theorem Rule.kind_of_compile {expression : String} {f : Fault}
    (h : compile expression = .error f) : f.kind = .invalidArgument := by
  unfold compile at h
  split at h
  · cases h
    rfl
  split at h
  · cases h
    rfl
  split at h
  · cases h
    rfl
  · cases h

theorem Rule.kind_of_apply {rule : Rule} {input : String} {f : Fault}
    (h : rule.apply input = .error f) : f.kind = .invalidArgument := by
  unfold apply at h
  split at h
  · cases h
  · rcases Fault.bind_eq_error.1 h with h | ⟨_, -, h⟩
    · exact kind_of_compile h
    · cases h

namespace Template

theorem kind_of_fillNumbered {rule : Rule} {f : Fault} : ∀ {words : List String} {n : Nat}
    {content : List Char}, fillNumbered rule n content words = .error f → f.kind = .invalidArgument
  | [], _, _, h => by cases h
  | _ :: _, _, _, h => by
    rcases Fault.bind_eq_error.1 h with h | ⟨_, -, h⟩
    · exact Rule.kind_of_apply h
    · exact kind_of_fillNumbered h

theorem kind_of_fill {content : String} {rule : Rule} {words : List String} {f : Fault}
    (h : fill content rule words = .error f) : f.kind = .invalidArgument := by
  unfold fill at h
  split at h
  · rcases Fault.bind_eq_error.1 h with h | ⟨_, -, h⟩
    · exact kind_of_fillNumbered h
    · cases h
  · rcases Fault.bind_eq_error.1 h with h | ⟨_, -, h⟩
    · exact Rule.kind_of_apply h
    · cases h

end Template

namespace Entry

theorem kind_of_expand {e : Entry} {words : List String} {f : Fault}
    (h : e.expand words = .error f) : f.kind = .invalidArgument := by
  unfold expand at h
  split at h
  · cases h
  unfold Template.expand at h
  split at h
  · cases h
  · rcases Fault.bind_eq_error.1 h with h | ⟨_, -, h⟩
    · exact Template.kind_of_fill h
    · cases h

/-- An entry that is run never says that it does not exist. -/
theorem execute_ne_noFile (e : Entry) (words : List String) (path : String) :
    (e.execute words).2 ≠ .ofFault (.noFile path) := by
  unfold execute
  split
  · next f hf => exact Response.ofFault_ne_noFile (by rw [kind_of_expand hf]; nofun) path
  · exact nofun
  split
  · next f hf =>
    exact Response.ofFault_ne_noFile (by rw [Address.eq_of_resolve_eq_error hf]; nofun) path
  · exact nofun

end Entry

/-! ### Queries that are found -/

namespace Store

/-- An entry that an operator calls: a query that goes by the word before the colon. -/
structure Calls (s : Store) (operator : String) (path : Path) (q : Entry) : Prop where
  entry : s.entryAt? path = some q
  query : q.isQuery = true
  answers : keywordOf operator ∈ q.names

/-- A folder and a name that are found are those of a query, and the operator has a colon. -/
theorem findQuery_eq_some {s : Store} {operator folder name : String}
    (h : s.findQuery operator true = some (folder, name)) :
    ':' ∈ operator.toList ∧ ∃ f ∈ s.folders, ∃ q ∈ f.entries, f.name = folder ∧ q.name = name ∧
      q.isQuery = true ∧ keywordOf operator ∈ q.names := by
  unfold findQuery at h
  split at h
  · cases h
  · next hcolon =>
    obtain ⟨f, hf, hfound⟩ := List.exists_of_findSome?_eq_some h
    obtain ⟨q, hq, hpair⟩ := Option.map_eq_some_iff.1 hfound
    obtain ⟨rfl, rfl⟩ := Prod.mk.inj hpair
    obtain ⟨hmem, hquery⟩ := List.mem_filter.1 (List.mem_of_find?_eq_some hq)
    exact ⟨by simpa using hcolon, f, hf, q, hmem, rfl, rfl, hquery, by simpa using List.find?_some hq⟩

/-- Names are distinct, so that the query which was found is the entry with its name. -/
theorem WellFormed.calls {s : Store} {operator folder name : String} (h : s.WellFormed)
    (found : s.findQuery operator true = some (folder, name)) :
    name ≠ "" ∧ ∃ q, s.Calls operator ⟨folder, some name⟩ q := by
  obtain ⟨-, f, hf, q, hq, rfl, rfl, hquery, hanswers⟩ := findQuery_eq_some found
  have hsound := h.folders f hf
  exact ⟨(hsound.regular q hq).named, q,
    entryAt?_eq_some.2 ⟨f, q.name, h.folder?_of_mem hf, rfl, hsound.entry?_of_mem hq⟩, hquery,
    hanswers⟩

end Store

/-- The path of an entry is cut within the name of a folder that has a slash. -/
theorem Path.ofText_text_nested {before : String} (h : '/' ∉ before.toList)
    (after : String) {entry : String} (named : entry ≠ "") :
    Path.ofText (Path.text (before ++ "/" ++ after) entry) =
      ⟨before, some (after ++ "/" ++ entry)⟩ := by
  have hne : after ++ "/" ++ entry ≠ "" := by simp [named]
  have htext : Path.text (before ++ "/" ++ after) entry =
      Path.text before (after ++ "/" ++ entry) := by
    simp only [Path.text, String.append_assoc]
  rw [htext, Path.ofText_text h hne]

/-! ### Sessions -/

namespace Session

/-- Runs an entry in its place, and nothing else. -/
def visit (s : Session) (access : Access) (path : Path) (e : Entry) (words : List String) :
    Session × Response :=
  (s.keep access
    { s.page with store := s.page.store.modifyEntry path fun _ => (e.execute words).1 },
    (e.execute words).2)

/-- Finds nothing to run. -/
def miss (s : Session) (access : Access) (path : String) : Session × Response :=
  (s.keep access s.page, .ofFault (.noFile path))

theorem execute_of_entry {s : Session} {path : String} {e : Entry} (access : Access)
    (h : s.page.store.entry? path = some e) (words : List String) :
    s.execute access path words = s.visit access (Path.ofText path) e words := by
  simp only [execute, Page.execute, h, visit]

theorem execute_of_none {s : Session} {path : String} (access : Access)
    (h : s.page.store.entry? path = none) (words : List String) :
    s.execute access path words = s.miss access path := by
  simp only [execute, Page.execute, h, miss]

/-- However a session was reached, an operator that finds a query runs just that one, and never says
    that it does not exist, if the name of the query's folder has no slash. Otherwise the entry
    that it runs, if there is any, is in the folder named by what stands before the first slash. -/
theorem dispatch_of_found {s : Session} {line verb folder name : String} {args : List String}
    (reached : s.IsReached) (access : Access) (hwords : Page.wordsOf line = verb :: args)
    (found : s.page.store.findQuery verb true = some (folder, name)) :
    ∃ q, s.page.store.Calls verb ⟨folder, some name⟩ q ∧
      ('/' ∉ folder.toList →
        s.dispatch access line =
            s.visit access ⟨folder, some name⟩ q (Page.wordInOperator verb ++ args) ∧
          ∀ path, (s.dispatch access line).2 ≠ .ofFault (.noFile path)) ∧
      ∀ before after, folder = before ++ "/" ++ after → '/' ∉ before.toList →
        s.dispatch access line =
          match s.page.store.entryAt? ⟨before, some (after ++ "/" ++ name)⟩ with
          | none => s.miss access (Path.text folder name)
          | some e => s.visit access ⟨before, some (after ++ "/" ++ name)⟩ e
              (Page.wordInOperator verb ++ args) := by
  obtain ⟨hcolon, -⟩ := Store.findQuery_eq_some found
  obtain ⟨named, q, hcalls⟩ := reached.wellFormed.calls found
  -- no command is in the way: none has a colon in its name
  have hexecute := dispatch_eq_execute access hwords (Command.ofVerb?_eq_none (.inl hcolon))
    (Page.fallBack_of_query found args)
  refine ⟨q, hcalls, fun plain => ?_, ?_⟩
  · have hpath := Path.ofText_text plain named
    have hentry : s.page.store.entry? (Path.text folder name) = some q := by
      rw [Store.entry?, hpath]
      exact hcalls.entry
    have hvisit := hexecute.trans (execute_of_entry access hentry _)
    rw [hpath] at hvisit
    refine ⟨hvisit, fun path => ?_⟩
    rw [hvisit]
    exact q.execute_ne_noFile _ path
  · rintro before after rfl plain
    have hpath := Path.ofText_text_nested plain after named
    rw [hexecute, ← hpath]
    split
    · next hnone => exact execute_of_none access hnone _
    · next e he => exact execute_of_entry access he _

/-- A search in a folder that was made for it. -/
def searching : Session :=
  let made := ((ofPage ⟨Store.empty, .initial⟩).step .full (.line "mkdir web")).1
  (made.step .full (.line "touch web/search.qry s http://[::1]/?q=$\x7b\x7d")).1

theorem isReached_searching : searching.IsReached :=
  .step (.step (.start (.empty .initial)) .full (.line "mkdir web")) .full
    (.line "touch web/search.qry s http://[::1]/?q=$\x7b\x7d")

theorem dispatch_of_found_whale :
    searching.IsReached ∧ Page.wordsOf "s:blue whale" = ["s:blue", "whale"] ∧
      searching.page.store.findQuery "s:blue" true = some ("web", "search.qry") ∧
      (searching.dispatch .full "s:blue whale").2 =
        .navigate "http://[::1]/?q=blue+whale" false := by
  have found : searching.page.store.findQuery "s:blue" true = some ("web", "search.qry") := by
    decide +kernel
  have hwords : Page.wordsOf "s:blue whale" = ["s:blue", "whale"] := by decide +kernel
  obtain ⟨q, hcalls, hplain, -⟩ := dispatch_of_found isReached_searching .full hwords found
  have hq : searching.page.store.entryAt? ⟨"web", some "search.qry"⟩ =
      some { Entry.query "search" "s" "http://[::1]/?q=$\x7b\x7d" with
        position := 1, parent := some "web" } := by decide +kernel
  cases Option.some.inj (hcalls.entry.symm.trans hq)
  rw [(hplain (by decide)).1]
  exact ⟨isReached_searching, hwords, found, by decide +kernel⟩

/-- A folder with a slash in its name. -/
def nestedDocument : Json :=
  .arr [.obj [("files", .arr [.obj
    [("content", .str "http://[::1]/?q=$\x7b\x7d"), ("fileName", .str "search.qry"),
      ("prefix", .str "s"), ("type", .str "QueryFile")]]), ("name", .str "a/b")]]

def nested : Store where
  folders :=
    [{ Folder.empty "a/b" with
        position := 1
        entries :=
          [{ Entry.query "search" "s" "http://[::1]/?q=$\x7b\x7d" with
              position := 1, parent := some "a/b" }] }]

/-- The query is found, and its path leads nowhere. -/
theorem dispatch_of_found_nested :
    (ofPage ⟨nested, .initial⟩).IsReached ∧
      Page.wordsOf "s: whale" = ["s:", "whale"] ∧ Command.ofVerb? "s:" = none ∧
      nested.findQuery "s:" true = some ("a/b", "search.qry") ∧
      (nested.entryAt? ⟨"a/b", some "search.qry"⟩).any (·.isQuery) ∧
      ((ofPage ⟨nested, .initial⟩).dispatch .full "s: whale").2 =
        .error "The file a/b/search.qry does not exist" := by
  have read : Store.ofJson nestedDocument = .ok nested :=
    Fault.eq_ok_of_toOption (by decide +kernel)
  exact ⟨.start (.document .initial read), by decide +kernel, by decide +kernel,
    by decide +kernel, by decide +kernel, by decide +kernel⟩

end Session
end StartPage
