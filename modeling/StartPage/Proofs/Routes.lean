import StartPage.Proofs.Replacement
import StartPage.Proofs.Report
import StartPage.Proofs.Words
import StartPage.Session

/-!
    The ways to run an entry agree. The operator of a query, with its first word behind the colon or
    apart from it, the path of an entry, and a line that falls to the default query all do what
    running the entry by its path does with the words that are left.

        s: blue whale                  ┐
        s:blue whale                   ├──▶  web/search.qry  with  blue, whale
        web/search.qry blue whale      ┘
        blue whale                     ──▶   the default query  with  blue, whale -/

namespace StartPage

theorem EntryKind.extension_ne_nil (kind : EntryKind) : kind.extension.toList ≠ [] := by
  cases kind with
  | link => decide
  | query _ _ => exact (by decide : Name.queryExtension.toList ≠ [])

/-- A name by the rules is not empty, as it ends in its extension. -/
theorem Entry.IsRegular.named {e : Entry} (h : e.IsRegular) : e.name ≠ "" := by
  intro hempty
  have hending := h.ending
  rw [hempty] at hending
  exact e.kind.extension_ne_nil (List.suffix_nil.1 hending)

namespace Store

/-- In the order in which entries are shown, the first query that goes by a name. -/
structure AnswersFirst (s : Store) (name : String) (f : Folder) (e : Entry) : Prop where
  query : e.isQuery = true
  answers : name ∈ e.names
  first : ∃ before after earlier later, s.folders = before ++ f :: after ∧
    f.entries = earlier ++ e :: later ∧
    (∀ g ∈ before, ∀ q ∈ g.entries, q.isQuery = true → name ∉ q.names) ∧
    ∀ q ∈ earlier, q.isQuery = true → name ∉ q.names

/-- No query is called by a word: it has no colon, or no query goes by what stands before it. -/
def CallsNone (s : Store) (word : String) : Prop :=
  ':' ∈ word.toList →
    ∀ f ∈ s.folders, ∀ q ∈ f.entries, q.isQuery = true → keywordOf word ∉ q.names

theorem find?_queries_eq_none {entries : List Entry} {name : String}
    (h : ∀ q ∈ entries, q.isQuery = true → name ∉ q.names) :
    (entries.filter (·.isQuery)).find? (·.names.contains name) = none := by
  refine List.find?_eq_none.2 fun q hq => ?_
  obtain ⟨hmem, hquery⟩ := List.mem_filter.1 hq
  simpa using h q hmem hquery

theorem findQuery_eq_none {s : Store} {word : String} (h : s.CallsNone word) :
    s.findQuery word true = none := by
  unfold findQuery
  split
  · rfl
  · next hcolon =>
    have hmem : ':' ∈ word.toList := by simpa using hcolon
    refine List.findSome?_eq_none_iff.2 fun f hf => ?_
    rw [Folder.queries, find?_queries_eq_none (h hmem f hf), Option.map_none]

theorem AnswersFirst.findQuery {s : Store} {name : String} {f : Folder} {e : Entry}
    (h : s.AnswersFirst name f e) (colonless : ':' ∉ name.toList) (rest : String) :
    s.findQuery (name ++ ":" ++ rest) true = some (f.name, e.name) := by
  obtain ⟨before, after, earlier, later, hfolders, hentries, hbefore, hearlier⟩ := h.first
  have hnone : ∀ g ∈ before,
      (g.queries.find? (·.names.contains name)).map (fun q => (g.name, q.name)) = none := by
    intro g hg
    rw [Folder.queries, find?_queries_eq_none (hbefore g hg), Option.map_none]
  have hfound : f.queries.find? (·.names.contains name) = some e := by
    rw [Folder.queries, hentries, List.filter_append, List.filter_cons_of_pos h.query,
      List.find?_append, find?_queries_eq_none hearlier, Option.none_or,
      List.find?_cons_of_pos (by simpa using h.answers)]
  unfold Store.findQuery
  rw [if_neg (by simp), keywordOf_append colonless, hfolders, List.findSome?_append,
    List.findSome?_eq_none_iff.2 hnone, Option.none_or, List.findSome?_cons, hfound, Option.map_some]

/-- In a well-formed store an entry is found by the text of its path, if the name of its folder has
    no slash. -/
theorem WellFormed.entry?_text {s : Store} {f : Folder} {e : Entry} (h : s.WellFormed)
    (hf : f ∈ s.folders) (he : e ∈ f.entries) (plain : '/' ∉ f.name.toList) :
    s.entry? (Path.text f.name e.name) = some e := by
  have hsound := h.folders f hf
  rw [Store.entry?, Path.ofText_text plain (hsound.regular e he).named]
  exact entryAt?_eq_some.2 ⟨f, e.name, h.folder?_of_mem hf, rfl, hsound.entry?_of_mem he⟩

end Store

/-! ### Words that name no command -/

namespace Command

theorem plain_of_mem_verbs {c : Command} {verb : String} (h : verb ∈ c.verbs) :
    ':' ∉ verb.toList ∧ '/' ∉ verb.toList := by
  revert verb
  cases c <;> decide

theorem ofVerb?_eq_none {verb : String} (h : ':' ∈ verb.toList ∨ '/' ∈ verb.toList) :
    ofVerb? verb = none := by
  refine Option.eq_none_iff_forall_ne_some.2 fun c hc => ?_
  obtain ⟨hcolon, hslash⟩ := plain_of_mem_verbs (ofVerb?_eq_some hc)
  exact h.elim hcolon hslash

end Command

/-! ### Routes -/

namespace Page

variable {p : Page} {verb : String}

theorem fallBack_of_query {folder name : String}
    (h : p.store.findQuery verb true = some (folder, name)) (args : List String) :
    p.fallBack verb args = p.execute (Path.text folder name) (wordInOperator verb ++ args) := by
  unfold fallBack
  rw [h]

theorem fallBack_of_path {e : Entry} (none : p.store.CallsNone verb)
    (he : p.store.entry? verb = some e) (args : List String) :
    p.fallBack verb args = p.execute verb args := by
  unfold fallBack
  rw [Store.findQuery_eq_none none]
  exact if_pos (by simp [isEntry, he])

theorem fallBack_of_default {e : Entry} (none : p.store.CallsNone verb)
    (noPath : p.store.entry? verb = .none) (he : p.store.entry? p.config.defaultFile = some e)
    (query : e.isQuery = true) (args : List String) :
    p.fallBack verb args = p.execute p.config.defaultFile (verb :: args) := by
  unfold fallBack
  rw [Store.findQuery_eq_none none]
  dsimp only
  rw [if_neg (by simp [isEntry, noPath]), if_pos (by simp [isQuery, he, query])]

end Page

namespace Session

theorem dispatch_eq_execute {s : Session} {line verb path : String} {args words : List String}
    (access : Access) (hwords : Page.wordsOf line = verb :: args)
    (noCommand : Command.ofVerb? verb = none)
    (h : s.page.fallBack verb args = s.page.execute path words) :
    s.dispatch access line = s.execute access path words := by
  simp only [dispatch, execute, hwords, Page.runWords, noCommand, h]

/-- The words behind the colon of an operator, and those after it, all go to its query. -/
theorem dispatch_operator {s : Session} {name : String} {args : List String} {f : Folder}
    {e : Entry} (access : Access) (rest : String) (h : s.page.store.AnswersFirst name f e)
    (blankless : Text.Blankless name) (colonless : ':' ∉ name.toList)
    (hrest : Text.Blankless rest) (hargs : ∀ a ∈ args, Text.IsWord a) :
    s.dispatch access (" ".intercalate ((name ++ ":" ++ rest) :: args)) =
      s.execute access (Path.text f.name e.name) ((if rest = "" then [] else [rest]) ++ args) := by
  have hcolon : ':' ∈ (name ++ ":" ++ rest).toList := by simp
  have hword : Text.IsWord (name ++ ":" ++ rest) :=
    ⟨fun hempty => by simp [hempty] at hcolon, (blankless.append (by decide)).append hrest⟩
  have hwords := Page.wordsOf_intercalate (List.forall_mem_cons.2 ⟨hword, hargs⟩)
  -- no command is in the way: none has a colon in its name
  refine dispatch_eq_execute access hwords (Command.ofVerb?_eq_none (.inl hcolon)) ?_
  rw [Page.fallBack_of_query (h.findQuery colonless rest), Page.wordInOperator_append colonless]

theorem dispatch_path {s : Session} {args : List String} {f : Folder} {e : Entry} (access : Access)
    (h : s.page.store.WellFormed) (hf : f ∈ s.page.store.folders) (he : e ∈ f.entries)
    (plain : '/' ∉ f.name.toList)
    (blankless : Text.Blankless (Path.text f.name e.name))
    (colonless : ':' ∉ (Path.text f.name e.name).toList)
    (hargs : ∀ a ∈ args, Text.IsWord a) :
    s.dispatch access (" ".intercalate (Path.text f.name e.name :: args)) =
      s.execute access (Path.text f.name e.name) args := by
  have hslash : '/' ∈ (Path.text f.name e.name).toList := by simp [Path.text]
  have hword : Text.IsWord (Path.text f.name e.name) :=
    ⟨fun hempty => by simp [hempty] at hslash, blankless⟩
  have hwords := Page.wordsOf_intercalate (List.forall_mem_cons.2 ⟨hword, hargs⟩)
  have hnone : s.page.store.CallsNone (Path.text f.name e.name) :=
    fun hcolon => absurd hcolon colonless
  exact dispatch_eq_execute access hwords (Command.ofVerb?_eq_none (.inr hslash))
    (Page.fallBack_of_path hnone (h.entry?_text hf he plain) args)

/-- An entry may be run by an operator, by its path, or as the default query, and all do what running
    it by its path does. Of an operator, the name before the colon must be one that no earlier query
    goes by, and the first word may stand behind the colon; to the default query goes the whole
    line. -/
theorem routes_agree (s : Session) (access : Access) (h : s.page.store.WellFormed)
    (plain : ∀ f ∈ s.page.store.folders, '/' ∉ f.name.toList) (args : List String)
    (hargs : ∀ a ∈ args, Text.IsWord a) :
    (∀ name f e, s.page.store.AnswersFirst name f e →
      Text.Blankless name → ':' ∉ name.toList →
      s.dispatch access (" ".intercalate ((name ++ ":") :: args)) =
        s.execute access (Path.text f.name e.name) args ∧
      ∀ a rest, args = a :: rest →
        s.dispatch access (" ".intercalate ((name ++ ":" ++ a) :: rest)) =
          s.execute access (Path.text f.name e.name) args) ∧
    (∀ f ∈ s.page.store.folders, ∀ e ∈ f.entries,
      Text.Blankless (Path.text f.name e.name) → ':' ∉ (Path.text f.name e.name).toList →
      s.dispatch access (" ".intercalate (Path.text f.name e.name :: args)) =
        s.execute access (Path.text f.name e.name) args) ∧
    ∀ line verb words, Page.wordsOf line = verb :: words → Command.ofVerb? verb = none →
      s.page.store.CallsNone verb → s.page.store.entry? verb = none →
      (∃ e, s.page.store.entry? s.page.config.defaultFile = some e ∧ e.isQuery = true) →
      s.dispatch access line = s.execute access s.page.config.defaultFile (verb :: words) := by
  refine ⟨fun name f e hfirst blankless colonless => ⟨?_, ?_⟩,
    fun f hf e he blankless colonless => ?_, ?_⟩
  · have hroute := dispatch_operator access "" hfirst blankless colonless nofun hargs
    simpa using hroute
  · rintro a rest rfl
    have ha := hargs a List.mem_cons_self
    have hroute := dispatch_operator access a hfirst blankless colonless ha.blankless
      fun w hw => hargs w (List.mem_cons_of_mem a hw)
    simpa [ha.nonempty] using hroute
  · exact dispatch_path access h hf he (plain f hf) blankless colonless hargs
  · rintro line verb words hwords noCommand hnone noPath ⟨e, he, query⟩
    exact dispatch_eq_execute access hwords noCommand
      (Page.fallBack_of_default hnone noPath he query words)

/-- A query that another one, shown later, shares its keyword with. -/
def webSearch : Entry :=
  { Entry.query "search" "s" "http://[::1]/?q=$\x7b\x7d" with position := 2, parent := some "web" }

def web : Folder :=
  { Folder.empty "web" with
    position := 1
    entries :=
      [{ Entry.query "find" "f" "http://[::1]/" with position := 1, parent := some "web" }, webSearch] }

/-- Two folders of queries; the default one has a slash in its name. -/
def engines : Session :=
  ofPage
    { store := ⟨[web, { Folder.empty "more" with
        position := 2
        entries :=
          [{ Entry.query "a/search" "s" "http://[::1]/" with
              position := 1, parent := some "more" }] }]⟩
      config := { Config.initial with defaultFile := "more/a/search.qry" } }

theorem routes_agree_engines :
    engines.page.store.AnswersFirst "s" web webSearch ∧
      engines.dispatch .full "s: blue a:b" =
        engines.execute .full "web/search.qry" ["blue", "a:b"] ∧
      engines.dispatch .full "s:blue a:b" =
        engines.execute .full "web/search.qry" ["blue", "a:b"] ∧
      engines.dispatch .full "web/search.qry blue a:b" =
        engines.execute .full "web/search.qry" ["blue", "a:b"] ∧
      engines.dispatch .full "x:y/z blue" =
        engines.execute .full "more/a/search.qry" ["x:y/z", "blue"] := by
  have hfirst : engines.page.store.AnswersFirst "s" web webSearch :=
    ⟨by decide +kernel, by decide +kernel, [], _, [_], [], rfl, rfl, nofun, by decide +kernel⟩
  obtain ⟨hoperator, hpath, hdefault⟩ := routes_agree engines .full (by decide +kernel)
    (by decide +kernel) ["blue", "a:b"] (by decide +kernel)
  obtain ⟨happart, hbehind⟩ := hoperator "s" web webSearch hfirst (by decide +kernel)
    (by decide +kernel)
  have hwhole := hdefault "x:y/z blue" "x:y/z" ["blue"] (by decide +kernel) (by decide +kernel)
    (by unfold Store.CallsNone; decide +kernel) (by decide +kernel)
    ⟨_, rfl, by decide +kernel⟩
  have hdirect := hpath web (by decide +kernel) webSearch (by decide +kernel) (by decide +kernel)
    (by decide +kernel)
  exact ⟨hfirst, happart, hbehind "blue" ["a:b"] rfl, hdirect, hwhole⟩

end Session
end StartPage
