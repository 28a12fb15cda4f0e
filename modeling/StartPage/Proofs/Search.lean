import StartPage.Proofs.Move.Effect
import StartPage.Proofs.Text

/-!
    What a search finds. An entry is sought if it is of a type that is asked for, and its name has
    the text in it or one of the names it answers to begins with the text. A search gives the sought
    entries in the order in which they are shown, so the more is asked for the less it finds.

        s         any type    ──▶   sites/a.lnk  sites/b.lnk  other/s.qry
        s         links       ──▶   sites/a.lnk  sites/b.lnk
        sites/b   links       ──▶                sites/b.lnk                 -/

namespace StartPage

/-! ### Entries that are sought -/

/-- What an entry answers to: its name, the keyword of a query, and the path of an entry that is in a
    folder. -/
inductive Entry.AnswersTo (e : Entry) : String → Prop
  | name : AnswersTo e e.name
  | keyword {keyword : String} {rule : Rule} (kind : e.kind = .query keyword rule) :
      AnswersTo e keyword
  | path {folder : String} (parent : e.parent = some folder) :
      AnswersTo e (Path.text folder e.name)

/-- An entry is of a type that is asked for, if any is, and has a text in its name or at the start of
    something that it answers to. -/
structure Entry.IsSought (e : Entry) (text : String) (types : List EntryType) : Prop where
  type : types = [] ∨ e.type ∈ types
  text : text.toList <:+: e.name.toList ∨ ∃ name, e.AnswersTo name ∧ text.toList <+: name.toList

namespace Entry

variable {e : Entry} {text : String} {types : List EntryType}

theorem mem_names_iff {name : String} : name ∈ e.names ↔ e.AnswersTo name := by
  have hpath : name ∈ e.path?.toList ↔ ∃ folder, e.parent = some folder ∧
      Path.text folder e.name = name := by
    rw [Option.mem_toList, path?, Option.map_eq_some_iff]
  rw [names, List.mem_cons, aliases]
  constructor
  · rintro (rfl | h)
    · exact .name
    · split at h
      · obtain ⟨folder, parent, rfl⟩ := hpath.1 h
        exact .path parent
      · next keyword rule kind =>
        rcases List.mem_cons.1 h with rfl | h
        · exact .keyword kind
        · obtain ⟨folder, parent, rfl⟩ := hpath.1 h
          exact .path parent
  · intro h
    cases h with
    | name => exact .inl rfl
    | keyword kind =>
      rw [kind]
      exact .inr List.mem_cons_self
    | path parent =>
      have hmem := hpath.2 ⟨_, parent, rfl⟩
      refine .inr ?_
      split
      · exact hmem
      · exact List.mem_cons_of_mem _ hmem

theorem isFound_iff : Folder.isFound text types e = true ↔ e.IsSought text types := by
  have hnames : e.namesStartWith text = true ↔
      ∃ name, e.AnswersTo name ∧ text.toList <+: name.toList := by
    simp only [namesStartWith, List.any_eq_true, mem_names_iff, List.isPrefixOf_iff_prefix]
  rw [Folder.isFound, Bool.and_eq_true, Bool.or_eq_true, Bool.or_eq_true, Text.occursIn_iff, hnames,
    List.isEmpty_iff, List.contains_iff_mem]
  exact ⟨fun ⟨htext, htype⟩ => ⟨htype, htext⟩, fun h => ⟨h.text, h.type⟩⟩

instance (e : Entry) (text : String) (types : List EntryType) : Decidable (e.IsSought text types) :=
  decidable_of_iff _ isFound_iff

/-- What is typed on only narrows the search. -/
theorem IsSought.of_append {more : String} (h : e.IsSought (text ++ more) types) :
    e.IsSought text types := by
  have hstart : text.toList <+: (text ++ more).toList := by
    rw [String.toList_append]
    exact List.prefix_append ..
  refine ⟨h.type, h.text.imp (fun hin => ?_) fun ⟨name, hname, hin⟩ => ⟨name, hname, ?_⟩⟩
  · exact hstart.isInfix.trans hin
  · exact hstart.trans hin

/-- More types widen the search, as long as there are any. -/
theorem IsSought.of_subset {wider : List EntryType} (h : e.IsSought text types) (nonempty : types ≠ [])
    (sub : types ⊆ wider) : e.IsSought text wider :=
  ⟨.inr (sub (h.type.resolve_left nonempty)), h.text⟩

theorem IsSought.of_any (h : e.IsSought text types) : e.IsSought text [] := ⟨.inl rfl, h.text⟩

end Entry

/-! ### Searches -/

namespace Store

variable {s : Store} {text text' : String} {types types' : List EntryType}

/-- A search goes through all entries and leaves out those that are not sought. -/
theorem search_eq_filter (s : Store) (text : String) (types : List EntryType) :
    s.search text types = s.flatten.filter fun found => found.2.IsSought text types := by
  rw [search, flatten, List.filter_flatMap]
  refine List.flatMap_congr fun f _ => ?_
  rw [List.filter_map, Folder.search]
  refine congrArg (List.map _) (List.filter_congr fun e _ => ?_)
  rw [Bool.eq_iff_iff, Entry.isFound_iff, Function.comp_apply, decide_eq_true_eq]

theorem search_sublist (weaker : ∀ e : Entry, e.IsSought text types → e.IsSought text' types') :
    (s.search text types).Sublist (s.search text' types') := by
  rw [search_eq_filter, search_eq_filter]
  exact List.monotone_filter_right _ fun found h => by simpa using weaker found.2 (by simpa using h)

/-- A search finds the sought entries, each where it stands among all entries. With more text, or
    with fewer types, it finds some of them. -/
theorem search_narrows (s : Store) (text : String) (types : List EntryType) :
    s.search text types = s.flatten.filter (fun found => found.2.IsSought text types) ∧
      (∀ more, (s.search (text ++ more) types).Sublist (s.search text types)) ∧
      ∀ wider, types ≠ [] → types ⊆ wider →
        (s.search text types).Sublist (s.search text wider) ∧
          (s.search text wider).Sublist (s.search text []) := by
  refine ⟨search_eq_filter s text types, fun more => ?_, fun wider nonempty sub => ⟨?_, ?_⟩⟩
  · exact search_sublist fun e h => h.of_append
  · exact search_sublist fun e h => h.of_subset nonempty sub
  · exact search_sublist fun e h => h.of_any

theorem search_narrows_twoFolders :
    [EntryType.link] ≠ [] ∧ [EntryType.link] ⊆ [.query, .link] ∧
      (Action.twoFolders.search "" [.link]).Sublist
        (Action.twoFolders.search "" [.query, .link]) ∧
      (Action.twoFolders.search "" [.link]).map (·.2.name) = ["a.lnk", "b.lnk"] ∧
      (Action.twoFolders.search "" [.query, .link]).map (·.2.name) = ["a.lnk", "b.lnk", "d.qry"] ∧
      (Action.twoFolders.search "sites/b" [.link]).Sublist (Action.twoFolders.search "sites/" [.link]) ∧
      (Action.twoFolders.search "sites/b" [.link]).map (·.2.name) = ["b.lnk"] := by
  have nonempty : [EntryType.link] ≠ [] := by decide
  have sub : [EntryType.link] ⊆ [.query, .link] := by decide
  obtain ⟨-, -, hwider⟩ := search_narrows Action.twoFolders "" [.link]
  obtain ⟨-, hmore, -⟩ := search_narrows Action.twoFolders "sites/" [.link]
  exact ⟨nonempty, sub, (hwider _ nonempty sub).1, by decide +kernel, by decide +kernel, hmore "b",
    by decide +kernel⟩

end Store
end StartPage
