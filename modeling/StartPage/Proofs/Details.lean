import StartPage.Proofs.Move.Effect
import StartPage.Proofs.Placement
import StartPage.Proofs.Report
import StartPage.Proofs.WellFormed.Action

/-!
    The commands that set a detail: the content, rule, description or icon of an entry, the icon of a
    folder, or the place of either. Each is told apart by what it asks for and by the one thing that
    it changes.

        edit sites/search.qry * b.org        content     where there is the entry
        sed sites/search.qry / /g +          rule        and it is a query
        set-icon sites/ globe                icon        where there is the folder
        set-position sites/search.qry +1     place       and the rank is a number

    Whatever words they are given, names, hits and parents stay, and so do the settings. -/

namespace StartPage

/-! ### Entries and folders in a place -/

/-- A folder with an entry in the place of the one of its name. -/
def Folder.putEntry (f : Folder) (e : Entry) : Folder :=
  { f with entries := Sequence.put Entry.name f.entries e }

/-- A store with a folder in the place of the one of its name. -/
def Store.putFolder (s : Store) (f : Folder) : Store where
  folders := Sequence.put Folder.name s.folders f

/-- A folder with one of its entries at a rank. -/
def Folder.putAt (f : Folder) (e : Entry) (rank : Int) : Folder :=
  { f with
    entries := (Sequence.withRank Entry.name f.entries e rank).mapIdx fun i x =>
      { x with position := i + 1 } }

/-- A store with one of its folders at a rank. -/
def Store.putAt (s : Store) (f : Folder) (rank : Int) : Store where
  folders := (Sequence.withRank Folder.name s.folders f rank).mapIdx fun i x =>
    { x with position := i + 1 }

/-- A path leads to an entry of a folder of a store. -/
structure Store.Leads (s : Store) (path : String) (f : Folder) (e : Entry) : Prop where
  folder : f ∈ s.folders
  entry : e ∈ f.entries
  read : Path.ofText path = ⟨f.name, some e.name⟩

namespace Store

variable {s : Store} {f : Folder} {e : Entry} {path : String}

theorem WellFormed.modifyFolder_eq_putFolder {change : Folder → Folder} (h : s.WellFormed)
    (hf : f ∈ s.folders) (name : (change f).name = f.name) :
    s.modifyFolder f.name change = s.putFolder (change f) :=
  congrArg Store.mk (Sequence.modifyFirst_eq_put h.names hf name)

theorem Leads.modifyEntry {change : Entry → Entry} (hl : s.Leads path f e) (h : s.WellFormed)
    (name : (change e).name = e.name) :
    s.modifyEntry (Path.ofText path) change = s.putFolder (f.putEntry (change e)) := by
  have hentries := Sequence.modifyFirst_eq_put (h.folders f hl.folder).names hl.entry name
  have hmodify : f.modify e.name change = f.putEntry (change e) := by
    rw [Folder.modify, hentries, Folder.putEntry]
  rw [hl.read, Store.modifyEntry, ← hmodify]
  exact h.modifyFolder_eq_putFolder hl.folder rfl

theorem Leads.findEntry (hl : s.Leads path f e) (h : s.WellFormed) :
    Action.findEntry s path = .ok e := by
  have hentry := (h.folders f hl.folder).entry?_of_mem hl.entry
  simp only [Action.findEntry, hl.read, h.folder?_of_mem hl.folder, hentry]

theorem leads_of_findEntry (h : Action.findEntry s path = .ok e) : ∃ f, s.Leads path f e := by
  unfold Action.findEntry at h
  dsimp only at h
  split at h
  · cases h
  next f hfolder =>
  split at h
  · cases h
  next name hname =>
  split at h
  · cases h
  next e' hentry =>
  cases h
  obtain ⟨hf, hf'⟩ := folder?_eq_some hfolder
  obtain ⟨he, rfl⟩ := Folder.entry?_eq_some hentry
  refine ⟨f, hf, he, ?_⟩
  rw [hf', ← hname]

end Store

/-! ### What each command asks for and changes -/

/-- What a value makes of a text: a missing or empty one or a star keeps it. -/
def kept (value : Option String) (old : String) : String :=
  match value with
  | none => old
  | some new => if new = "" ∨ new = "*" then old else new

/-- What a store is after a detail of it was set by a command with the words after its name. -/
inductive Sets (s : Store) : Command → List String → Store → Prop
  | link {path : String} {values : List String} {f : Folder} {e : Entry} (leads : s.Leads path f e)
      (kind : e.kind = .link) :
      Sets s .edit (path :: values)
        (s.putFolder (f.putEntry { e with content := kept values[0]? e.content }))
  | query {path keyword : String} {values : List String} {rule : Rule} {f : Folder} {e : Entry}
      (leads : s.Leads path f e) (kind : e.kind = .query keyword rule) :
      Sets s .edit (path :: values)
        (s.putFolder (f.putEntry
          { e with
            kind := .query (Text.without ':' (kept values[0]? keyword)) rule
            content := kept values[1]? e.content }))
  | rule {path keyword : String} {rest : List String} {rule : Rule} {f : Folder} {e : Entry}
      (leads : s.Leads path f e) (kind : e.kind = .query keyword rule) :
      Sets s .setRule (path :: rest)
        (s.putFolder (f.putEntry
          { e with kind := .query keyword ⟨rest[0]?.getD "", rest[1]?.getD ""⟩ }))
  | description {path : String} {rest : List String} {f : Folder} {e : Entry}
      (leads : s.Leads path f e) :
      Sets s .setDescription (path :: rest)
        (s.putFolder (f.putEntry { e with description := " ".intercalate rest }))
  | icon {path icon : String} {rest : List String} {f : Folder} {e : Entry}
      (leads : s.Leads path f e) :
      Sets s .setIcon (path :: icon :: rest)
        (s.putFolder (f.putEntry { e with icon := icon, iconClass := rest[0]?.getD "solid" }))
  | folderIcon {path icon : String} {rest : List String} {f : Folder} (folder : f ∈ s.folders)
      (read : Path.ofText path = ⟨f.name, none⟩) :
      Sets s .setIcon (path :: icon :: rest)
        (s.putFolder { f with icon := icon, iconClass := rest[0]?.getD "solid" })
  | position {path text : String} {rest : List String} {f : Folder} {e : Entry} {rank : Int}
      (leads : s.Leads path f e) (number : Sequence.IsRank text rank) :
      Sets s .setPosition (path :: text :: rest) (s.putFolder (f.putAt e rank))
  | folderPosition {path text : String} {rest : List String} {f : Folder} {rank : Int}
      (folder : f ∈ s.folders) (read : Path.ofText path = ⟨f.name, none⟩)
      (number : Sequence.IsRank text rank) :
      Sets s .setPosition (path :: text :: rest) (s.putAt f rank)

/-- An action sets a detail: it reports a success just if it can, and then the store is as it should
    be. -/
structure Action.Carries (sets : Store → Prop) (result : Store × Response) : Prop where
  made : ∀ s', sets s' → result.1 = s' ∧ result.2.kind = .success
  asked : result.2.kind = .success → ∃ s', sets s'

namespace Action

variable {s s' : Store} {path message : String} {change : Entry → Entry} {f : Folder} {e : Entry}

theorem changeEntry_of_leads (h : s.WellFormed) (hl : s.Leads path f e)
    (name : (change e).name = e.name) : changeEntry s path change message =
      (s.putFolder (f.putEntry (change e)), .success message) := by
  rw [changeEntry, hl.findEntry h, ← hl.modifyEntry h name]

theorem kind_ofFault_ne (f : Fault) : (Response.ofFault f).kind ≠ .success := by
  unfold Response.ofFault
  split
  · nofun
  · nofun

theorem leads_of_changeEntry (h : (changeEntry s path change message).2.kind = .success) :
    ∃ f e, s.Leads path f e := by
  unfold changeEntry at h
  split at h
  · next e hfind =>
    obtain ⟨f, hl⟩ := Store.leads_of_findEntry hfind
    exact ⟨f, e, hl⟩
  · exact absurd h (kind_ofFault_ne _)

/-! ### Contents -/

theorem getD_fresh? (value : Option String) (old : String) :
    (Entry.fresh? value).getD old = kept value old := by
  cases value with
  | none => rfl
  | some new =>
    rw [Entry.fresh?, kept, Option.filter_some]
    by_cases hnew : new = "" ∨ new = "*"
    · rw [if_pos hnew, if_neg (by simpa [or_iff_not_imp_left] using hnew)]
      rfl
    · rw [if_neg hnew, if_pos (by simpa using hnew)]
      rfl

theorem getD_map_fresh? {old : String} (h : ':' ∉ old.toList) (value : Option String) :
    ((Entry.fresh? value).map Entry.cleanKeyword).getD old =
      Text.without ':' (kept value old) := by
  rw [← getD_fresh?]
  -- a keyword that is kept has no colon to lose
  cases Entry.fresh? value with
  | none => exact (Text.without_of_not_mem h).symm
  | some new => rfl

theorem edit_of_link (values : List String) (kind : e.kind = .link) :
    e.edit values = { e with content := kept values[0]? e.content } := by
  rw [Entry.edit, kind]
  dsimp only
  rw [getD_fresh?]

theorem edit_of_query {keyword : String} {rule : Rule} (values : List String) (h : e.IsRegular)
    (kind : e.kind = .query keyword rule) : e.edit values =
      { e with
        kind := .query (Text.without ':' (kept values[0]? keyword)) rule
        content := kept values[1]? e.content } := by
  rw [Entry.edit, kind]
  dsimp only
  rw [getD_fresh?, getD_map_fresh? (h.not_mem_keyword kind)]

theorem carries_edit (h : s.WellFormed) (words : List String) :
    Carries (Sets s .edit words) (edit words s) where
  made := by
    intro s' hsets
    cases hsets with
    | @link path values f e leads kind =>
      rw [edit, changeEntry_of_leads h leads (e.staysPut_edit values).name,
        edit_of_link values kind]
      exact ⟨rfl, rfl⟩
    | @query path keyword values rule f e leads kind =>
      have hregular := (h.folders f leads.folder).regular e leads.entry
      rw [edit, changeEntry_of_leads h leads (e.staysPut_edit values).name,
        edit_of_query values hregular kind]
      exact ⟨rfl, rfl⟩
  asked := by
    intro hkind
    cases words with
    | nil => cases hkind
    | cons path values =>
      obtain ⟨f, e, leads⟩ := leads_of_changeEntry hkind
      cases kind : e.kind with
      | link => exact ⟨_, .link leads kind⟩
      | query keyword rule => exact ⟨_, .query leads kind⟩

/-! ### Rules and descriptions -/

theorem setRule_of_query {keyword : String} {old : Rule} (new : Rule)
    (kind : e.kind = .query keyword old) :
    e.setRule new = { e with kind := .query keyword new } := by
  rw [Entry.setRule, kind]

theorem carries_setRule (h : s.WellFormed) (words : List String) :
    Carries (Sets s .setRule words) (setRule words s) where
  made := by
    intro s' hsets
    cases hsets with
    | @rule path keyword rest rule f e leads kind =>
      have hquery : e.isQuery = true := by rw [Entry.isQuery, Entry.type, kind]; rfl
      simp only [setRule, leads.findEntry h, hquery, if_true]
      rw [changeEntry_of_leads h leads (e.staysPut_setRule _).name, setRule_of_query _ kind]
      exact ⟨rfl, rfl⟩
  asked := by
    intro hkind
    unfold setRule at hkind
    split at hkind
    · cases hkind
    next path rest =>
    split at hkind
    · exact absurd hkind (kind_ofFault_ne _)
    next e hfind =>
    split at hkind
    · next hquery =>
      obtain ⟨f, leads⟩ := Store.leads_of_findEntry hfind
      cases kind : e.kind with
      | link =>
        rw [Entry.isQuery, Entry.type, kind] at hquery
        cases hquery
      | query keyword rule => exact ⟨_, .rule leads kind⟩
    · cases hkind

theorem carries_setDescription (h : s.WellFormed) (words : List String) :
    Carries (Sets s .setDescription words) (setDescription words s) where
  made := by
    intro s' hsets
    cases hsets with
    | description leads =>
      rw [setDescription, changeEntry_of_leads h leads rfl]
      exact ⟨rfl, rfl⟩
  asked := by
    intro hkind
    cases words with
    | nil => cases hkind
    | cons path rest =>
      obtain ⟨f, e, leads⟩ := leads_of_changeEntry hkind
      exact ⟨_, .description leads⟩

/-! ### Icons -/

/-- A path without an entry is that of a folder. -/
theorem read_of_folder? {path : Path} {f : Folder} (hf : s.folder? path.folder = some f)
    (hpath : path.entry? = none) : f ∈ s.folders ∧ path = ⟨f.name, none⟩ := by
  obtain ⟨hmem, hname⟩ := Store.folder?_eq_some hf
  refine ⟨hmem, ?_⟩
  rw [hname, ← hpath]

theorem carries_setIcon (h : s.WellFormed) (words : List String) :
    Carries (Sets s .setIcon words) (setIcon words s) where
  made := by
    intro s' hsets
    cases hsets with
    | @icon path icon rest f e leads =>
      simp only [setIcon, leads.read, Option.isSome_some, if_true]
      rw [changeEntry_of_leads h leads (e.staysPut_setIcon _ _).name, Entry.setIcon,
        List.head?_eq_getElem?]
      exact ⟨rfl, rfl⟩
    | @folderIcon path icon rest f folder read =>
      have hmodify : s.modifyFolder f.name (·.setIcon icon rest.head?) =
          s.putFolder (f.setIcon icon rest.head?) := h.modifyFolder_eq_putFolder folder rfl
      simp only [setIcon, read, h.folder?_of_mem folder, Option.isSome_some, Option.isSome_none,
        Bool.false_eq_true, if_false, if_true]
      rw [hmodify, Folder.setIcon, List.head?_eq_getElem?]
      exact ⟨rfl, rfl⟩
  asked := by
    intro hkind
    unfold setIcon at hkind
    split at hkind
    · next path icon rest =>
      dsimp only at hkind
      split at hkind
      · obtain ⟨f, e, leads⟩ := leads_of_changeEntry hkind
        exact ⟨_, .icon leads⟩
      next hentry =>
      split at hkind
      · next hfolder =>
        obtain ⟨f, hf⟩ := Option.isSome_iff_exists.1 hfolder
        obtain ⟨folder, read⟩ := read_of_folder? hf (by simpa using hentry)
        exact ⟨_, .folderIcon folder read⟩
      · exact absurd hkind (kind_ofFault_ne _)
    · cases hkind

/-! ### Places -/

theorem place_eq_putAt (h : f.IsSound) (he : e ∈ f.entries) (rank : Int) :
    f.place e.name rank = .ok (f.putAt e rank) := by
  obtain ⟨i, hi, hreposition⟩ := Sequence.exists_reposition_eq h.names he rank
  rw [Folder.place, hi]
  dsimp only
  rw [hreposition, f.renumber_eq_mapIdx, Folder.putAt]

theorem placeFolder_eq_putAt (h : s.WellFormed) (hf : f ∈ s.folders) (rank : Int) :
    s.placeFolder f.name rank = .ok (s.putAt f rank) := by
  obtain ⟨i, hi, hreposition⟩ := Sequence.exists_reposition_eq h.names hf rank
  rw [Store.placeFolder, hi]
  dsimp only
  rw [hreposition, Store.renumber_eq_mapIdx, Store.putAt]

theorem placeAt_of_leads (h : s.WellFormed) (hl : s.Leads path f e) (rank : Int) :
    placeAt s path rank = .ok (s.putFolder (f.putAt e rank)) := by
  have hplace := place_eq_putAt (h.folders f hl.folder).toIsSound hl.entry rank
  simp only [placeAt, hl.read, h.folder?_of_mem hl.folder, hplace]
  exact congrArg Except.ok (h.modifyFolder_eq_putFolder hl.folder rfl)

theorem placeAt_of_folder (h : s.WellFormed) (hf : f ∈ s.folders)
    (read : Path.ofText path = ⟨f.name, none⟩) (rank : Int) :
    placeAt s path rank = .ok (s.putAt f rank) := by
  simp only [placeAt, read, placeFolder_eq_putAt h hf]

/-- What can be placed is an entry or a folder to which the path leads. -/
theorem leads_of_placeAt {rank : Int} (h : placeAt s path rank = .ok s') :
    (∃ f e, s.Leads path f e) ∨ ∃ f ∈ s.folders, Path.ofText path = ⟨f.name, none⟩ := by
  obtain ⟨hentry, hplace⟩ | ⟨name, f, f', hname, hf, hplace, -⟩ := placeAt_eq_ok h
  · obtain ⟨f, -, hf, -, -⟩ := Store.placeFolder_eq_ok hplace
    obtain ⟨folder, read⟩ := read_of_folder? hf hentry
    exact .inr ⟨f, folder, read⟩
  · obtain ⟨e, -, he, -, -⟩ := Folder.place_eq_ok hplace
    obtain ⟨folder, hfolder⟩ := Store.folder?_eq_some hf
    obtain ⟨entry, rfl⟩ := Folder.entry?_eq_some he
    refine .inl ⟨f, e, folder, entry, ?_⟩
    rw [hfolder, ← hname]

theorem carries_setPosition (h : s.WellFormed) (words : List String) :
    Carries (Sets s .setPosition words) (setPosition words s) where
  made := by
    intro s' hsets
    cases hsets with
    | @position path text rest f e rank leads number =>
      rw [setPosition, Sequence.parseRank?_eq_some.2 number]
      dsimp only
      rw [placeAt_of_leads h leads]
      exact ⟨rfl, rfl⟩
    | @folderPosition path text rest f rank folder read number =>
      rw [setPosition, Sequence.parseRank?_eq_some.2 number]
      dsimp only
      rw [placeAt_of_folder h folder read]
      exact ⟨rfl, rfl⟩
  asked := by
    intro hkind
    unfold setPosition at hkind
    split at hkind
    · next path text rest =>
      split at hkind
      · cases hkind
      next rank hrank =>
      have number := Sequence.parseRank?_eq_some.1 hrank
      split at hkind
      · next s' hplace =>
        rcases leads_of_placeAt hplace with ⟨f, e, leads⟩ | ⟨f, folder, read⟩
        · exact ⟨_, .position leads number⟩
        · exact ⟨_, .folderPosition folder read number⟩
      · exact absurd hkind (kind_ofFault_ne _)
    · cases hkind

end Action

/-! ### What stays -/

/-- What no detail is part of: the name of an entry, its parent and its hits. -/
def Entry.label (e : Entry) : String × Option String × UInt64 := (e.name, e.parent, e.hits)

/-- The name of a folder, with the labels of its entries. -/
def Folder.label (f : Folder) : String × Multiset (String × Option String × UInt64) :=
  (f.name, (f.entries.map Entry.label : List _))

/-- The labels of the folders of a store. -/
def Store.labels (s : Store) : Multiset (String × Multiset (String × Option String × UInt64)) :=
  (s.folders.map Folder.label : List _)

section Labels

variable {s s' : Store} {f f' : Folder} {e e' : Entry}

theorem Store.labels_putFolder (h : s.WellFormed) (hf : f ∈ s.folders)
    (same : f'.label = f.label) : (s.putFolder f').labels = s.labels :=
  congrArg Multiset.ofList (Sequence.map_put h.names hf (congrArg Prod.fst same) same)

theorem Store.Leads.labels {path : String} (hl : s.Leads path f e) (h : s.WellFormed)
    (same : e'.label = e.label) : (s.putFolder (f.putEntry e')).labels = s.labels := by
  have hentries := Sequence.map_put (h.folders f hl.folder).names hl.entry
    (congrArg Prod.fst same) same
  refine labels_putFolder h hl.folder (congrArg (Prod.mk f.name) ?_)
  rw [Folder.putEntry, hentries]

theorem Sets.labels {c : Command} {words : List String} (hsets : Sets s c words s')
    (h : s.WellFormed) : s'.labels = s.labels := by
  cases hsets with
  | link leads kind => exact leads.labels h rfl
  | query leads kind => exact leads.labels h rfl
  | rule leads kind => exact leads.labels h rfl
  | description leads => exact leads.labels h rfl
  | icon leads => exact leads.labels h rfl
  | folderIcon folder read => exact Store.labels_putFolder h folder rfl
  | @position path text rest f e rank leads number =>
    -- no label says a position, and a bag of labels has no order
    have hsound := (h.folders f leads.folder).toIsSound
    refine Store.labels_putFolder h leads.folder (congrArg (Prod.mk f.name) ?_)
    have keeps : ∀ i (x : Entry), Entry.label { x with position := i + 1 } = x.label :=
      fun _ _ => rfl
    exact Multiset.coe_eq_coe.2
      (Sequence.map_mapIdx_withRank_perm keeps hsound.names leads.entry rank)
  | @folderPosition path text rest f rank folder read number =>
    have keeps : ∀ i (x : Folder), Folder.label { x with position := i + 1 } = x.label :=
      fun _ _ => rfl
    exact Multiset.coe_eq_coe.2 (Sequence.map_mapIdx_withRank_perm keeps h.names folder rank)

end Labels

/-! ### Commands -/

namespace Command

/-- The commands that set a detail. -/
def details : List Command := [.edit, .setRule, .setDescription, .setIcon, .setPosition]

/-- Each of them is an action on the folders. -/
theorem exists_action {c : Command} (hc : c ∈ details) (words : List String) :
    ∃ act, (∀ p, c.run words p = onStore act p) ∧ ∀ s, Action.Answered s (act s) ∧
      (s.WellFormed → Action.Carries (Sets s c words) (act s)) := by
  simp only [details, List.mem_cons, List.not_mem_nil, or_false] at hc
  rcases hc with rfl | rfl | rfl | rfl | rfl
  · exact ⟨_, fun _ => rfl, fun s =>
      ⟨Action.answered_edit words s, fun h => Action.carries_edit h words⟩⟩
  · exact ⟨_, fun _ => rfl, fun s =>
      ⟨Action.answered_setRule words s, fun h => Action.carries_setRule h words⟩⟩
  · exact ⟨_, fun _ => rfl, fun s =>
      ⟨Action.answered_setDescription words s, fun h => Action.carries_setDescription h words⟩⟩
  · exact ⟨_, fun _ => rfl, fun s =>
      ⟨Action.answered_setIcon words s, fun h => Action.carries_setIcon h words⟩⟩
  · exact ⟨_, fun _ => rfl, fun s =>
      ⟨Action.answered_setPosition words s, fun h => Action.carries_setPosition h words⟩⟩

/-- A command that sets a detail reports a success just if it has what it asks for. Then the page is
    as it was but for that detail, and otherwise it is as it was. Names, parents and hits stay in
    either case, and so do the settings. -/
theorem run_sets_detail {p : Page} (h : p.store.WellFormed) {c : Command} (hc : c ∈ details)
    (words : List String) :
    ((c.run words p).2.kind = .success ↔ ∃ s', Sets p.store c words s') ∧
      (∀ s', Sets p.store c words s' → (c.run words p).1 = { p with store := s' }) ∧
      ((c.run words p).2.kind ≠ .success → (c.run words p).1 = p) ∧
      (c.run words p).1.store.labels = p.store.labels ∧
      (c.run words p).1.config = p.config := by
  obtain ⟨act, hrun, hact⟩ := exists_action hc words
  obtain ⟨hanswered, hcarries⟩ := hact p.store
  have hcarries := hcarries h
  have hmade : ∀ s', Sets p.store c words s' → (c.run words p).1 = { p with store := s' } := by
    intro s' hsets
    have hstore := (hcarries.made s' hsets).1
    rw [hrun, ← hstore]
    rfl
  have hkept : (c.run words p).2.kind ≠ .success → (c.run words p).1 = p := by
    intro hkind
    rw [hrun] at hkind ⊢
    exact reported_onStore hanswered.reported fun hdone => hkind hdone.1
  have hiff : (c.run words p).2.kind = .success ↔ ∃ s', Sets p.store c words s' := by
    rw [hrun]
    exact ⟨hcarries.asked, fun ⟨s', hsets⟩ => (hcarries.made s' hsets).2⟩
  refine ⟨hiff, hmade, hkept, ?_, by rw [hrun]; rfl⟩
  by_cases hkind : (c.run words p).2.kind = .success
  · obtain ⟨s', hsets⟩ := hiff.1 hkind
    rw [hmade s' hsets]
    exact hsets.labels h
  · rw [hkept hkind]

/-- A query gets a new keyword and keeps its content, and a sign alone is not a rank. -/
theorem run_sets_detail_twoFolders :
    Action.twoFolders.WellFormed ∧
      (Command.edit.run ["other/d.qry", "e:", "*"] ⟨Action.twoFolders, .initial⟩).2.kind =
        .success ∧
      (∃ s', Sets Action.twoFolders .edit ["other/d.qry", "e:", "*"] s' ∧
        (Command.edit.run ["other/d.qry", "e:", "*"] ⟨Action.twoFolders, .initial⟩).1 =
          ⟨s', .initial⟩ ∧
        s'.labels = Action.twoFolders.labels ∧ (s'.findQuery "e:" true).isSome) ∧
      ¬ ∃ s', Sets Action.twoFolders .setPosition ["sites/", "+"] s' := by
  have hstore : Action.twoFolders.WellFormed := by decide +kernel
  have hpage : (⟨Action.twoFolders, .initial⟩ : Page).store.WellFormed := hstore
  have hdone : (Command.edit.run ["other/d.qry", "e:", "*"] ⟨Action.twoFolders, .initial⟩).2.kind =
      .success := by decide +kernel
  have hfound : ((Command.edit.run ["other/d.qry", "e:", "*"]
      ⟨Action.twoFolders, .initial⟩).1.store.findQuery "e:" true).isSome := by decide +kernel
  have hrefused : (Command.setPosition.run ["sites/", "+"]
      ⟨Action.twoFolders, .initial⟩).2.kind ≠ .success := by decide +kernel
  obtain ⟨hiff, hmade, -, hlabels, -⟩ :=
    run_sets_detail hpage (c := .edit) (by decide) ["other/d.qry", "e:", "*"]
  obtain ⟨hrank, -⟩ := run_sets_detail hpage (c := .setPosition) (by decide) ["sites/", "+"]
  obtain ⟨s', hsets⟩ := hiff.1 hdone
  have hpage' := hmade s' hsets
  rw [hpage'] at hlabels hfound
  exact ⟨hstore, hdone, ⟨s', hsets, hpage', hlabels, hfound⟩, fun h => hrefused (hrank.2 h)⟩

end Command
end StartPage
