import Mathlib.Data.List.TakeWhile
import StartPage.Proofs.Loading
import StartPage.Proofs.Paths
import StartPage.Proofs.Removal.Commands

/-!
    The commands that make entries and folders, and how to undo them. An entry is made where words ask
    for one that has room, and is the last of its folder; removing it by the path that is reported
    gives the store back as it was. Folders are made for names that are new, and removing them by the
    same words, slashes and all, undoes that.

        touch sites/a.qry a: a.org/?q=${} star      ⇄   rm sites/a.qry
        mkdir sites/ / tools sites                  ⇄   rmdir sites/ / tools sites      -/

namespace StartPage

/-! ### Making an entry -/

/-- An entry at the end that is not kept. -/
theorem Folder.keep_concat {f : Folder} {e : Entry} {p : Entry → Bool} (h : p e = false) :
    ({ f with entries := f.entries ++ [e] } : Folder).keep p = f.keep p := by
  rw [keep, keep, List.filter_append]
  simp [h]

namespace Store

/-- A store with one more entry, at the end of the folder with a name. -/
def withEntry (s : Store) (folder : String) (e : Entry) : Store where
  folders := s.folders.map fun f =>
    if f.name = folder then
      { f with
        entries := f.entries ++
          [{ e with position := f.entries.length + 1, parent := some folder }] }
    else f

variable {s : Store} {folder : String} {f f' : Folder} {e : Entry}

theorem WellFormed.setFolder_eq_withEntry (h : s.WellFormed) (hf : s.folder? folder = some f)
    (hadd : f.add? e = some f') : s.setFolder folder f' = s.withEntry folder e := by
  obtain ⟨-, rfl⟩ := folder?_eq_some hf
  obtain ⟨-, rfl⟩ := Folder.add?_eq_some hadd
  exact h.setFolder_eq_map hf (if_pos rfl).symm fun g _ hother => if_neg hother

/-- Without the last entry of a folder, all others have the positions that they had. -/
theorem WellFormed.withoutEntries_withEntry (h : s.WellFormed) (hf : s.folder? folder = some f)
    (free : f.entry? e.name = none) :
    (s.withEntry folder e).withoutEntries [⟨folder, some e.name⟩] = s := by
  rw [Store.withoutEntries, withEntry, List.map_map]
  refine congrArg Store.mk ((List.map_congr_left fun g hg => ?_).trans (List.map_id _))
  rw [Function.comp_apply]
  split
  · next hname =>
    obtain rfl := h.eq_of_folder? hf hg hname
    refine (Folder.keep_concat ?_).trans ((h.folders g hg).keep_all fun x hx => ?_)
    · simp [hname]
    · have hother : x.name ≠ e.name := Folder.entry?_eq_none.1 free x hx
      simp [hother]
  · next hname => exact (h.folders g hg).keep_all fun x _ => by simp [hname]

end Store

namespace Action

/-- Words that ask for an entry in a folder: its path, the keyword if it is to be a query, its
    content, and perhaps an icon and the class of that. The entry has no place yet. -/
inductive Asks : List String → String → Entry → Prop
  | link {path folder name content : String} {look : List String}
    (place : Path.ofText path = ⟨folder, some name⟩)
    (isLink : ¬ Name.queryExtension.toList <:+ name.toList) :
    Asks (path :: content :: look) folder
      { name := Name.normalize name Name.linkExtension
        kind := .link
        content := content
        icon := look[0]?.getD "link"
        iconClass := look[1]?.getD "solid"
        hits := 0
        description := ""
        position := 0
        parent := none }
  | query {path folder name keyword content : String} {look : List String}
    (place : Path.ofText path = ⟨folder, some name⟩)
    (isQuery : Name.queryExtension.toList <:+ name.toList) :
    Asks (path :: keyword :: content :: look) folder
      { name := Name.normalize name Name.queryExtension
        kind := .query (Text.without ':' keyword) Rule.none
        content := content
        icon := look[0]?.getD "magnifying-glass"
        iconClass := look[1]?.getD "solid"
        hits := 0
        description := ""
        position := 0
        parent := none }

/-- Words ask for an entry in a folder that exists and has no entry of that name. -/
def Creates (s : Store) (words : List String) (folder : String) (e : Entry) : Prop :=
  Asks words folder e ∧ ∃ f, s.folder? folder = some f ∧ f.entry? e.name = none

/-- The icon and the class of a new entry are those that words name, or those of its kind. -/
theorem withIcon_ofKind (kind : EntryKind) (name content : String) (look : List String) :
    withIcon (Entry.ofKind kind name content) look =
      { name := Name.normalize name kind.extension
        kind := kind
        content := content
        icon := look[0]?.getD kind.icon
        iconClass := look[1]?.getD "solid"
        hits := 0
        description := ""
        position := 0
        parent := none } := by
  cases look with
  | nil => rfl
  | cons icon rest =>
    cases rest with
    | nil => rfl
    | cons iconClass rest => rfl

theorem Asks.newEntry {words : List String} {folder : String} {e : Entry}
    (h : Asks words folder e) : ∃ path name rest e₀ look, words = path :: rest ∧
      Path.ofText path = ⟨folder, some name⟩ ∧ newEntry? name rest = some (e₀, look) ∧
      e = withIcon e₀ look := by
  cases h with
  | @link path _ name content look place isLink =>
    have hnew : newEntry? name (content :: look) = some (Entry.link name content, look) := by
      unfold newEntry?
      rw [if_neg (mt Name.endsIn_iff.1 isLink)]
    have hlook := withIcon_ofKind .link name content look
    exact ⟨path, name, _, _, look, rfl, place, hnew, hlook.symm⟩
  | @query path _ name keyword content look place isQuery =>
    have hnew : newEntry? name (keyword :: content :: look) =
        some (Entry.query name keyword content, look) := by
      unfold newEntry?
      rw [if_pos (Name.endsIn_iff.2 isQuery)]
    have hlook := withIcon_ofKind (.query (Entry.cleanKeyword keyword) Rule.none) name content look
    exact ⟨path, name, _, _, look, rfl, place, hnew, hlook.symm⟩

theorem asks_of_newEntry {path folder name : String} {rest look : List String} {e : Entry}
    (place : Path.ofText path = ⟨folder, some name⟩) (h : newEntry? name rest = some (e, look)) :
    Asks (path :: rest) folder (withIcon e look) := by
  unfold newEntry? at h
  split at h
  · next hending =>
    split at h
    · next keyword content look' =>
      obtain ⟨rfl, rfl⟩ := Prod.mk.inj (Option.some.inj h)
      have hasks : Asks (path :: keyword :: content :: look') folder _ :=
        .query place (Name.endsIn_iff.1 hending)
      rw [Entry.query, withIcon_ofKind]
      exact hasks
    · cases h
  · next hending =>
    split at h
    · next content look' =>
      obtain ⟨rfl, rfl⟩ := Prod.mk.inj (Option.some.inj h)
      have hasks : Asks (path :: content :: look') folder _ :=
        .link place (mt Name.endsIn_iff.2 hending)
      rw [Entry.link, withIcon_ofKind]
      exact hasks
    · cases h

theorem Asks.isRegular {words : List String} {folder : String} {e : Entry}
    (h : Asks words folder e) : e.IsRegular := by
  obtain ⟨path, name, rest, e₀, look, -, -, hnew, rfl⟩ := h.newEntry
  exact isRegular_withIcon (isRegular_newEntry hnew) look

theorem Asks.slashless {words : List String} {folder : String} {e : Entry}
    (h : Asks words folder e) : '/' ∉ folder.toList := by
  obtain ⟨path, name, rest, e₀, look, -, place, -, -⟩ := h.newEntry
  have hfolder := Path.slashless_folder path
  rw [place] at hfolder
  exact hfolder

theorem name_withIcon (e : Entry) (look : List String) : (withIcon e look).name = e.name := by
  cases look with
  | nil => rfl
  | cons icon rest => rfl

/-- Where there is room for an entry, it is made. -/
theorem madeEntry?_of_creates {s : Store} {words : List String} {folder : String} {e : Entry}
    (h : s.WellFormed) (hcreates : Creates s words folder e) :
    madeEntry? words s = some (s.withEntry folder e, Path.text folder e.name) := by
  obtain ⟨hasks, f, hf, free⟩ := hcreates
  obtain ⟨path, name, rest, e₀, look, rfl, place, hnew, rfl⟩ := hasks.newEntry
  obtain ⟨f', hadd⟩ : ∃ f', f.add? (withIcon e₀ look) = some f' := by simp [Folder.add?, free]
  unfold madeEntry?
  simp only [place, hf, hnew, hadd, Option.bind_eq_bind, Option.bind_some,
    h.setFolder_eq_withEntry hf hadd, name_withIcon]

/-- Where an entry is made, there was room for it. -/
theorem creates_of_madeEntry? {s s' : Store} {words : List String} {text : String}
    (h : madeEntry? words s = some (s', text)) : ∃ folder e, Creates s words folder e := by
  unfold madeEntry? at h
  split at h
  · next path rest =>
    split at h
    · next folder name place =>
      obtain ⟨f, hf, h⟩ := Option.bind_eq_some_iff.1 h
      obtain ⟨⟨e, look⟩, hnew, h⟩ := Option.bind_eq_some_iff.1 h
      obtain ⟨f', hadd, -⟩ := Option.bind_eq_some_iff.1 h
      have free : f.entry? (withIcon e look).name = none :=
        Folder.entry?_eq_none.2 (Folder.add?_eq_some hadd).1
      exact ⟨folder, withIcon e look, asks_of_newEntry place hnew, f, hf, free⟩
    · cases h
  · cases h

/-- A store with one more entry is another one. -/
theorem Creates.withEntry_ne {s : Store} {words : List String} {folder : String} {e : Entry}
    (h : Creates s words folder e) : s.withEntry folder e ≠ s := by
  intro hsame
  obtain ⟨-, f, hf, -⟩ := h
  obtain ⟨hmem, hfolder⟩ := Store.folder?_eq_some hf
  have hmap : (s.withEntry folder e).folders = s.folders.map id := by rw [hsame, List.map_id]
  have hlength := congrArg (fun g : Folder => g.entries.length) (List.map_inj_left.1 hmap f hmem)
  simp [hfolder] at hlength

theorem makeEntry_of_creates {s : Store} {words : List String} {folder : String} {e : Entry}
    (h : s.WellFormed) (hcreates : Creates s words folder e) :
    makeEntry words s =
      (s.withEntry folder e, .success ("Created file " ++ Path.text folder e.name)) := by
  rw [makeEntry, madeEntry?_of_creates h hcreates]

theorem makeEntry_of_not {s : Store} {words : List String}
    (h : ¬ ∃ folder e, Creates s words folder e) : makeEntry words s = (s, .silent) := by
  rw [makeEntry]
  split
  · next hmade =>
    have hcreates := creates_of_madeEntry? hmade
    exact absurd hcreates h
  · rfl

/-- The path that is reported leads to the new entry, and to remove this leaves what was there. -/
theorem removeEntries_withEntry {s : Store} {words : List String} {folder : String} {e : Entry}
    (h : s.WellFormed) (hcreates : Creates s words folder e) :
    (removeEntries [Path.text folder e.name] (s.withEntry folder e)).1 = s := by
  have hmade : (s.withEntry folder e).WellFormed := by
    have hstore := wellFormed_makeEntry words h
    rwa [makeEntry_of_creates h hcreates] at hstore
  obtain ⟨hasks, f, hf, free⟩ := hcreates
  rw [removeEntries_eq hmade, List.map_singleton,
    Path.ofText_text hasks.slashless hasks.isRegular.named]
  exact h.withoutEntries_withEntry hf free

end Action

/-! ### Making folders -/

namespace Store

/-- A store with empty folders behind those that it has, one for each name. -/
def withFolders (s : Store) (names : List String) : Store where
  folders := s.folders ++
    names.mapIdx fun i name => (Folder.empty name).setPosition (s.folders.length + i + 1)

theorem withFolders_nil (s : Store) : s.withFolders [] = s := by simp [withFolders]

theorem withFolders_cons (s : Store) (name : String) (names : List String) :
    s.withFolders (name :: names) = (s.withFolders [name]).withFolders names := by
  simp only [withFolders, List.mapIdx_cons, List.mapIdx_nil, List.append_assoc,
    List.singleton_append, List.length_append, List.length_singleton]
  simp [Nat.add_assoc, Nat.add_comm 1]

theorem hasFolder_withFolders (s : Store) (names : List String) (name : String) :
    (s.withFolders names).hasFolder name = (s.hasFolder name || decide (name ∈ names)) := by
  have hnew := exists_mem_mapIdx Folder.name id
    (fun i name => (Folder.empty name).setPosition (s.folders.length + i + 1)) (fun _ _ => rfl)
    names name
  rw [Bool.eq_iff_iff, Bool.or_eq_true, isSome_folder?, isSome_folder?, decide_eq_true_eq]
  simp only [withFolders, List.mem_append, or_and_right, exists_or, hnew, id_eq, exists_eq_right]

theorem addFolder?_eq (s : Store) (name : String) :
    s.addFolder? name = if s.hasFolder name then none else some (s.withFolders [name]) := rfl

/-- Without the new folders, all others have the positions that they had. -/
theorem WellFormed.withoutFolders_withFolders {s : Store} (h : s.WellFormed)
    {names gone : List String} (old : ∀ f ∈ s.folders, f.name ∉ gone)
    (new : ∀ name ∈ names, name ∈ gone) : (s.withFolders names).withoutFolders gone = s := by
  have hnew : (names.mapIdx fun i name => (Folder.empty name).setPosition
      (s.folders.length + i + 1)).filter (·.name ∉ gone) = [] := by
    refine List.filter_eq_nil_iff.2 fun f hf => ?_
    obtain ⟨i, hi, rfl⟩ := List.mem_mapIdx.1 hf
    exact fun hkept => of_decide_eq_true hkept (new _ (List.getElem_mem hi))
  rw [withoutFolders_eq, withFolders, List.filter_append, hnew, List.append_nil,
    ← withoutFolders_eq]
  refine h.withoutFolders_of_not fun name hname => ?_
  rw [← Bool.not_eq_true, isSome_folder?]
  rintro ⟨f, hf, rfl⟩
  exact old f hf hname

end Store

namespace Action

/-- Of names that come one after the other, the first of each makes a folder, if there is none
    yet. -/
theorem addFolders_eq (names : List String) (s : Store) :
    addFolders s names = (s.withFolders (names.filter (!s.hasFolder ·)).eraseDups,
      (names.filter (!s.hasFolder ·)).eraseDups) := by
  induction names generalizing s with
  | nil => simp [addFolders, Store.withFolders_nil]
  | cons name names ih =>
    rw [addFolders, Store.addFolder?_eq]
    cases hname : s.hasFolder name with
    | true => simp [ih, hname]
    | false =>
      have hnext : (names.filter (!(s.withFolders [name]).hasFolder ·)) =
          (names.filter (!s.hasFolder ·)).filter (fun n => !n == name) := by
        rw [List.filter_filter]
        refine List.filter_congr fun n _ => ?_
        rw [Store.hasFolder_withFolders, Bool.eq_iff_iff]
        simp [and_comm]
      simp [ih, hname, hnext, List.eraseDups_cons, ← Store.withFolders_cons]

/-- A name without slashes but for those at its end. -/
theorem without_eq_trimSlashes {word : String} (h : '/' ∉ (trimSlashes word).toList) :
    Text.without '/' word = trimSlashes word := by
  have hword : word.toList.filter (· != '/') = (trimSlashes word).toList.filter (· != '/') := by
    have hsplit := congrArg List.reverse
      (List.takeWhile_append_dropWhile (p := (· == '/')) (l := word.toList.reverse))
    rw [List.reverse_append, List.reverse_reverse] at hsplit
    have hslashes : (word.toList.reverse.takeWhile (· == '/')).reverse.filter (· != '/') = [] := by
      refine List.filter_eq_nil_iff.2 fun c hc => ?_
      simpa using List.mem_takeWhile_imp (List.mem_reverse.1 hc)
    rw [← hsplit, List.filter_append, hslashes, List.append_nil, trimSlashes, String.toList_ofList]
  have hname := Text.without_of_not_mem h
  rw [Text.without] at hname ⊢
  rw [hword, hname]

/-- The names that words give to folders that are to be made. -/
def namesToMake (words : List String) : List String := (words.map trimSlashes).filter (· != "")

/-- Where no folder has one of the names yet, each of them makes a folder, unless some would lie
    inside another. -/
theorem makeFolders_of_new {s : Store} {words : List String}
    (h : (makeFolders words s).2.kind ≠ .error)
    (new : ∀ f ∈ s.folders, f.name ∉ words.map trimSlashes) :
    (∀ word ∈ words, '/' ∉ (trimSlashes word).toList) ∧
      (makeFolders words s).1 = s.withFolders (namesToMake words).eraseDups := by
  have hnew : (namesToMake words).filter (!s.hasFolder ·) = namesToMake words := by
    refine List.filter_eq_self.2 fun name hname => ?_
    rw [Bool.not_eq_true', ← Bool.not_eq_true, Store.isSome_folder?]
    rintro ⟨f, hf, rfl⟩
    exact new f hf (List.mem_filter.1 hname).1
  have hmade : (addFolders s (namesToMake words)).1 =
      s.withFolders (namesToMake words).eraseDups := by rw [addFolders_eq, hnew]
  unfold makeFolders at h ⊢
  split at h
  · exact absurd rfl h
  next hwords =>
  rw [if_neg hwords]
  dsimp only at h ⊢
  split at h
  · exact absurd rfl h
  next hnested =>
  have hslashless : ∀ word ∈ words, '/' ∉ (trimSlashes word).toList := by
    intro word hword
    by_cases hempty : trimSlashes word = ""
    · simp [hempty]
    · have hmem : trimSlashes word ∈ (words.map trimSlashes).filter (· != "") :=
        List.mem_filter.2 ⟨List.mem_map_of_mem hword, by simpa using hempty⟩
      simpa [isNested] using List.find?_eq_none.1 hnested _ hmem
  refine ⟨hslashless, ?_⟩
  split
  · exact hmade
  · exact hmade

/-- The words that made folders remove them. -/
theorem removeFolders_makeFolders {s : Store} {words : List String} (h : s.WellFormed)
    (hkind : (makeFolders words s).2.kind ≠ .error)
    (new : ∀ f ∈ s.folders, f.name ∉ words.map trimSlashes) :
    (removeFolders words (makeFolders words s).1).1 = s := by
  obtain ⟨hslashless, hstore⟩ := makeFolders_of_new hkind new
  have hmade := wellFormed_makeFolders words h
  have hwords : words.map (Text.without '/') = words.map trimSlashes :=
    List.map_congr_left fun word hword => without_eq_trimSlashes (hslashless word hword)
  rw [removeFolders_eq hmade, hstore, hwords]
  refine h.withoutFolders_withFolders new fun name hname => ?_
  exact (List.mem_filter.1 (List.mem_eraseDups.1 hname)).1

/-! ### Making and removing -/

/-- An entry is made exactly where words ask for one that has room, and is then the last of its
    folder; the path that is reported removes it and nothing else. Where no folder has one of the
    names that words give, slashes at the end apart, each of these that is not empty makes a folder,
    in their order, and the same words remove the folders again and nothing else. -/
theorem create_remove {s : Store} (h : s.WellFormed) (words : List String) :
    (∀ folder e, Creates s words folder e →
      makeEntry words s =
          (s.withEntry folder e, .success ("Created file " ++ Path.text folder e.name)) ∧
        (removeEntries [Path.text folder e.name] (makeEntry words s).1).1 = s) ∧
    ((¬ ∃ folder e, Creates s words folder e) → makeEntry words s = (s, .silent)) ∧
    ((makeEntry words s).1 ≠ s ↔ ∃ folder e, Creates s words folder e) ∧
    ((makeFolders words s).2.kind ≠ .error →
      (∀ f ∈ s.folders, f.name ∉ words.map trimSlashes) →
      (makeFolders words s).1 =
          s.withFolders ((words.map trimSlashes).filter (· != "")).eraseDups ∧
        (removeFolders words (makeFolders words s).1).1 = s) := by
  refine ⟨fun folder e hcreates => ?_, makeEntry_of_not, ⟨fun hchanged => ?_, ?_⟩,
    fun hkind new => ?_⟩
  · have hmade := makeEntry_of_creates h hcreates
    exact ⟨hmade, by rw [hmade, removeEntries_withEntry h hcreates]⟩
  · by_contra hnone
    exact hchanged (by rw [makeEntry_of_not hnone])
  · rintro ⟨folder, e, hcreates⟩
    rw [makeEntry_of_creates h hcreates]
    exact hcreates.withEntry_ne
  · exact ⟨(makeFolders_of_new hkind new).2, removeFolders_makeFolders h hkind new⟩

/-- A query as it is made of words in which the name and the keyword are not by the rules. -/
def madeQuery : Entry :=
  ⟨"my_page.qry", .query "ab" Rule.none, "a.org/?q=$\x7b\x7d", "star", "solid", 0, "", 0, none⟩

theorem create_remove_crooked :
    twoFolders.WellFormed ∧
      Creates twoFolders ["other/my page.qry", "a:b", "a.org/?q=$\x7b\x7d", "star"] "other"
        madeQuery ∧
      (removeEntries ["other/my_page.qry"] (makeEntry
        ["other/my page.qry", "a:b", "a.org/?q=$\x7b\x7d", "star"] twoFolders).1).1 = twoFolders ∧
      makeEntry ["other/", "a.org"] twoFolders = (twoFolders, .silent) ∧
      (makeFolders ["new/", "//", "tools", "new"] twoFolders).1 =
        twoFolders.withFolders ["new", "tools"] ∧
      (removeFolders ["new/", "//", "tools", "new"]
        (makeFolders ["new/", "//", "tools", "new"] twoFolders).1).1 = twoFolders := by
  have hstore : twoFolders.WellFormed := by decide +kernel
  have hcreates : Creates twoFolders ["other/my page.qry", "a:b", "a.org/?q=$\x7b\x7d", "star"]
      "other" madeQuery := by
    have hpath : Path.ofText "other/my page.qry" = ⟨"other", some "my page.qry"⟩ := by
      decide +kernel
    have hname : Name.normalize "my page.qry" Name.queryExtension = "my_page.qry" := by
      decide +kernel
    have hkeyword : Text.without ':' "a:b" = "ab" := by decide +kernel
    have hasks := @Asks.query "other/my page.qry" "other" "my page.qry" "a:b"
      "a.org/?q=$\x7b\x7d" ["star"] hpath (by decide +kernel)
    rw [hname, hkeyword] at hasks
    exact ⟨hasks, _, rfl, by decide +kernel⟩
  have hentry := create_remove hstore
    ["other/my page.qry", "a:b", "a.org/?q=$\x7b\x7d", "star"]
  have hnone := create_remove hstore ["other/", "a.org"]
  have hfolders := create_remove hstore ["new/", "//", "tools", "new"]
  refine ⟨hstore, hcreates, (hentry.1 _ _ hcreates).2, hnone.2.1 ?_, ?_, ?_⟩
  · rw [← hnone.2.2.1]
    decide +kernel
  · exact (hfolders.2.2.2 (by decide +kernel) (by decide +kernel)).1.trans (by decide +kernel)
  · exact (hfolders.2.2.2 (by decide +kernel) (by decide +kernel)).2

end Action
end StartPage
