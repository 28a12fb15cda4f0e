import StartPage.Proofs.Hits.Action
import StartPage.Proofs.Removal.Remaining

/-!
    The commands that remove. Each takes what its words aim at away from the store, one word after
    the other, and nothing else; so the order of the words does not matter. A word comes too late if
    there is nothing where it aims, or a word before it aimed there.

        rm sites/a.lnk tools/b.qry sites/a.lnk       File(s) not found: sites/a.lnk
        rmdir tools/ sites                           Deleted folder(s): tools, sites

    The words are looked at in turn, and a word that is too late does not stop those behind it. -/

namespace StartPage.Action

section Late

variable {κ : Type} [DecidableEq κ]

/-- The words that come too late: there is nothing where they aim, or a word before them aims
    there too. -/
def late (there : κ → Bool) (aim : String → κ) (words : List String) : List String :=
  (words.zipIdx.filter fun (word, i) =>
    there (aim word) = false ∨ aim word ∈ (words.take i).map aim).map (·.1)

/-- After the first word there is nothing any more where it aims. -/
theorem late_cons (there : κ → Bool) (aim : String → κ) (word : String) (words : List String) :
    late there aim (word :: words) = (if there (aim word) then [] else [word]) ++
      late (fun k => there k && decide (k ∉ [aim word])) aim words := by
  have hshift : words.zipIdx 1 = words.zipIdx.map fun (w, i) => (w, i + 1) := List.zipIdx_succ
  have hrest : ((words.zipIdx 1).filter fun (w, i) =>
      there (aim w) = false ∨ aim w ∈ ((word :: words).take i).map aim).map (·.1) =
        late (fun k => there k && decide (k ∉ [aim word])) aim words := by
    rw [hshift, List.filter_map, List.map_map, late]
    refine congrArg _ (List.filter_congr fun (w, i) _ => ?_)
    by_cases hw : aim w = aim word
    · simp [hw]
    · simp [hw]
  rw [← hrest, late, List.zipIdx_cons]
  cases hword : there (aim word) with
  | true => simp [hword]
  | false => simp [hword]

/-- No word comes too late if there is something where each of them aims, and no two aim at one
    thing. -/
theorem late_eq_nil_iff {aim : String → κ} {words : List String} {there : κ → Bool} :
    late there aim words = [] ↔ (words.map aim).Nodup ∧ ∀ word ∈ words, there (aim word) = true := by
  induction words generalizing there with
  | nil => simp [late]
  | cons word words ih =>
    rw [late_cons, List.append_eq_nil_iff, ih, List.map_cons, List.nodup_cons, List.forall_mem_cons]
    simp only [Bool.and_eq_true, decide_eq_true_eq, List.mem_singleton, ite_eq_left_iff,
      List.mem_map, not_exists, not_and]
    constructor
    · rintro ⟨hword, hnodup, hothers⟩
      refine ⟨⟨fun w hw => (hothers w hw).2, hnodup⟩, ?_, fun w hw => (hothers w hw).1⟩
      exact not_not.1 fun hnot => by simpa using hword hnot
    · rintro ⟨⟨hnew, hnodup⟩, hword, hothers⟩
      exact ⟨absurd hword, hnodup, fun w hw => ⟨hothers w hw, hnew w hw⟩⟩

end Late

/-! ### Removing one after the other -/

section Removes

variable {κ : Type} [DecidableEq κ]

/-- A word takes away what it aims at, if it is there. What is without a thing does not have it,
    and is the same if it did not have it before. -/
structure Removes (remove? : Store → String → Option Store) (aim : String → κ)
    (there : Store → κ → Bool) (without : Store → List κ → Store) : Prop where
  one : ∀ {s : Store}, s.WellFormed → ∀ word,
    remove? s word = if there s (aim word) then some (without s [aim word]) else none
  wellFormed : ∀ {s : Store}, s.WellFormed → ∀ gone, (without s gone).WellFormed
  left : ∀ s gone k, there (without s gone) k = (there s k && decide (k ∉ gone))
  append : ∀ s gone gone', without (without s gone) gone' = without s (gone ++ gone')
  idle : ∀ {s : Store}, s.WellFormed → ∀ {gone}, (∀ k ∈ gone, there s k = false) →
    without s gone = s

theorem missing_removeAll_cons (remove? : Store → String → Option Store) (s : Store)
    (word : String) (words : List String) : (removeAll remove? s (word :: words)).2.missing =
      (if (remove? s word).isSome then [] else [word]) ++
        (removeAll remove? ((remove? s word).getD s) words).2.missing := by
  rw [removeAll]
  cases remove? s word with
  | none => rfl
  | some s' => rfl

/-- Where no word is missing, all of them removed something. -/
theorem removed_removeAll {remove? : Store → String → Option Store} {words : List String}
    {s : Store} (h : (removeAll remove? s words).2.missing = []) :
    (removeAll remove? s words).2.removed = words := by
  induction words generalizing s with
  | nil => rfl
  | cons word words ih =>
    unfold removeAll at h ⊢
    cases hremove : remove? s word with
    | none => simp [hremove] at h
    | some s' =>
      rw [hremove] at h
      exact congrArg _ (ih h)

variable {remove? : Store → String → Option Store} {aim : String → κ}
  {there : Store → κ → Bool} {without : Store → List κ → Store}

theorem Removes.getD (h : Removes remove? aim there without) {s : Store} (hs : s.WellFormed)
    (word : String) : (remove? s word).getD s = without s [aim word] := by
  rw [h.one hs]
  cases hword : there s (aim word) with
  | true => rfl
  | false => exact (h.idle hs (by simpa using hword)).symm

/-- One after the other, words take away all that they aim at. -/
theorem Removes.removeAll (h : Removes remove? aim there without) {s : Store} (hs : s.WellFormed)
    (words : List String) : (removeAll remove? s words).1 = without s (words.map aim) ∧
      (removeAll remove? s words).2.missing = late (there s) aim words := by
  induction words generalizing s with
  | nil => exact ⟨(h.idle hs (by simp)).symm, rfl⟩
  | cons word words ih =>
    obtain ⟨hstore, hmissing⟩ := ih (h.wellFormed hs [aim word])
    have hleft : there (without s [aim word]) = fun k => there s k && decide (k ∉ [aim word]) :=
      funext (h.left s [aim word])
    have hone : (remove? s word).isSome = there s (aim word) := by
      rw [h.one hs]
      split
      · next hword => exact hword.symm
      · next hword => simpa using hword
    refine ⟨?_, ?_⟩
    · rw [removeAll_cons, h.getD hs, hstore, h.append]
      rfl
    · rw [missing_removeAll_cons, h.getD hs, hmissing, hleft, late_cons, hone]

end Removes

/-! ### Entries and folders -/

/-- An entry that is taken out of its folder is gone from the store. -/
theorem setFolder_eq_withoutEntries {s : Store} {path : Path} {f : Folder} {name : String}
    (h : s.WellFormed) (hf : s.folder? path.folder = some f) (hname : path.entry? = some name) :
    s.setFolder path.folder (f.renumber (f.entries.eraseP (·.name == name))) =
      s.withoutEntries [path] := by
  obtain ⟨folder, entry⟩ := path
  obtain rfl : entry = some name := hname
  obtain ⟨hmem, rfl⟩ := Store.folder?_eq_some hf
  refine h.setFolder_eq_map hf ?_ fun g hg hother => (h.folders g hg).keep_all fun e _ => ?_
  · rw [Sequence.eraseP_eq_filter (h.folders f hmem).names, ← Folder.keep_eq]
    exact Folder.keep_congr fun e _ => Bool.eq_iff_iff.2 (by simp)
  · simp [hother]

theorem removes_entries : Removes removeEntry? Path.ofText Store.hasEntry Store.withoutEntries where
  one := by
    intro s hs text
    cases hentry : s.entryAt? (Path.ofText text) with
    | none => rw [removeEntry?_eq_none hentry, if_neg (by simp [Store.hasEntry, hentry])]
    | some e =>
      obtain ⟨f, name, hf, hname, he⟩ := Store.entryAt?_eq_some.1 hentry
      rw [if_pos (by simp [Store.hasEntry, hentry]), removeEntry?_eq rfl, hname, hf,
        Option.bind_some, Option.bind_some, Folder.take?_of_entry? he, Option.bind_some,
        setFolder_eq_withoutEntries hs hf hname]
  wellFormed hs gone := hs.withoutEntries gone
  left := Store.hasEntry_withoutEntries
  append := Store.withoutEntries_append
  idle hs _ none := hs.withoutEntries_of_not none

theorem removes_folders :
    Removes Store.removeFolder? id Store.hasFolder Store.withoutFolders where
  one := by
    intro s hs name
    have hany : s.folders.any (·.name == name) = s.hasFolder name := by
      rw [Bool.eq_iff_iff, Store.isSome_folder?]
      simp
    have hothers : s.folders.filter (·.name != name) = s.folders.filter (·.name ∉ [name]) :=
      List.filter_congr fun f _ => Bool.eq_iff_iff.2 (by simp)
    rw [Store.removeFolder?, hany, hothers, id_eq, Store.withoutFolders_eq]
  wellFormed hs gone := hs.withoutFolders gone
  left := Store.hasFolder_withoutFolders
  append := Store.withoutFolders_append
  idle hs _ none := hs.withoutFolders_of_not none

/-! ### Commands -/

/-- What a command that removes says: that it was given no words, or that it removed something for
    all of them, or for which of them it came too late. -/
def removalAnswer (blank praise complaint : String) (words late : List String) : Response :=
  if words = [] then .error blank
  else if late = [] then .success (praise ++ ", ".intercalate words)
  else .error (complaint ++ ", ".intercalate late)

section Answers

variable {κ : Type} [DecidableEq κ] {remove? : Store → String → Option Store} {aim : String → κ}
  {there : Store → κ → Bool} {without : Store → List κ → Store}

theorem Removes.answer (h : Removes remove? aim there without) {s : Store} (hs : s.WellFormed)
    (blank praise complaint : String) (words : List String) :
    (if words.isEmpty then (s, .error blank)
      else
        let (s', r) := StartPage.Action.removeAll remove? s words
        if r.missing.isEmpty then (s', .success (praise ++ ", ".intercalate r.removed))
        else (s', .error (complaint ++ ", ".intercalate r.missing))) =
      (without s (words.map aim),
        removalAnswer blank praise complaint words (late (there s) aim words)) := by
  obtain ⟨hstore, hmissing⟩ := h.removeAll hs words
  cases words with
  | nil =>
    simp [removalAnswer, h.idle hs]
  | cons word words =>
    rw [if_neg (by simp), removalAnswer, if_neg (by simp)]
    dsimp only
    rw [hstore]
    split
    · next hnone =>
      have hnone := List.isEmpty_iff.1 hnone
      rw [removed_removeAll hnone, if_pos (hmissing ▸ hnone)]
    · next hsome =>
      rw [hmissing] at hsome ⊢
      rw [if_neg (by simpa using hsome)]

theorem kind_removalAnswer {blank praise complaint : String} {words late : List String} :
    (removalAnswer blank praise complaint words late).kind =
      if words ≠ [] ∧ late = [] then .success else .error := by
  unfold removalAnswer
  by_cases hwords : words = []
  · simp [hwords, Response.error]
  · by_cases hlate : late = []
    · simp [hwords, hlate, Response.success]
    · simp [hwords, hlate, Response.error]

end Answers

theorem removeEntries_eq {s : Store} (h : s.WellFormed) (words : List String) :
    removeEntries words s = (s.withoutEntries (words.map Path.ofText),
      removalAnswer "No file given" "Deleted file(s): " "File(s) not found: " words
        (late s.hasEntry Path.ofText words)) :=
  removes_entries.answer h _ _ _ words

theorem removeFolders_eq {s : Store} (h : s.WellFormed) (words : List String) :
    removeFolders words s = (s.withoutFolders (words.map (Text.without '/')),
      removalAnswer "No folder name given" "Deleted folder(s): " "Folder(s) not found: "
        (words.map (Text.without '/')) (late s.hasFolder id (words.map (Text.without '/')))) := by
  have hanswer := removes_folders.answer h "No folder name given" "Deleted folder(s): "
    "Folder(s) not found: " (words.map (Text.without '/'))
  rw [List.map_id, List.isEmpty_map] at hanswer
  exact hanswer

/-- What a command that removes makes of its words, which it reads as texts: all that the texts aim
    at is gone. -/
structure Subtracts {κ : Type} [DecidableEq κ] (act : List String → Store → Store × Response)
    (aim : String → κ) (there : Store → κ → Bool) (without : Store → List κ → Store)
    (complaint : String) (s : Store) (words texts : List String) : Prop where
  store : (act words s).1 = without s (texts.map aim)
  success : (act words s).2.kind = .success ↔
    texts ≠ [] ∧ (texts.map aim).Nodup ∧ ∀ text ∈ texts, there s (aim text) = true
  error : (act words s).2.kind ≠ .success → (act words s).2.kind = .error ∧
    (texts ≠ [] → (act words s).2.message =
      complaint ++ ", ".intercalate (late (there s) aim texts))
  anyOrder : ∀ words', words'.Perm words →
    (act words' s).1 = (act words s).1 ∧ (act words' s).2.kind = (act words s).2.kind

section

variable {κ : Type} [DecidableEq κ] {act : List String → Store → Store × Response}
  {aim : String → κ} {there : Store → κ → Bool} {without : Store → List κ → Store}
  {blank praise complaint : String} {read : String → String} {s : Store}

theorem subtracts_of_eq
    (congr : ∀ gone gone', gone.Perm gone' → without s gone = without s gone')
    (h : ∀ words, act words s = (without s ((words.map read).map aim),
      removalAnswer blank praise complaint (words.map read)
        (late (there s) aim (words.map read)))) (words : List String) :
    Subtracts act aim there without complaint s words (words.map read) where
  store := by rw [h]
  success := by
    rw [h, kind_removalAnswer, ← late_eq_nil_iff]
    simp
  error := by
    rw [h]
    dsimp only
    rw [kind_removalAnswer]
    intro hkind
    have hnot : ¬ (words.map read ≠ [] ∧ late (there s) aim (words.map read) = []) := by
      simpa using hkind
    refine ⟨if_neg hnot, fun hwords => ?_⟩
    rw [removalAnswer, if_neg hwords, if_neg fun hlate => hnot ⟨hwords, hlate⟩]
    rfl
  anyOrder := by
    intro words' hperm
    have htexts : (words'.map read).Perm (words.map read) := hperm.map read
    have hkeys : ((words'.map read).map aim).Perm ((words.map read).map aim) := htexts.map aim
    have hgood : (words'.map read ≠ [] ∧ late (there s) aim (words'.map read) = []) ↔
        (words.map read ≠ [] ∧ late (there s) aim (words.map read) = []) := by
      rw [late_eq_nil_iff, late_eq_nil_iff, hkeys.nodup_iff, ← List.length_pos_iff,
        htexts.length_eq, List.length_pos_iff]
      simp only [htexts.mem_iff]
    rw [h, h]
    exact ⟨congr _ _ hkeys, by simp only [kind_removalAnswer, hgood]⟩

end

/-- The commands that remove take away what their words aim at: one takes the entries to which the
    words lead as paths, the other the folders that have the words, without slashes, for names. -/
theorem remove_subtracts {s : Store} (h : s.WellFormed) (words : List String) :
    Subtracts removeEntries Path.ofText Store.hasEntry Store.withoutEntries "File(s) not found: "
        s words words ∧
      Subtracts removeFolders id Store.hasFolder Store.withoutFolders "Folder(s) not found: "
        s words (words.map (Text.without '/')) := by
  have hentries : Subtracts removeEntries Path.ofText Store.hasEntry Store.withoutEntries
      "File(s) not found: " s words (words.map id) :=
    subtracts_of_eq (fun _ _ hperm => Store.withoutEntries_congr fun _ => hperm.mem_iff)
      (by simpa using removeEntries_eq h) words
  rw [List.map_id] at hentries
  exact ⟨hentries, subtracts_of_eq
    (fun _ _ hperm => Store.withoutFolders_congr fun _ => hperm.mem_iff)
    (by simpa using removeFolders_eq h) words⟩

/-- Paths of which one comes twice, one leads to a folder, and one leads nowhere. -/
def crookedPaths : List String :=
  ["sites/b.lnk", "sites/b.lnk", "sites/", "other/x", "other/d.qry"]

theorem remove_subtracts_crooked :
    twoFolders.WellFormed ∧
      (removeEntries crookedPaths twoFolders).1 =
        ⟨[{ Folder.empty "sites" with
            position := 1
            entries :=
              [{ Entry.link "a" "a.org" with hits := 3, position := 1, parent := some "sites" }] },
          { Folder.empty "other" with position := 2 }]⟩ ∧
      (removeEntries crookedPaths twoFolders).2.message =
        "File(s) not found: sites/b.lnk, sites/, other/x" ∧
      (removeEntries crookedPaths.reverse twoFolders).1 =
        (removeEntries crookedPaths twoFolders).1 ∧
      (removeFolders ["/other", "sites//"] twoFolders).1 = Store.empty ∧
      (removeFolders ["/other", "sites//"] twoFolders).2.kind = .success := by
  have hstore : twoFolders.WellFormed := by decide +kernel
  have hentries := (remove_subtracts hstore crookedPaths).1
  have hfolders := (remove_subtracts hstore ["/other", "sites//"]).2
  have hkind : (removeEntries crookedPaths twoFolders).2.kind ≠ .success := by decide +kernel
  refine ⟨hstore, ?_, ?_, ?_, ?_, ?_⟩
  · rw [hentries.store]
    decide +kernel
  · rw [(hentries.error hkind).2 (by decide)]
    decide +kernel
  · exact (hentries.anyOrder _ (List.reverse_perm _)).1
  · rw [hfolders.store]
    decide +kernel
  · rw [hfolders.success]
    decide +kernel

end StartPage.Action
