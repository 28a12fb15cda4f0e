import StartPage.Proofs.Config
import StartPage.Proofs.Document
import StartPage.Session

/-!
    A backup carries a whole page from one session to another. It is a text, printed on one side and
    parsed on the other, and holds all that a page of well-formed folders is made of.

        page  ──backup──▶  text  ──restore──▶  page -/

namespace StartPage

open Json (Exact)

/-! ### Documents as text -/

namespace Entry

theorem exact_fields (e : Entry) {d : Nat} : ∀ f ∈ e.fields, Exact (d + 1) f.2 := by
  have hrank := writtenRank_bounds e.position
  have hhits := e.hits.toNat_lt
  have hquery : ∀ f ∈ e.queryFields, Exact (d + 1) f.2 := by
    unfold queryFields
    split
    · nofun
    · next keyword rule _ =>
      have hrule : Exact (d + 1) (.arr [.str rule.expression, .str rule.replacement]) :=
        .arr (by simp [Exact.str])
      simp [Exact.str, hrule]
  intro f hf
  rcases List.mem_append.1 hf with hf | hf
  · simp only [List.mem_cons, List.not_mem_nil, or_false] at hf
    rcases hf with rfl | rfl | rfl | rfl | rfl | rfl | rfl | rfl
    · exact .str e.type.name
    · exact .str e.name
    · exact .str e.icon
    · exact .str e.iconClass
    · exact .int (by omega) (by omega)
    · exact .str e.description
    · exact .int hrank.1 (by omega)
    · exact .str e.content
  · exact hquery f hf

theorem exact_toJson (e : Entry) {d : Nat} : Exact (d + 2) e.toJson := .ofFields e.exact_fields

end Entry

namespace Folder

theorem exact_fields (f : Folder) {d : Nat} : ∀ field ∈ f.fields, Exact (d + 3) field.2 := by
  have hrank := writtenRank_bounds f.position
  have hentries : Exact (d + 3) (.arr (f.entries.map Entry.toJson)) := by
    refine .arr fun v hv => ?_
    obtain ⟨e, -, rfl⟩ := List.mem_map.1 hv
    exact e.exact_toJson
  intro field hf
  simp only [fields, List.mem_cons, List.not_mem_nil, or_false] at hf
  rcases hf with rfl | rfl | rfl | rfl | rfl
  · exact .str f.name
  · exact .str f.icon
  · exact .str f.iconClass
  · exact .int hrank.1 (by omega)
  · exact hentries

theorem exact_toJson (f : Folder) {d : Nat} : Exact (d + 4) f.toJson := .ofFields f.exact_fields

end Folder

theorem Store.exact_toJson (s : Store) {d : Nat} : Exact (d + 5) s.toJson := by
  refine .arr fun v hv => ?_
  obtain ⟨f, -, rfl⟩ := List.mem_map.1 hv
  exact f.exact_toJson

theorem Config.exact_toJson (c : Config) {d : Nat} : Exact (d + 1) c.toJson :=
  .ofFields c.exact_fields

/-! ### Backups -/

/-- Folders and settings are in order again after a backup is read. -/
theorem Page.ofBackup_backup {p : Page} (h : p.store.WellFormed) : ofBackup p.backup = .ok p := by
  have hfields : ∀ f ∈ [("folders", p.store.toJson), ("config", p.config.toJson)],
      Exact (Json.maxDepth - 1) f.2 := by
    intro f hf
    rcases List.mem_pair.1 hf with rfl | rfl
    · exact p.store.exact_toJson
    · exact p.config.exact_toJson
  have hexact : Exact Json.maxDepth
      (Json.ofFields [("folders", p.store.toJson), ("config", p.config.toJson)]) :=
    .ofFields hfields
  rw [ofBackup, backup, Json.read?_pretty hexact]
  simp [Json.field?_ofFields, Json.lookup, h.ofJson_toJson, Config.ofJson_toJson]
  rfl

namespace Session

/-- A backup of well-formed folders and any settings is restored in full, whatever the session held
    before and whether or not its files can be written. -/
theorem restore_backup (t : Session) (access : Access) {s : Store} (h : s.WellFormed)
    (c : Config) : t.restore access (Page.backup ⟨s, c⟩) =
      .ok ⟨⟨s, c⟩, t.home.map (·.save access ⟨s, c⟩)⟩ := by
  have hpage : Page.ofBackup (Page.backup ⟨s, c⟩) = .ok ⟨s, c⟩ := Page.ofBackup_backup h
  rw [restore, hpage]
  rfl

/-- A store whose texts must be escaped, with the greatest number of hits. -/
def escapedStore : Store where
  folders :=
    [{ Folder.empty "a \"b\"/\\" with
        position := 1
        entries :=
          [{ Entry.query "鯨\n" "w\t" "x.org/?q=%s&\x7b\x7d" with
              kind := .query "w\t" ⟨"/\\s+/g", "\"\x00\x1f\""⟩
              hits := 18446744073709551615
              description := "größer\r\n\x08\x0c\x7f"
              position := 1
              parent := some "a \"b\"/\\" }] }]

theorem restore_backup_escaped :
    escapedStore.WellFormed ∧
      (ofPage Page.empty).restore .full
          (Page.backup ⟨escapedStore, { Config.initial with background := "\\\"\n" }⟩) =
        .ok ⟨⟨escapedStore, { Config.initial with background := "\\\"\n" }⟩, none⟩ :=
  have h : escapedStore.WellFormed := by decide +kernel
  ⟨h, restore_backup _ _ h _⟩

end Session
end StartPage
