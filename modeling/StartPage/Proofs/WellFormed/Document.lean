import StartPage.Proofs.WellFormed.Store
import StartPage.Store.Document

/-!
    Every store that is read from a document is well-formed, however the document was written:
    records that clash are left out, names and keywords are brought under the rules, and numbers and
    parents are given anew. -/

namespace StartPage

theorem Entry.IsRegular.adorn {e : Entry} (h : e.IsRegular) (icon iconClass : String)
    (hits : UInt64) (description : String) :
    IsRegular { e with
      icon := icon, iconClass := iconClass, hits := hits, description := description } :=
  h.congr rfl rfl

theorem Entry.isRegular_ofRecord (r : EntryRecord) : (Entry.ofRecord r).IsRegular := by
  unfold Entry.ofRecord
  split
  · exact (isRegular_link r.name r.content).adorn _ _ _ _
  · next keyword rule _ =>
    have hquery := isRegular_query r.name keyword r.content
    exact ((staysPut_setRule _ rule).regular hquery).adorn _ _ _ _

theorem Folder.wellFormed_ofRecord (r : FolderRecord) : (Folder.ofRecord r).WellFormed := by
  unfold Folder.ofRecord
  refine WellFormed.addAll ⟨⟨List.nodup_nil, rfl, nofun⟩, nofun⟩ fun e he => ?_
  obtain ⟨record, -, rfl⟩ := List.mem_map.1 he
  exact Entry.isRegular_ofRecord record

namespace Store

theorem wellFormed_ofRecords (records : List FolderRecord) : (ofRecords records).WellFormed := by
  refine wellFormed_empty.insertAll fun f hf => ?_
  obtain ⟨record, -, rfl⟩ := List.mem_map.1 hf
  exact Folder.wellFormed_ofRecord record

theorem wellFormed_of_ofJson {v : Json} {s : Store} (h : ofJson v = .ok s) : s.WellFormed := by
  unfold ofJson at h
  split at h
  · next records _ =>
    cases h
    exact wellFormed_ofRecords records
  · cases h

end Store
end StartPage
