import StartPage.Json.Basic

/-!
    Objects made from fields in any order. The fields come into the order of their keys, and of two
    fields with one key the later counts.

        b: 1, a: 2, b: 3   ──▶   a: 2, b: 3 -/

namespace StartPage.Json

/-- Adds fields one after the other. -/
def insertFields (acc fields : List (String × Json)) : List (String × Json) :=
  fields.foldl (fun acc f => insertField f.1 f.2 acc) acc

theorem ofFields_eq (fields : List (String × Json)) :
    ofFields fields = .obj (insertFields [] fields) := rfl

/-- A field with the greatest key goes to the end. -/
theorem insertField_of_lt {k : String} (v : Json) : ∀ {fields : List (String × Json)},
    (∀ f ∈ fields, f.1 < k) → insertField k v fields = fields ++ [(k, v)]
  | [], _ => rfl
  | (k', v') :: r, h => by
    have hk : k' < k := h (k', v') List.mem_cons_self
    have hr := insertField_of_lt v fun f hf => h f (List.mem_cons_of_mem _ hf)
    have hne : k ≠ k' := by
      rintro rfl
      exact String.lt_irrefl k hk
    rw [insertField, if_neg (String.lt_asymm hk), if_neg hne, hr, List.cons_append]

theorem insertFields_of_ascending : ∀ {fields acc : List (String × Json)},
    (acc ++ fields).Pairwise (·.1 < ·.1) → insertFields acc fields = acc ++ fields
  | [], acc, _ => (List.append_nil acc).symm
  | f :: r, acc, h => by
    have hlast : ∀ g ∈ acc, g.1 < f.1 := fun g hg =>
      (List.pairwise_append.1 h).2.2 g hg f List.mem_cons_self
    have hr : insertFields (acc ++ [f]) r = acc ++ [f] ++ r :=
      insertFields_of_ascending (by simpa using h)
    rw [insertFields, List.foldl_cons, insertField_of_lt f.2 hlast]
    exact hr.trans (by simp)

/-- An object with its keys in order is the one with the same fields in order. -/
theorem ofFields_of_ascending {fields : List (String × Json)}
    (h : fields.Pairwise (·.1 < ·.1)) : ofFields fields = .obj fields := by
  rw [ofFields_eq, insertFields_of_ascending (by simpa using h), List.nil_append]

theorem mem_insertField {k : String} {v : Json} {f : String × Json} :
    ∀ {fields : List (String × Json)}, f ∈ insertField k v fields → f = (k, v) ∨ f ∈ fields
  | [], h => by
    rw [insertField, List.mem_singleton] at h
    exact .inl h
  | (k', v') :: r, h => by
    unfold insertField at h
    split at h
    · exact List.mem_cons.1 h
    split at h
    · exact (List.mem_cons.1 h).imp_right (List.mem_cons_of_mem _)
    · rcases List.mem_cons.1 h with rfl | h
      · exact .inr List.mem_cons_self
      · exact (mem_insertField h).imp_right (List.mem_cons_of_mem _)

theorem insertField_ascending (k : String) (v : Json) : ∀ {fields : List (String × Json)},
    fields.Pairwise (·.1 < ·.1) → (insertField k v fields).Pairwise (·.1 < ·.1)
  | [], _ => List.pairwise_singleton ..
  | (k', v') :: r, h => by
    obtain ⟨hk', hr⟩ := List.pairwise_cons.1 h
    unfold insertField
    split
    · next hlt =>
      refine List.pairwise_cons.2 ⟨fun f hf => ?_, h⟩
      rcases List.mem_cons.1 hf with rfl | hf
      · exact hlt
      · exact String.lt_trans hlt (hk' f hf)
    split
    · next heq =>
      subst heq
      exact List.pairwise_cons.2 ⟨hk', hr⟩
    · next hlt hne =>
      refine List.pairwise_cons.2 ⟨fun f hf => ?_, insertField_ascending k v hr⟩
      rcases mem_insertField hf with rfl | hf
      · refine Decidable.byContradiction fun hle => hne ?_
        exact String.le_antisymm (String.not_lt.1 hle) (String.not_lt.1 hlt)
      · exact hk' f hf

theorem insertFields_ascending : ∀ (fields : List (String × Json)) {acc : List (String × Json)},
    acc.Pairwise (·.1 < ·.1) → (insertFields acc fields).Pairwise (·.1 < ·.1)
  | [], _, h => h
  | f :: r, _, h => insertFields_ascending r (insertField_ascending f.1 f.2 h)

theorem mem_insertFields {f : String × Json} : ∀ (fields : List (String × Json))
    {acc : List (String × Json)}, f ∈ insertFields acc fields → f ∈ acc ∨ f ∈ fields
  | [], _, h => .inl h
  | g :: r, acc, h => by
    rcases mem_insertFields r h with h | h
    · rcases mem_insertField h with rfl | h
      · exact .inr List.mem_cons_self
      · exact .inl h
    · exact .inr (List.mem_cons_of_mem g h)

/-! ### Looking up -/

theorem lookup_insertField (k k' : String) (v : Json) (fields : List (String × Json)) :
    lookup k' (insertField k v fields) = if k = k' then some v else lookup k' fields := by
  split
  · next h => rw [← h, lookup_insertField_self]
  · next h => rw [lookup_insertField_of_ne h]

theorem lookup_append (k : String) (fields : List (String × Json)) :
    ∀ first, lookup k (first ++ fields) = (lookup k first).or (lookup k fields)
  | [] => rfl
  | (k', v) :: r => by
    rw [List.cons_append, lookup, lookup]
    split
    · rfl
    · exact lookup_append k fields r

/-- Fields are looked up from the last one on. -/
theorem lookup_insertFields (k : String) : ∀ (fields acc : List (String × Json)),
    lookup k (insertFields acc fields) = (lookup k fields.reverse).or (lookup k acc)
  | [], _ => rfl
  | f :: r, acc => by
    have hr := lookup_insertFields k r (insertField f.1 f.2 acc)
    rw [insertFields, List.foldl_cons]
    refine hr.trans ?_
    rw [lookup_insertField, List.reverse_cons, lookup_append, lookup, lookup, Option.or_assoc]
    split
    · rfl
    · rfl

end StartPage.Json
