import Mathlib.Data.List.Sort
import StartPage.Store.Document

/-!
    Records in the order of their ranks, and the first of every name.

        rank   3 –  1 3 2    records   a b a c b
        in order   1 2 3 3 –           a b a c b   ──▶   a b c    first of every name

    Sorting keeps records of one rank in their order. That leaves one way to sort them, so that it is
    enough to look at which records of one rank there are, and in which order. -/

namespace StartPage

/-! ### Sorting by ranks -/

variable {α β : Type} {rank : α → Int} {records ranked ranked' : List α} {a b : α}

/-- The records in the order of their ranks. Those of one rank are in the order in which they came. -/
structure IsRanked (rank : α → Int) (records ranked : List α) : Prop where
  ascending : ranked.Pairwise fun a b => rankKey (rank a) ≤ rankKey (rank b)
  stable : ∀ k, ranked.filter (fun c => rankKey (rank c) = k) =
    records.filter (fun c => rankKey (rank c) = k)

theorem IsRanked.mem_iff (h : IsRanked rank records ranked) : a ∈ ranked ↔ a ∈ records := by
  have hfilter := h.stable (rankKey (rank a))
  constructor
  · intro ha
    have hmem : a ∈ ranked.filter (fun c => rankKey (rank c) = rankKey (rank a)) := by simp [ha]
    rw [hfilter] at hmem
    exact (List.mem_filter.1 hmem).1
  · intro ha
    have hmem : a ∈ records.filter (fun c => rankKey (rank c) = rankKey (rank a)) := by simp [ha]
    rw [← hfilter] at hmem
    exact (List.mem_filter.1 hmem).1

theorem IsRanked.tail (h : IsRanked rank (a :: records) (a :: ranked)) :
    IsRanked rank records ranked := by
  refine ⟨(List.pairwise_cons.1 h.ascending).2, fun k => ?_⟩
  have hfilter := h.stable k
  by_cases hk : rankKey (rank a) = k
  · simpa [hk] using hfilter
  · simpa [hk] using hfilter

/-- Of the first records of two rankings neither ranks before the other. -/
theorem IsRanked.head_le (h : IsRanked rank records (a :: ranked))
    (h' : IsRanked rank records (b :: ranked')) : rankKey (rank a) ≤ rankKey (rank b) := by
  have hb : b ∈ a :: ranked := h.mem_iff.2 (h'.mem_iff.1 List.mem_cons_self)
  rcases List.mem_cons.1 hb with rfl | hb
  · exact Int.le_refl _
  · exact (List.pairwise_cons.1 h.ascending).1 b hb

/-- There is one way to put records into the order of their ranks. -/
theorem IsRanked.unique (h : IsRanked rank records ranked) (h' : IsRanked rank records ranked') :
    ranked = ranked' := by
  induction ranked generalizing records ranked' with
  | nil =>
    cases ranked' with
    | nil => rfl
    | cons b r' =>
      have hb : b ∈ ([] : List α) := h.mem_iff.2 (h'.mem_iff.1 List.mem_cons_self)
      cases hb
  | cons a r ih =>
    cases ranked' with
    | nil =>
      have ha : a ∈ ([] : List α) := h'.mem_iff.2 (h.mem_iff.1 List.mem_cons_self)
      cases ha
    | cons b r' =>
      have hkey : rankKey (rank b) = rankKey (rank a) :=
        Int.le_antisymm (h'.head_le h) (h.head_le h')
      -- both come first among the records of their rank
      have hfirst := (h.stable (rankKey (rank a))).trans (h'.stable (rankKey (rank a))).symm
      rw [List.filter_cons_of_pos (by simp), List.filter_cons_of_pos (by simp [hkey])] at hfirst
      obtain ⟨rfl, -⟩ := List.cons.inj hfirst
      have hself : IsRanked rank (a :: r) (a :: r) := ⟨h.ascending, fun _ => rfl⟩
      have hother : IsRanked rank (a :: r) (a :: r') :=
        ⟨h'.ascending, fun k => (h'.stable k).trans (h.stable k).symm⟩
      rw [ih hself.tail hother.tail]

theorem isRanked_sortByRank (rank : α → Int) (records : List α) :
    IsRanked rank records (sortByRank rank records) := by
  have htrans : ∀ a b c : α, decide (rankKey (rank a) ≤ rankKey (rank b)) = true →
      decide (rankKey (rank b) ≤ rankKey (rank c)) = true →
      decide (rankKey (rank a) ≤ rankKey (rank c)) = true := by
    intro a b c hab hbc
    simp only [decide_eq_true_eq] at hab hbc ⊢
    exact Int.le_trans hab hbc
  have htotal : ∀ a b : α, (decide (rankKey (rank a) ≤ rankKey (rank b)) ||
      decide (rankKey (rank b) ≤ rankKey (rank a))) = true := by
    intro a b
    simp only [Bool.or_eq_true, decide_eq_true_eq]
    exact Int.le_total _ _
  constructor
  · simpa [sortByRank] using List.pairwise_mergeSort htrans htotal records
  · intro k
    -- records of one rank are in order already, so sorting leaves them as they stand
    have hordered : (records.filter (fun c => rankKey (rank c) = k)).Pairwise
        fun a b => decide (rankKey (rank a) ≤ rankKey (rank b)) = true := by
      refine List.pairwise_of_forall_mem_list fun a ha b hb => ?_
      have hak := (List.mem_filter.1 ha).2
      have hbk := (List.mem_filter.1 hb).2
      simp only [decide_eq_true_eq] at hak hbk ⊢
      omega
    have hsub := (List.sublist_mergeSort htrans htotal hordered List.filter_sublist).filter
      (fun c => rankKey (rank c) = k)
    rw [List.filter_filter] at hsub
    simp only [Bool.and_self] at hsub
    have hlength : (records.filter (fun c => rankKey (rank c) = k)).length =
        ((sortByRank rank records).filter (fun c => rankKey (rank c) = k)).length :=
      ((List.mergeSort_perm records _).symm.filter _).length_eq
    exact (hsub.eq_of_length hlength).symm

/-- Sorting puts records into the order of their ranks, and nothing else does. -/
theorem isRanked_iff : IsRanked rank records ranked ↔ ranked = sortByRank rank records := by
  constructor
  · intro h
    exact h.unique (isRanked_sortByRank rank records)
  · rintro rfl
    exact isRanked_sortByRank rank records

/-- Neighbours of different ranks may change places. -/
theorem sortByRank_swap (before : List α) {after : List α}
    (h : rankKey (rank a) ≠ rankKey (rank b)) :
    sortByRank rank (before ++ a :: b :: after) = sortByRank rank (before ++ b :: a :: after) := by
  obtain ⟨ascending, stable⟩ := isRanked_sortByRank rank (before ++ a :: b :: after)
  refine isRanked_iff.1 ⟨ascending, fun k => (stable k).trans ?_⟩
  rw [List.filter_append, List.filter_append]
  by_cases ha : rankKey (rank a) = k
  · have hb : rankKey (rank b) ≠ k := fun hb => h (ha.trans hb.symm)
    simp [ha, hb]
  · simp [List.filter_cons, ha]

theorem mem_sortByRank : a ∈ sortByRank rank records ↔ a ∈ records :=
  (isRanked_sortByRank rank records).mem_iff

/-- Two records of one rank stand in order after sorting only if they did before. -/
theorem IsRanked.pair_sublist (h : IsRanked rank records ranked) (hab : [a, b].Sublist ranked)
    (hkey : rankKey (rank a) = rankKey (rank b)) : [a, b].Sublist records := by
  have hsub := hab.filter (fun c => rankKey (rank c) = rankKey (rank b))
  rw [h.stable] at hsub
  simp only [hkey, decide_true, List.filter_cons_of_pos, List.filter_nil] at hsub
  exact hsub.trans List.filter_sublist

namespace Sequence

variable [DecidableEq β] {key : α → β} {items : List α}

/-- Of the items with one key the first. -/
def firsts (key : α → β) : List α → List α
  | [] => []
  | a :: r => a :: (firsts key r).filter (key · ≠ key a)

theorem firsts_sublist (key : α → β) : ∀ items : List α, (firsts key items).Sublist items
  | [] => .slnil
  | a :: r => (List.filter_sublist.trans (firsts_sublist key r)).cons_cons a

/-- An item at the end is one of the first if no item before it has its key. -/
theorem firsts_concat (items : List α) (a : α) : firsts key (items ++ [a]) =
    if ∃ b ∈ firsts key items, key b = key a then firsts key items
    else firsts key items ++ [a] := by
  induction items with
  | nil => simp [firsts]
  | cons c r ih =>
    rw [List.cons_append, firsts, ih, firsts]
    by_cases hc : key c = key a
    · have hany : ∃ b ∈ c :: (firsts key r).filter (key · ≠ key c), key b = key a :=
        ⟨c, List.mem_cons_self, hc⟩
      rw [if_pos hany]
      split
      · rfl
      · simp [hc]
    · have hany : (∃ b ∈ c :: (firsts key r).filter (key · ≠ key c), key b = key a) ↔
          ∃ b ∈ firsts key r, key b = key a := by
        constructor
        · rintro ⟨b, hb, hkey⟩
          rcases List.mem_cons.1 hb with rfl | hb
          · exact absurd hkey hc
          · exact ⟨b, (List.mem_filter.1 hb).1, hkey⟩
        · rintro ⟨b, hb, hkey⟩
          refine ⟨b, List.mem_cons_of_mem c (List.mem_filter.2 ⟨hb, ?_⟩), hkey⟩
          simp [hkey, Ne.symm hc]
      simp only [hany]
      split
      · rfl
      · simp [Ne.symm hc]

theorem firsts_map {γ : Type} (key : α → β) (f : γ → α) :
    ∀ items : List γ, firsts key (items.map f) = (firsts (fun c => key (f c)) items).map f
  | [] => rfl
  | c :: r => by
    rw [List.map_cons, firsts, firsts_map key f r, firsts, List.map_cons, List.filter_map]
    rfl

end Sequence
end StartPage
