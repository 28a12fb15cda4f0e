import StartPage.Proofs.Pattern.Emit

/-!
    Running a program finds a match where there is one, and what it finds is one. Settling goes through
    the instructions that take no character depth first and marks those it was at; no way is lost by
    passing over a mark, since all that can be reached from there is waiting already or still to
    come. Threads that an accepting one cuts off are not needed, for then there is a match. -/

namespace StartPage.Pattern

variable {code : Array Instr} {text passed rest : List Char} {here : Place} {seen : Array Bool}
  {ts done : List Thread} {t : Thread} {best : Option Hit} {h : Hit} {p : Pattern}
  {at' fuel i j k n : Nat}

/-! ### Going on without a character -/

/-- Where an instruction goes on to without taking a character. -/
def onward (code : Array Instr) (here : Place) (at' : Nat) : List Nat :=
  match code[at']? with
  | some (.check a next) => if a.holds here.before here.after then [next] else []
  | some (.save _ next) => [next]
  | some (.fork a b) => [a, b]
  | _ => []

/-- An instruction that takes a character or accepts. -/
def waits (code : Array Instr) (at' : Nat) : Bool :=
  match code[at']? with
  | some .accept | some (.one _ _) => true
  | _ => false

theorem leads_of_onward (hk : k ∈ onward code (placeAt text i) at')
    (hl : Leads code text n k i j) : Leads code text (n + 1) at' i j := by
  unfold onward at hk
  split at hk
  · next a next hcode =>
    split at hk
    · next ha =>
      rw [List.mem_singleton.1 hk] at hl
      exact .check hcode ha hl
    · cases hk
  · next hcode =>
    rw [List.mem_singleton.1 hk] at hl
    exact .save hcode hl
  · next a b hcode =>
    rcases List.mem_cons.1 hk with rfl | hk
    · exact .first hcode hl
    · rw [List.mem_singleton.1 hk] at hl
      exact .second hcode hl
  · cases hk

/-- A way starts at an instruction that waits, or goes onward from it. -/
theorem Leads.waits_or_onward (hl : Leads code text n at' i j) :
    waits code at' = true ∨
      ∃ m, n = m + 1 ∧ ∃ k ∈ onward code (placeAt text i) at', Leads code text m k i j := by
  cases hl with
  | accept hcode => exact .inl (by rw [waits, hcode])
  | one hcode => exact .inl (by rw [waits, hcode])
  | @check m _ next _ _ a hcode ha hrest =>
    exact .inr ⟨m, rfl, next, by rw [onward, hcode]; simp [ha], hrest⟩
  | @save m _ _ next _ _ hcode hrest => exact .inr ⟨m, rfl, next, by simp [onward, hcode], hrest⟩
  | @first m _ a _ _ _ hcode hrest => exact .inr ⟨m, rfl, a, by simp [onward, hcode], hrest⟩
  | @second m _ _ b _ _ hcode hrest => exact .inr ⟨m, rfl, b, by simp [onward, hcode], hrest⟩

/-! ### Settling -/

/-- An instruction is marked; a place outside the program counts as marked. -/
def IsSeen (seen : Array Bool) (at' : Nat) : Prop := seen.getD at' true = true

/-- What is marked waits among the threads that are done, or goes on to what is marked or to come. -/
structure Settling (code : Array Instr) (here : Place) (ts : List Thread) (seen : Array Bool)
    (done : List Thread) : Prop where
  size : seen.size = code.size
  waiting : ∀ k, IsSeen seen k → waits code k = true → ∃ t ∈ done, t.at' = k
  closed : ∀ k, IsSeen seen k → ∀ k' ∈ onward code here k, IsSeen seen k' ∨ ∃ t ∈ ts, t.at' = k'

theorem lt_of_not_isSeen (hseen : ¬ IsSeen seen at') : at' < seen.size := by
  refine Nat.lt_of_not_le fun hle => hseen ?_
  rw [IsSeen, Array.getD_eq_getD_getElem?, Array.getElem?_eq_none hle, Option.getD_none]

theorem isSeen_mark (hlt : at' < seen.size) :
    IsSeen (seen.setIfInBounds at' true) k ↔ k = at' ∨ IsSeen seen k := by
  simp only [IsSeen, Array.getD_eq_getD_getElem?]
  by_cases hk : k = at'
  · simp [hk, hlt]
  · rw [Array.getElem?_setIfInBounds_ne (Ne.symm hk)]
    simp [hk]

theorem count_mark (hseen : ¬ IsSeen seen at') :
    (seen.setIfInBounds at' true).count false + 1 = seen.count false := by
  have hlt := lt_of_not_isSeen hseen
  have hfalse : seen[at'] = false := by
    simpa [IsSeen, Array.getD_eq_getD_getElem?, hlt] using hseen
  have hmem : false ∈ seen := by
    rw [← hfalse]
    exact Array.getElem_mem hlt
  have hpos : 0 < seen.count false := Array.count_pos_iff.2 hmem
  rw [Array.setIfInBounds, dif_pos hlt, Array.count_set hlt, hfalse]
  simp
  omega

theorem settleFrom_seen (hseen : IsSeen seen t.at') :
    settleFrom code here (fuel + 1) (t :: ts) seen done = settleFrom code here fuel ts seen done := by
  rw [settleFrom]
  exact if_pos hseen

/-- A thread at a place that is not marked makes way for those that go on from it. -/
theorem settleFrom_unseen (here : Place) (fuel : Nat) (ts done : List Thread)
    (hsize : seen.size = code.size) (hseen : ¬ IsSeen seen t.at') :
    ∃ new : List Thread, new.map Thread.at' = onward code here t.at' ∧
      settleFrom code here (fuel + 1) (t :: ts) seen done =
        settleFrom code here fuel (new ++ ts) (seen.setIfInBounds t.at' true)
          (if waits code t.at' then t :: done else done) := by
  have hlt : t.at' < code.size := hsize ▸ lt_of_not_isSeen hseen
  obtain ⟨x, hx⟩ : ∃ x, code[t.at']? = some x := ⟨_, Array.getElem?_eq_getElem hlt⟩
  unfold IsSeen at hseen
  rw [settleFrom, if_neg hseen, onward, waits, hx]
  cases x with
  | accept | one s next => exact ⟨[], rfl, rfl⟩
  | check a next =>
    by_cases ha : a.holds here.before here.after = true
    · exact ⟨[⟨next, t.saves⟩], by simp [ha], by simp [ha]⟩
    · exact ⟨[], by simp [ha], by simp [ha]⟩
  | save slot next => exact ⟨[⟨next, (slot, here.index) :: t.saves⟩], rfl, rfl⟩
  | fork a b => exact ⟨[⟨a, t.saves⟩, ⟨b, t.saves⟩], rfl, rfl⟩

theorem length_onward (code : Array Instr) (here : Place) (at' : Nat) :
    (onward code here at').length ≤ 2 := by
  unfold onward
  split
  · split <;> simp
  · simp
  · simp
  · simp

/-- Marking an instruction and going on from it keeps the invariant. -/
theorem Settling.mark {new : List Thread} (hs : Settling code here (t :: ts) seen done)
    (hseen : ¬ IsSeen seen t.at') (hnew : new.map Thread.at' = onward code here t.at') :
    Settling code here (new ++ ts) (seen.setIfInBounds t.at' true)
      (if waits code t.at' then t :: done else done) := by
  have hmark : ∀ k, IsSeen (seen.setIfInBounds t.at' true) k ↔ k = t.at' ∨ IsSeen seen k :=
    fun k => isSeen_mark (lt_of_not_isSeen hseen)
  refine ⟨by rw [Array.size_setIfInBounds, hs.size], fun k hk hwaits => ?_, fun k hk k' hk' => ?_⟩
  · rcases (hmark k).1 hk with rfl | hk
    · exact ⟨t, by simp [hwaits], rfl⟩
    · obtain ⟨t', ht', rfl⟩ := hs.waiting k hk hwaits
      refine ⟨t', ?_, rfl⟩
      split
      · exact List.mem_cons_of_mem t ht'
      · exact ht'
  · rcases (hmark k).1 hk with rfl | hk
    · rw [← hnew] at hk'
      obtain ⟨t', ht', rfl⟩ := List.mem_map.1 hk'
      exact .inr ⟨t', List.mem_append_left ts ht', rfl⟩
    · rcases hs.closed k hk k' hk' with hseen' | ⟨t', ht', rfl⟩
      · exact .inl ((hmark k').2 (.inr hseen'))
      · rcases List.mem_cons.1 ht' with rfl | ht'
        · exact .inl ((hmark t'.at').2 (.inl rfl))
        · exact .inr ⟨t', List.mem_append_right new ht', rfl⟩

theorem Settling.pass (hs : Settling code here (t :: ts) seen done) (hseen : IsSeen seen t.at') :
    Settling code here ts seen done := by
  refine ⟨hs.size, hs.waiting, fun k hk k' hk' => ?_⟩
  rcases hs.closed k hk k' hk' with hseen' | ⟨t', ht', rfl⟩
  · exact .inl hseen'
  · rcases List.mem_cons.1 ht' with rfl | ht'
    · exact .inl hseen
    · exact .inr ⟨t', ht', rfl⟩

/-- A thread is taken off, or an instruction is marked and at most two threads come in: the fuel is
    enough. In the end nothing is to come, and the marks include all threads. -/
theorem Settling.finish (hs : Settling code here ts seen done)
    (enough : ts.length + 2 * seen.count false < fuel) :
    ∃ seen', Settling code here [] seen' (settleFrom code here fuel ts seen done) ∧
      (∀ k, IsSeen seen k → IsSeen seen' k) ∧ ∀ t ∈ ts, IsSeen seen' t.at' := by
  induction fuel generalizing ts seen done with
  | zero => exact absurd enough (Nat.not_lt_zero _)
  | succ fuel ih =>
    cases ts with
    | nil =>
      refine ⟨seen, ⟨hs.size, fun k hk hwaits => ?_, hs.closed⟩, fun _ h => h, nofun⟩
      obtain ⟨t, ht, heq⟩ := hs.waiting k hk hwaits
      exact ⟨t, List.mem_reverse.2 ht, heq⟩
    | cons t ts =>
      rw [List.length_cons] at enough
      by_cases hseen : IsSeen seen t.at'
      · rw [settleFrom_seen hseen]
        obtain ⟨seen', hs', hkept, hts⟩ := ih (hs.pass hseen) (by omega)
        refine ⟨seen', hs', hkept, fun t' ht' => ?_⟩
        rcases List.mem_cons.1 ht' with rfl | ht'
        · exact hkept _ hseen
        · exact hts t' ht'
      · obtain ⟨new, hnew, heq⟩ := settleFrom_unseen here fuel ts done hs.size hseen
        have hcount := count_mark hseen
        have hlength : new.length ≤ 2 := by
          rw [← List.length_map (f := Thread.at'), hnew]
          exact length_onward code here t.at'
        obtain ⟨seen', hs', hkept, hts⟩ := ih (hs.mark hseen hnew) (by
          rw [List.length_append]
          omega)
        have hmark := fun k => isSeen_mark (k := k) (lt_of_not_isSeen hseen)
        rw [heq]
        refine ⟨seen', hs', fun k hk => hkept k ((hmark k).2 (.inr hk)), fun t' ht' => ?_⟩
        rcases List.mem_cons.1 ht' with rfl | ht'
        · exact hkept _ ((hmark _).2 (.inl rfl))
        · exact hts t' (List.mem_append_right new ht')

/-- Ways from what is marked are ways of threads that are done, when nothing is to come. -/
theorem Settling.exists_leads (hs : Settling code (placeAt text i) [] seen done)
    (hseen : IsSeen seen at') (hl : Leads code text n at' i j) :
    ∃ t ∈ done, ∃ m, Leads code text m t.at' i j := by
  induction n generalizing at' with
  | zero =>
    rcases hl.waits_or_onward with hwaits | ⟨m, hm, -⟩
    · obtain ⟨t, ht, rfl⟩ := hs.waiting at' hseen hwaits
      exact ⟨t, ht, 0, hl⟩
    · cases hm
  | succ n ih =>
    rcases hl.waits_or_onward with hwaits | ⟨m, hm, k, hk, hrest⟩
    · obtain ⟨t, ht, rfl⟩ := hs.waiting at' hseen hwaits
      exact ⟨t, ht, n + 1, hl⟩
    · cases hm
      rcases hs.closed at' hseen k hk with hk | ⟨t, ht, -⟩
      · exact ih hk hrest
      · cases ht

/-- A thread that is done waits, and its ways are ways of a thread there was before. -/
theorem of_mem_settleFrom (hsize : seen.size = code.size)
    (ht : t ∈ settleFrom code (placeAt text i) fuel ts seen done) :
    t ∈ done ∨ waits code t.at' = true ∧ ∃ t' ∈ ts, ∀ n j, Leads code text n t.at' i j →
      ∃ m, Leads code text m t'.at' i j := by
  induction fuel generalizing ts seen done with
  | zero => exact .inl (List.mem_reverse.1 ht)
  | succ fuel ih =>
    cases ts with
    | nil => exact .inl (List.mem_reverse.1 ht)
    | cons t' ts =>
      by_cases hseen : IsSeen seen t'.at'
      · rw [settleFrom_seen hseen] at ht
        refine (ih hsize ht).imp_right fun ⟨hwaits, t'', ht'', hways⟩ => ?_
        exact ⟨hwaits, t'', List.mem_cons_of_mem t' ht'', hways⟩
      · obtain ⟨new, hnew, heq⟩ := settleFrom_unseen (placeAt text i) fuel ts done hsize hseen
        rw [heq] at ht
        rcases ih (by rw [Array.size_setIfInBounds, hsize]) ht with hdone | ⟨hwaits, t'', ht'', hways⟩
        · split at hdone
          · next hwaits =>
            rcases List.mem_cons.1 hdone with rfl | hdone
            · exact .inr ⟨hwaits, t, List.mem_cons_self, fun n j hl => ⟨n, hl⟩⟩
            · exact .inl hdone
          · exact .inl hdone
        · refine .inr ⟨hwaits, ?_⟩
          rcases List.mem_append.1 ht'' with ht'' | ht''
          · have honward : t''.at' ∈ onward code (placeAt text i) t'.at' := by
              rw [← hnew]
              exact List.mem_map_of_mem ht''
            refine ⟨t', List.mem_cons_self, fun n j hl => ?_⟩
            obtain ⟨m, hl⟩ := hways n j hl
            exact ⟨m + 1, leads_of_onward honward hl⟩
          · exact ⟨t'', List.mem_cons_of_mem t' ht'', hways⟩

/-- In the beginning only what is outside the program counts as marked, and goes nowhere. -/
theorem settling_start (code : Array Instr) (here : Place) (ts : List Thread) :
    Settling code here ts (Array.replicate code.size false) [] := by
  have houtside : ∀ k, IsSeen (Array.replicate code.size false) k → code[k]? = none := by
    intro k hk
    refine Array.getElem?_eq_none (Nat.le_of_not_lt fun hlt => ?_)
    rw [IsSeen, Array.getD_eq_getD_getElem?, Array.getElem?_replicate, if_pos hlt] at hk
    cases hk
  refine ⟨Array.size_replicate, fun k hk hwaits => ?_, fun k hk k' hk' => ?_⟩
  · rw [waits, houtside k hk] at hwaits
    cases hwaits
  · rw [onward, houtside k hk] at hk'
    cases hk'

theorem exists_mem_settle (ht : t ∈ ts) (hl : Leads code text n t.at' i j) :
    ∃ t' ∈ settle code (placeAt text i) ts, ∃ m, Leads code text m t'.at' i j := by
  have enough : ts.length + 2 * (Array.replicate code.size false).count false <
      ts.length + 2 * code.size + 1 := by simp
  obtain ⟨seen, hs, -, hts⟩ := (settling_start code (placeAt text i) ts).finish enough
  exact hs.exists_leads (hts t ht) hl

theorem of_mem_settle (ht : t ∈ settle code (placeAt text i) ts) :
    waits code t.at' = true ∧ ∃ t' ∈ ts, ∀ n j, Leads code text n t.at' i j →
      ∃ m, Leads code text m t'.at' i j :=
  (of_mem_settleFrom Array.size_replicate ht).resolve_left List.not_mem_nil

/-! ### Accepting, and taking a character -/

/-- Threads are cut off where one accepts, and all stay if there is none. -/
theorem of_cutAtAccept (code : Array Instr) (ts : List Thread) :
    (∀ t ∈ (cutAtAccept code ts).1, t ∈ ts) ∧
      ((cutAtAccept code ts).2 = none →
        (cutAtAccept code ts).1 = ts ∧ ∀ t ∈ ts, code[t.at']? ≠ some .accept) ∧
      ((cutAtAccept code ts).2 ≠ none → ∃ t ∈ ts, code[t.at']? = some .accept) := by
  induction ts with
  | nil => exact ⟨nofun, fun _ => ⟨rfl, nofun⟩, fun h => absurd rfl h⟩
  | cons t ts ih =>
    rw [cutAtAccept]
    split
    · next haccept => exact ⟨nofun, nofun, fun _ => ⟨t, List.mem_cons_self, haccept⟩⟩
    · next hother =>
      obtain ⟨hmem, hnone, hsome⟩ := ih
      refine ⟨fun t' ht' => ?_, fun h => ?_, fun h => ?_⟩
      · rcases List.mem_cons.1 ht' with rfl | ht'
        · exact List.mem_cons_self
        · exact List.mem_cons_of_mem t (hmem t' ht')
      · obtain ⟨halive, hts⟩ := hnone h
        refine ⟨congrArg (t :: ·) halive, fun t' ht' => ?_⟩
        rcases List.mem_cons.1 ht' with rfl | ht'
        · exact hother
        · exact hts t' ht'
      · obtain ⟨t', ht', haccept⟩ := hsome h
        exact ⟨t', List.mem_cons_of_mem t ht', haccept⟩

theorem Leads.of_waits (hwaits : waits code at' = true) (hl : Leads code text n at' i j) :
    code[at']? = some .accept ∧ j = i ∨
      ∃ c s next m, text[i]? = some c ∧ code[at']? = some (.one s next) ∧ s.contains c = true ∧
        Leads code text m next (i + 1) j := by
  cases hl with
  | accept h => exact .inl ⟨h, rfl⟩
  | one h hc hs hrest => exact .inr ⟨_, _, _, _, hc, h, hs, hrest⟩
  | check h | save h | first h | second h => rw [waits, h] at hwaits; cases hwaits

theorem take?_eq_some {t t' : Thread} {c : Char} (ht : t.take? code c = some t') :
    ∃ s, code[t.at']? = some (.one s t'.at') ∧ s.contains c = true := by
  unfold Thread.take? at ht
  split at ht
  · next s next hcode =>
    split at ht
    · next hs =>
      cases ht
      exact ⟨s, hcode, hs⟩
    · cases ht
  · cases ht

theorem take?_of_one {t : Thread} {c : Char} {s : CharSet} {next : Nat}
    (hcode : code[t.at']? = some (.one s next)) (hs : s.contains c = true) :
    t.take? code c = some ⟨next, t.saves⟩ := by
  rw [Thread.take?, hcode]
  exact if_pos hs

/-! ### Following threads through a text -/

/-- Some thread has a way to accept at a place. -/
def SomeLeads (code : Array Instr) (text : List Char) (ts : List Thread) (i j : Nat) : Prop :=
  ∃ t ∈ ts, ∃ n, Leads code text n t.at' i j

theorem placeAt_append (passed rest : List Char) :
    placeAt (passed ++ rest) passed.length = ⟨passed.length, passed.getLast?, rest.head?⟩ := by
  rw [placeAt, List.take_left', List.getElem?_append_right (Nat.le_refl _), Nat.sub_self,
    List.head?_eq_getElem?]
  rfl

theorem someLeads_settle :
    SomeLeads code text (settle code (placeAt text i) ts) i j ↔ SomeLeads code text ts i j := by
  constructor
  · rintro ⟨t, ht, n, hl⟩
    obtain ⟨-, t', ht', hways⟩ := of_mem_settle ht
    exact ⟨t', ht', hways n j hl⟩
  · rintro ⟨t, ht, n, hl⟩
    exact exists_mem_settle ht hl

/-- The threads that are not cut off, and the match found here or else the best before. -/
def cutHere (code : Array Instr) (best : Option Hit) (here : Place) (ts : List Thread) :
    List Thread × Option Hit :=
  let cut := cutAtAccept code (settle code here ts)
  (cut.1, (cut.2.map (Hit.mk here.index)).or best)

/-- At the end of a text the match found there is the last. -/
theorem follow_end (code : Array Instr) (best : Option Hit) (ts : List Thread) (passed : List Char) :
    follow code best ts passed.length passed.getLast? [] =
      (cutHere code best (placeAt (passed ++ []) passed.length) ts).2 := by
  rw [placeAt_append, List.head?_nil, follow, cutHere]
  cases (cutAtAccept code (settle code ⟨passed.length, passed.getLast?, none⟩ ts)).2 with
  | none => rfl
  | some saves => rfl

theorem follow_nil (code : Array Instr) (best : Option Hit) (i : Nat) (before : Option Char)
    (rest : List Char) : follow code best [] i before rest = best := by
  cases rest with
  | nil => rfl
  | cons c r => rfl

/-- The threads that are not cut off take the next character. -/
theorem follow_cons (code : Array Instr) (best : Option Hit) (ts : List Thread) (passed : List Char)
    (c : Char) (r : List Char) :
    follow code best ts passed.length passed.getLast? (c :: r) =
      follow code (cutHere code best (placeAt (passed ++ c :: r) passed.length) ts).2
        ((cutHere code best (placeAt (passed ++ c :: r) passed.length) ts).1.filterMap
          (Thread.take? code c)) (passed ++ [c]).length (passed ++ [c]).getLast? r := by
  rw [placeAt_append, List.head?_cons, List.length_append, List.length_singleton,
    List.getLast?_concat, follow, cutHere]
  generalize cutAtAccept code (settle code ⟨passed.length, passed.getLast?, some c⟩ ts) = cut
  obtain ⟨alive, saves⟩ := cut
  dsimp only
  split
  · next hnone =>
    rw [hnone, follow_nil]
    cases saves with
    | none => rfl
    | some saves => rfl
  · cases saves with
    | none => rfl
    | some saves => rfl

/-- A match found here is one that a thread leads to. -/
theorem of_cutHere (hbest : (cutHere code best (placeAt text i) ts).2 = some h) :
    best = some h ∨ SomeLeads code text ts i h.stop := by
  rw [cutHere] at hbest
  obtain ⟨-, -, haccept⟩ := of_cutAtAccept code (settle code (placeAt text i) ts)
  cases hsaves : (cutAtAccept code (settle code (placeAt text i) ts)).2 with
  | none =>
    rw [hsaves] at hbest
    exact .inl hbest
  | some saves =>
    rw [hsaves] at hbest
    cases hbest
    obtain ⟨t, ht, hcode⟩ := haccept (by rw [hsaves]; nofun)
    exact .inr (someLeads_settle.1 ⟨t, ht, 0, .accept hcode⟩)

theorem mem_of_cutHere (ht : t ∈ (cutHere code best (placeAt text i) ts).1) :
    t ∈ settle code (placeAt text i) ts :=
  (of_cutAtAccept code (settle code (placeAt text i) ts)).1 t ht

/-- Either there is a match here, or all threads stay and none of them accepts. -/
theorem isSome_or_of_cutHere (code : Array Instr) (best : Option Hit) (text : List Char) (i : Nat)
    (ts : List Thread) :
    (cutHere code best (placeAt text i) ts).2.isSome = true ∨
      (cutHere code best (placeAt text i) ts).1 = settle code (placeAt text i) ts ∧
        ∀ t ∈ settle code (placeAt text i) ts, code[t.at']? ≠ some .accept := by
  obtain ⟨-, hnone, -⟩ := of_cutAtAccept code (settle code (placeAt text i) ts)
  cases hsaves : (cutAtAccept code (settle code (placeAt text i) ts)).2 with
  | none => exact .inr (hnone hsaves)
  | some saves =>
    refine .inl ?_
    rw [cutHere, hsaves]
    rfl

theorem isSome_cutHere (here : Place) (hbest : best.isSome = true) :
    (cutHere code best here ts).2.isSome = true := by
  rw [cutHere, Option.isSome_or, hbest, Bool.or_true]

/-- What is found is the best before, or a match that a thread leads to. -/
theorem of_follow (passed : List Char)
    (hfound : follow code best ts passed.length passed.getLast? rest = some h) :
    best = some h ∨ SomeLeads code (passed ++ rest) ts passed.length h.stop := by
  induction rest generalizing passed best ts with
  | nil =>
    rw [follow_end] at hfound
    exact of_cutHere hfound
  | cons c r ih =>
    rw [follow_cons] at hfound
    have hrest := ih (passed ++ [c]) hfound
    rw [List.append_assoc, List.singleton_append, List.length_append, List.length_singleton] at hrest
    rcases hrest with hbest | ⟨t', ht', n, hl⟩
    · exact of_cutHere hbest
    · obtain ⟨t, ht, htake⟩ := List.mem_filterMap.1 ht'
      obtain ⟨s, hcode, hs⟩ := take?_eq_some htake
      have hc : (passed ++ c :: r)[passed.length]? = some c := by simp
      exact .inr (someLeads_settle.1 ⟨t, mem_of_cutHere ht, n + 1, .one hcode hc hs hl⟩)

/-- If a thread leads to a match, some match is found. -/
theorem isSome_follow (passed : List Char) (best : Option Hit) (ts : List Thread)
    (hfound : best.isSome = true ∨ SomeLeads code (passed ++ rest) ts passed.length j) :
    (follow code best ts passed.length passed.getLast? rest).isSome = true := by
  induction rest generalizing passed best ts with
  | nil =>
    rw [follow_end]
    rcases hfound with hbest | hl
    · exact isSome_cutHere _ hbest
    rcases isSome_or_of_cutHere code best (passed ++ []) passed.length ts with hsome | ⟨-, hnone⟩
    · exact hsome
    obtain ⟨t, ht, n, hl⟩ := someLeads_settle.2 hl
    rcases hl.of_waits (of_mem_settle ht).1 with ⟨haccept, -⟩ | ⟨c, s, next, m, hc, -⟩
    · exact absurd haccept (hnone t ht)
    · simp at hc
  | cons c r ih =>
    rw [follow_cons]
    refine ih _ _ _ ?_
    rw [List.append_assoc, List.singleton_append, List.length_append, List.length_singleton]
    rcases hfound with hbest | hl
    · exact .inl (isSome_cutHere _ hbest)
    refine (isSome_or_of_cutHere code best (passed ++ c :: r) passed.length ts).imp_right ?_
    rintro ⟨hstay, hnone⟩
    rw [hstay]
    obtain ⟨t, ht, n, hl⟩ := someLeads_settle.2 hl
    rcases hl.of_waits (of_mem_settle ht).1 with ⟨haccept, -⟩ | ⟨c', s, next, m, hc, hcode, hs, hl⟩
    · exact absurd haccept (hnone t ht)
    · have hsame : c' = c := by simpa using hc.symm
      subst hsame
      exact ⟨⟨next, t.saves⟩, List.mem_filterMap.2 ⟨t, ht, take?_of_one hcode hs⟩, m, hl⟩

/-! ### Matches -/

/-- A match that is found at a place of a text is a match of the pattern. -/
theorem spans_of_hitAt (hfound : p.program.hitAt passed.length passed.getLast? rest = some h) :
    p.Spans (passed ++ rest) passed.length h.stop := by
  rcases of_follow passed hfound with hbest | ⟨t, ht, n, hl⟩
  · cases hbest
  · rw [List.mem_singleton.1 ht] at hl
    exact (spans_iff_leads _ p _ _).2 ⟨n, hl⟩

/-- Where a pattern matches, a match is found. -/
theorem isSome_hitAt (hspans : p.Spans (passed ++ rest) passed.length j) :
    (p.program.hitAt passed.length passed.getLast? rest).isSome = true := by
  obtain ⟨n, hl⟩ := (spans_iff_leads _ p _ _).1 hspans
  exact isSome_follow passed none _ (.inr ⟨_, List.mem_singleton_self _, n, hl⟩)

end StartPage.Pattern
