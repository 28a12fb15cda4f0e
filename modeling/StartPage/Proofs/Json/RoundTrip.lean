import StartPage.Json.Parser
import StartPage.Proofs.Json.Fields
import StartPage.Proofs.Json.Scan

/-!
    Reading inverts printing. The tokens of a value lead the reader from the point where a value is
    due to the point where that value is done, whatever containers are open around it.

        value  ──tokens of v──▶  done v

    An object whose keys are not in order is read as the one with the same fields in order. -/

namespace StartPage.Json

/-- The object with given fields is held in full by text if their values are. -/
theorem Exact.ofFields {d : Nat} {fields : List (String × Json)} (h : ∀ f ∈ fields, Exact d f.2) :
    Exact (d + 1) (ofFields fields) := by
  refine .obj (insertFields_ascending fields List.Pairwise.nil) fun f hf => h f ?_
  exact (mem_insertFields fields hf).resolve_left (List.not_mem_nil)

/-! ### Reading -/

/-- The tokens of `v` lead from the point where a value is due to the one where `w` is done, if `d`
    more containers may be open there. -/
def ReadsAs (d : Nat) (v w : Json) : Prop := ∀ (stack : List Frame) (rest : List Token),
  stack.length + d ≤ maxDepth →
    Reading.run ⟨stack, .value⟩ (v.tokens ++ rest) = Reading.run ⟨stack, .done w⟩ rest

/-- A first item is read like any other value. -/
theorem run_firstItem (stack : List Frame) (v : Json) (rest : List Token) :
    Reading.run ⟨stack, .firstItem⟩ (v.tokens ++ rest) =
      Reading.run ⟨stack, .value⟩ (v.tokens ++ rest) := by
  rcases v with - | _ | _ | _ | _ | (_ | _) | (_ | ⟨⟨_, _⟩, _⟩) <;> rfl

theorem run_itemTokens {d : Nat} {stack : List Frame} (depth : stack.length + 1 + d ≤ maxDepth)
    (rest : List Token) : ∀ {vs : List Json} (items : List Json) (v : Json),
      (∀ w ∈ vs, ReadsAs d w w) →
      Reading.run ⟨.list items :: stack, .done v⟩ (itemTokens vs ++ .closeList :: rest) =
        Reading.run ⟨stack, .done (.arr ((v :: items).reverse ++ vs))⟩ rest
  | [], items, v, _ => by
    rw [List.append_nil]
    rfl
  | w :: vs, items, v, h => by
    have hw := h w List.mem_cons_self (.list (v :: items) :: stack)
      (itemTokens vs ++ .closeList :: rest) depth
    have hvs := run_itemTokens depth rest (v :: items) w
      fun x hx => h x (List.mem_cons_of_mem w hx)
    rw [itemTokens, List.cons_append, List.append_assoc]
    show Reading.run ⟨.list (v :: items) :: stack, .value⟩ _ = _
    rw [hw, hvs]
    simp

theorem run_fieldTokens {d : Nat} {stack : List Frame} (depth : stack.length + 1 + d ≤ maxDepth)
    (rest : List Token) : ∀ {fs : List (String × Json)} (fields : List (String × Json))
      (k : String) (v : Json), (∀ f ∈ fs, ReadsAs d f.2 f.2) →
      Reading.run ⟨.object fields k :: stack, .done v⟩ (fieldTokens fs ++ .closeObject :: rest) =
        Reading.run ⟨stack, .done (.obj (insertFields (insertField k v fields) fs))⟩ rest
  | [], _, _, _, _ => rfl
  | (k', w) :: fs, fields, k, v, h => by
    have hw := h (k', w) List.mem_cons_self (.object (insertField k v fields) k' :: stack)
      (fieldTokens fs ++ .closeObject :: rest) depth
    have hfs := run_fieldTokens depth rest (insertField k v fields) k' w
      fun f hf => h f (List.mem_cons_of_mem _ hf)
    rw [fieldTokens]
    simp only [List.cons_append, List.append_assoc]
    show Reading.run ⟨.object (insertField k v fields) k' :: stack, .value⟩ _ = _
    rw [hw, hfs]
    rfl

theorem run_openList {stack : List Frame} (h : stack.length < maxDepth) (rest : List Token) :
    Reading.run ⟨stack, .value⟩ (.openList :: rest) =
      Reading.run ⟨.list [] :: stack, .firstItem⟩ rest := by
  simp [Reading.run, Reading.step, Reading.start, h]

theorem run_openObject {stack : List Frame} (h : stack.length < maxDepth) (rest : List Token) :
    Reading.run ⟨stack, .value⟩ (.openObject :: rest) = Reading.run ⟨stack, .firstKey⟩ rest := by
  simp [Reading.run, Reading.step, Reading.start, h]

theorem readsAs_arr {d : Nat} {vs : List Json} (h : ∀ v ∈ vs, ReadsAs d v v) :
    ReadsAs (d + 1) (.arr vs) (.arr vs) := by
  intro stack rest depth
  cases vs with
  | nil => exact run_openList (by omega) _
  | cons v vs =>
    have hv := h v List.mem_cons_self (.list [] :: stack) (itemTokens vs ++ .closeList :: rest)
      (by rw [List.length_cons]; omega)
    rw [tokens, List.cons_append, run_openList (by omega), List.append_assoc, run_firstItem]
    rw [List.append_assoc, List.singleton_append, hv]
    exact run_itemTokens (by omega) rest [] v fun w hw => h w (List.mem_cons_of_mem v hw)

theorem readsAs_obj {d : Nat} {fs : List (String × Json)} (h : ∀ f ∈ fs, ReadsAs d f.2 f.2) :
    ReadsAs (d + 1) (.obj fs) (ofFields fs) := by
  intro stack rest depth
  cases fs with
  | nil => exact run_openObject (by omega) _
  | cons f fs =>
    obtain ⟨k, v⟩ := f
    have hv := h (k, v) List.mem_cons_self (.object [] k :: stack)
      (fieldTokens fs ++ .closeObject :: rest) (by rw [List.length_cons]; omega)
    rw [tokens, List.cons_append, run_openObject (by omega)]
    simp only [List.cons_append, List.append_assoc, List.nil_append]
    show Reading.run ⟨.object [] k :: stack, .value⟩ _ = _
    rw [hv]
    exact run_fieldTokens (by omega) rest [] k v fun f hf => h f (List.mem_cons_of_mem _ hf)

theorem Exact.readsAs {d : Nat} {v : Json} (h : Exact d v) : ReadsAs d v v := by
  induction h with
  | null | bool _ | int _ _ | str _ => exact fun _ _ _ => rfl
  | arr _ ih => exact readsAs_arr ih
  | obj keys _ ih =>
    have hobj := readsAs_obj ih
    rw [ofFields_of_ascending keys] at hobj
    exact hobj

theorem ReadsAs.ofTokens? {v w : Json} (h : ReadsAs maxDepth v w) :
    ofTokens? v.tokens = some w := by
  have hrun := h [] [] (by simp)
  rw [List.append_nil] at hrun
  rw [Json.ofTokens?, hrun]
  rfl

/-- Reading inverts printing on every value that text holds in full. -/
theorem read?_pretty {v : Json} (h : Exact maxDepth v) : read? (pretty v) = some v := by
  rw [read?, h.scans.scan_pretty]
  exact h.readsAs.ofTokens?

/-- A printed object whose keys may be in any order is read as the one with the same fields. -/
theorem read?_pretty_obj {d : Nat} {fs : List (String × Json)} (hd : d < maxDepth)
    (h : ∀ f ∈ fs, Exact d f.2) : read? (pretty (.obj fs)) = some (ofFields fs) := by
  have hscan : Scans (.obj fs) := scans_obj fun f hf => (h f hf).scans
  have hread : ReadsAs maxDepth (.obj fs) (ofFields fs) := fun stack rest depth =>
    readsAs_obj (fun f hf => (h f hf).readsAs) stack rest (by omega)
  rw [read?, hscan.scan_pretty]
  exact hread.ofTokens?

end StartPage.Json
