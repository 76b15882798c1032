/-!
Chains of steps that may fail. A chain comes to a value if each of its steps does, and fails for the
first step that does not.
-/

namespace TwinIsa

variable {ε α β σ : Type} {error : ε}

theorem bind_eq_ok_iff {outcome : Except ε α} {next : α → Except ε β} {value : β} :
    outcome >>= next = .ok value ↔ ∃ first, outcome = .ok first ∧ next first = .ok value := by
  cases outcome with
  | error error => simp [bind, Except.bind]
  | ok first => simp [bind, Except.bind]

theorem bind_eq_error_iff {outcome : Except ε α} {next : α → Except ε β} :
    outcome >>= next = .error error ↔
      outcome = .error error ∨ ∃ first, outcome = .ok first ∧ next first = .error error := by
  cases outcome with
  | error error => simp [bind, Except.bind]
  | ok first => simp [bind, Except.bind]

/-! ## Whether a step fails -/

theorem toOption_eq_some_iff {outcome : Except ε α} {value : α} :
    outcome.toOption = some value ↔ outcome = .ok value := by
  cases outcome <;> simp [Except.toOption]

theorem map_unit_eq_error_iff {outcome : Except ε α} :
    outcome.map (fun _ => ()) = .error error ↔ outcome = .error error := by
  cases outcome <;> simp [Except.map]

theorem map_unit_eq_ok_iff {outcome : Except ε α} :
    outcome.map (fun _ => ()) = .ok () ↔ ∃ value, outcome = .ok value := by
  cases outcome <;> simp [Except.map]

/-! ## Errors that are told otherwise -/

section

variable {ε' : Type} (retell : ε → ε')

theorem mapError_bind (outcome : Except ε α) (next : α → Except ε β) :
    (outcome >>= next).mapError retell =
      outcome.mapError retell >>= fun value => (next value).mapError retell := by
  cases outcome <;> rfl

theorem mapError_ite (condition : Prop) [Decidable condition] (first second : Except ε α) :
    (if condition then first else second).mapError retell =
      if condition then first.mapError retell else second.mapError retell := by
  split <;> rfl

end

/-! ## Steps from state to state -/

section

variable {step : σ → α → Except ε σ} {start : σ}

theorem foldlM_append_of_ok {earlier : List α} {middle : σ}
    (folded : earlier.foldlM step start = .ok middle) (later : List α) :
    (earlier ++ later).foldlM step start = later.foldlM step middle := by
  rw [List.foldlM_append, folded]
  rfl

theorem foldlM_eq_error_iff {values : List α} :
    values.foldlM step start = .error error ↔
      ∃ index value middle, values[index]? = some value ∧
        (values.take index).foldlM step start = .ok middle ∧ step middle value = .error error := by
  constructor
  · intro failed
    induction values generalizing start with
    | nil => contradiction
    | cons head rest induction =>
        rw [List.foldlM_cons] at failed
        cases stepped : step start head with
        | error first =>
            rw [stepped] at failed
            cases failed
            exact ⟨0, head, start, rfl, rfl, stepped⟩
        | ok next =>
            rw [stepped] at failed
            rcases induction failed with ⟨index, value, middle, found, folded, failedAt⟩
            refine ⟨index + 1, value, middle, found, ?_, failedAt⟩
            rw [List.take_succ_cons, List.foldlM_cons, stepped]
            exact folded
  · intro fails
    rcases fails with ⟨index, value, middle, found, folded, failedAt⟩
    rcases List.getElem?_eq_some_iff.mp found with ⟨within, rfl⟩
    rw [← List.take_append_drop index values, foldlM_append_of_ok folded,
      List.drop_eq_getElem_cons within, List.foldlM_cons, failedAt]
    rfl

end

/-! ## A step for each value -/

theorem mapM_map_of_inverse {write : α → β} {read : β → Option α}
    (inverse : ∀ value, read (write value) = some value) (values : List α) :
    (values.map write).mapM read = some values := by
  have undone : read ∘ write = fun value => pure value := funext inverse
  rw [List.mapM_map, undone, List.mapM_pure, List.map_id']
  rfl

section

variable {step : α → Except ε β}

theorem exists_mapM_iff {values : List α} :
    (∃ results, values.mapM step = .ok results) ↔
      ∀ value ∈ values, ∃ result, step value = .ok result := by
  induction values with
  | nil => exact ⟨fun _ => nofun, fun _ => ⟨[], rfl⟩⟩
  | cons head rest induction =>
      rw [List.forall_mem_cons, ← induction, List.mapM_cons]
      simp only [bind_eq_ok_iff]
      constructor
      · intro maps
        rcases maps with ⟨_, first, stepped, others, mapped, _⟩
        exact ⟨⟨first, stepped⟩, others, mapped⟩
      · intro each
        rcases each with ⟨⟨first, stepped⟩, others, mapped⟩
        exact ⟨first :: others, first, stepped, others, mapped, rfl⟩

theorem mapM_eq_error_iff {values : List α} :
    values.mapM step = .error error ↔
      ∃ index value, values[index]? = some value ∧
        (∀ earlier ∈ values.take index, ∃ result, step earlier = .ok result) ∧
        step value = .error error := by
  induction values with
  | nil => simp [pure, Except.pure]
  | cons head rest induction =>
      rw [List.mapM_cons, bind_eq_error_iff]
      constructor
      · intro either
        rcases either with failed | ⟨first, stepped, failed⟩
        · exact ⟨0, head, rfl, nofun, failed⟩
        · rcases bind_eq_error_iff.mp failed with failed | ⟨_, _, impossible⟩
          · rcases induction.mp failed with ⟨index, value, found, earlier, failedAt⟩
            refine ⟨index + 1, value, found, ?_, failedAt⟩
            rw [List.take_succ_cons, List.forall_mem_cons]
            exact ⟨⟨first, stepped⟩, earlier⟩
          · contradiction
      · intro fails
        rcases fails with ⟨index, value, found, earlier, failedAt⟩
        cases index with
        | zero =>
            cases found
            exact .inl failedAt
        | succ index =>
            rw [List.take_succ_cons, List.forall_mem_cons] at earlier
            rcases earlier with ⟨⟨first, stepped⟩, others⟩
            refine .inr ⟨first, stepped, ?_⟩
            rw [bind_eq_error_iff]
            exact .inl (induction.mpr ⟨index, value, found, others, failedAt⟩)

end

end TwinIsa
