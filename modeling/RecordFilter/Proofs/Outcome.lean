import RecordFilter.Error

set_option autoImplicit false

namespace RecordFilter

variable {σ α β : Type}

-- The monad's own `run` has a type that hides the pair; equations are stated about this form of it.
def Resolve.outcome (action : Resolve σ α) (state : σ) : Except Error α × σ := action.run state

namespace Resolve

theorem outcome_bind (action : Resolve σ α) (next : α → Resolve σ β) (state : σ) :
    (action >>= next).outcome state =
      match action.outcome state with
      | (.ok value, after) => (next value).outcome after
      | (.error error, after) => (.error error, after) := by
  have unfolded : (action >>= next).outcome state =
      (ExceptT.bindCont next (action.outcome state).1 : StateM σ (Except Error β)) (action.outcome state).2 := rfl
  rw [unfolded]
  rcases action.outcome state with ⟨outcome, after⟩
  cases outcome <;> rfl

theorem outcome_bind_of_ok {action : Resolve σ α} {state between : σ} {value : α}
    (first : action.outcome state = (.ok value, between)) (next : α → Resolve σ β) :
    (action >>= next).outcome state = (next value).outcome between := by
  rw [outcome_bind, first]

theorem outcome_bind_of_error {action : Resolve σ α} {state after : σ} {error : Error}
    (first : action.outcome state = (.error error, after)) (next : α → Resolve σ β) :
    (action >>= next).outcome state = (.error error, after) := by
  rw [outcome_bind, first]

theorem outcome_bind_ok {action : Resolve σ α} {next : α → Resolve σ β} {state after : σ} {value : β}
    (succeeded : (action >>= next).outcome state = (.ok value, after)) :
    ∃ first between, action.outcome state = (.ok first, between) ∧
      (next first).outcome between = (.ok value, after) := by
  rw [outcome_bind] at succeeded
  rcases left : action.outcome state with ⟨outcome, between⟩
  rw [left] at succeeded
  cases outcome with
  | error error => simp at succeeded
  | ok first => exact ⟨first, between, rfl, succeeded⟩

theorem outcome_map (change : α → β) (action : Resolve σ α) (state : σ) :
    (change <$> action).outcome state = ((action.outcome state).1.map change, (action.outcome state).2) := by
  rw [map_eq_pure_bind, outcome_bind]
  rcases action.outcome state with ⟨outcome, after⟩
  cases outcome <;> rfl

theorem outcome_pure (value : α) (state : σ) : (pure value : Resolve σ α).outcome state = (.ok value, state) := rfl

theorem outcome_lift (result : Except Error α) (state : σ) :
    (liftM result : Resolve σ α).outcome state = (result, state) := rfl

theorem outcome_get (state : σ) : (get : Resolve σ σ).outcome state = (.ok state, state) := rfl

theorem outcome_modify (change : σ → σ) (state : σ) :
    (modify change : Resolve σ PUnit).outcome state = (.ok ⟨⟩, change state) := rfl

theorem outcome_lift_bind_ok {result : Except Error α} {next : α → Resolve σ β} {state after : σ} {value : β}
    (succeeded : (liftM result >>= next).outcome state = (.ok value, after)) :
    ∃ first, result = .ok first ∧ (next first).outcome state = (.ok value, after) := by
  rw [outcome_bind, outcome_lift] at succeeded
  cases result with
  | error error => simp at succeeded
  | ok first => exact ⟨first, rfl, succeeded⟩

end Resolve

end RecordFilter
