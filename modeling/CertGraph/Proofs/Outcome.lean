/- Steps that may fail and change a state: their outcome, and the state after them. -/
set_option autoImplicit false
set_option relaxedAutoImplicit false

namespace CertGraph

variable {φ τ α β : Type}

/-- The outcome of a step, and the state after it. -/
def outcome (step : EStateM φ τ α) (state : τ) : Except φ α × τ :=
  match step state with
  | .ok value after => (.ok value, after)
  | .error failure after => (.error failure, after)

theorem outcome_pure (value : α) (state : τ) :
    outcome (pure value : EStateM φ τ α) state = (.ok value, state) := rfl

theorem outcome_get (state : τ) : outcome (get : EStateM φ τ τ) state = (.ok state, state) := rfl

theorem outcome_bind (step : EStateM φ τ α) (next : α → EStateM φ τ β) (state : τ) :
    outcome (step >>= next) state =
      match outcome step state with
      | (.ok value, after) => outcome (next value) after
      | (.error failure, after) => (.error failure, after) := by
  simp only [outcome, bind, EStateM.bind]
  cases step state <;> rfl

theorem outcome_tryCatch (step : EStateM φ τ α) (handle : φ → EStateM φ τ α) (state : τ) :
    outcome (tryCatch step handle) state =
      match outcome step state with
      | (.ok value, after) => (.ok value, after)
      | (.error failure, after) => outcome (handle failure) after := by
  cases ran : step state with
  | ok value after =>
    have kept : (tryCatch step handle : EStateM φ τ α) state = .ok value after := by
      change EStateM.tryCatch step handle state = _
      delta EStateM.tryCatch
      rw [ran]
    simp only [outcome, kept, ran]
  | error failure after =>
    have handled : (tryCatch step handle : EStateM φ τ α) state = handle failure after := by
      change EStateM.tryCatch step handle state = _
      delta EStateM.tryCatch
      rw [ran]
      rfl
    simp only [outcome, handled, ran]

/-- Steps in a row succeed if each of them does. -/
theorem outcome_bind_ok {step : EStateM φ τ α} {next : α → EStateM φ τ β} {state after : τ}
    {value : β} (ended : outcome (step >>= next) state = (.ok value, after)) :
    ∃ first middle, outcome step state = (.ok first, middle) ∧
      outcome (next first) middle = (.ok value, after) := by
  rw [outcome_bind] at ended
  split at ended
  · rename_i first middle begun
    exact ⟨first, middle, begun, ended⟩
  · cases ended

end CertGraph
