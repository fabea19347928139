import Mathlib

set_option autoImplicit false

-- Changes of the state that a program neither sees nor undoes.
namespace Commuting

variable {ε σ ι κ α β : Type} (change : σ → σ)

def changed : EStateM.Result ε σ α → EStateM.Result ε σ α
  | .ok value state => .ok value (change state)
  | .error error state => .error error (change state)

-- Made before the program or after it, the change comes to the same.
def Commutes (program : EStateM ε σ α) : Prop :=
  ∀ state, program.run (change state) = changed change (program.run state)

theorem commutes_pure (value : α) : Commutes change (pure value : EStateM ε σ α) := by
  intro state
  rfl

theorem commutes_throw (error : ε) : Commutes change (throw error : EStateM ε σ α) := by
  intro state
  rfl

theorem commutes_of_except (result : Except ε α) :
    Commutes change (MonadExcept.ofExcept result : EStateM ε σ α) := by
  intro state
  cases result <;> rfl

theorem commutes_bind (program : EStateM ε σ α) (next : α → EStateM ε σ β) (first : Commutes change program)
    (second : ∀ value, Commutes change (next value)) : Commutes change (program >>= next) := by
  intro state
  rw [EStateM.run_bind, EStateM.run_bind, first state]
  cases program.run state with
  | ok value middle => exact second value middle
  | error error middle => rfl

theorem commutes_update (write : σ → σ) (read : σ → α) (sameWrite : ∀ state, write (change state) = change (write state))
    (sameRead : ∀ state, read (change state) = read state) :
    Commutes change (do
      let state ← get
      set (write state)
      return read state : EStateM ε σ α) := by
  intro state
  change EStateM.Result.ok (read (change state)) (write (change state)) = .ok (read state) (change (write state))
  rw [sameWrite, sameRead]

theorem erased_run (step : σ → ι → σ) (kept : ι → Option κ) (keep : σ → κ → σ)
    (each : ∀ state action, change (step state action) = ((kept action).map (keep (change state))).getD (change state))
    (actions : List ι) (state : σ) :
    change (actions.foldl step state) = (actions.filterMap kept).foldl keep (change state) := by
  induction actions generalizing state with
  | nil => rfl
  | cons action actions ih =>
      rw [List.foldl_cons, ih, each state action]
      cases keeps : kept action with
      | none => rw [List.filterMap_cons_none keeps, Option.map_none, Option.getD_none]
      | some value => rw [List.filterMap_cons_some keeps, List.foldl_cons, Option.map_some, Option.getD_some]

end Commuting
