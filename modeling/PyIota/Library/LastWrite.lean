import Mathlib

set_option autoImplicit false

-- A field that some steps of a run overwrite and the others leave alone.
namespace LastWrite

variable {σ ι α : Type}

-- The value the last writing step of the run wrote.
def last (written : ι → Option α) (steps : List ι) : Option α := (steps.filterMap written).getLast?

theorem last_cons (written : ι → Option α) (step : ι) (steps : List ι) :
    last written (step :: steps) = (last written steps).or (written step) := by
  unfold last
  cases wrote : written step with
  | none => rw [List.filterMap_cons_none wrote, Option.or_none]
  | some value =>
      rw [List.filterMap_cons_some wrote, List.getLast?_cons]
      cases (steps.filterMap written).getLast? <;> rfl

def Overwrites (step : σ → ι → σ) (field : σ → Option α) (written : ι → Option α) : Prop :=
  ∀ state action, field (step state action) = (written action).or (field state)

theorem field_after_run (step : σ → ι → σ) (field : σ → Option α) (written : ι → Option α)
    (overwrites : Overwrites step field written) (steps : List ι) (state : σ) :
    field (steps.foldl step state) = (last written steps).or (field state) := by
  induction steps generalizing state with
  | nil => rfl
  | cons action steps ih =>
      rw [List.foldl_cons, ih, overwrites state action, last_cons, Option.or_assoc]

theorem field_after_fresh_run (step : σ → ι → σ) (field : σ → Option α) (written : ι → Option α)
    (overwrites : Overwrites step field written) (steps : List ι) (state : σ) (fresh : field state = none) :
    field (steps.foldl step state) = last written steps := by
  rw [field_after_run step field written overwrites, fresh, Option.or_none]

end LastWrite
