import Mathlib

set_option autoImplicit false

-- A request repeated after a pause until its outcome is final or the pauses add
-- up to a limit.
namespace Polling

variable {ε α K : Type}

inductive Ending (ε α : Type) where
  | returned (value : α)
  | raised (error : ε)
  | timedOut

def Retried (retry : ε → Bool) : Except ε α → Prop
  | .ok _ => False
  | .error error => retry error = true

section

variable [Field K] [LinearOrder K]
variable (retry : ε → Bool) (outcome : Nat → Except ε α) (timeout interval : K)

-- The first count requests were all in time and all have to be repeated.
def Pending (count : Nat) : Prop := ∀ k < count, k * interval < timeout ∧ Retried retry (outcome k)

-- How it ends, and how many requests were made by then.
inductive EndsAfter : Nat → Ending ε α → Prop where
  | returned (count : Nat) (value : α) (pending : Pending retry outcome timeout interval count)
      (inTime : count * interval < timeout) (last : outcome count = .ok value) :
      EndsAfter (count + 1) (.returned value)
  | raised (count : Nat) (error : ε) (pending : Pending retry outcome timeout interval count)
      (inTime : count * interval < timeout) (last : outcome count = .error error) (final : retry error = false) :
      EndsAfter (count + 1) (.raised error)
  | timedOut (count : Nat) (pending : Pending retry outcome timeout interval count)
      (late : timeout ≤ count * interval) : EndsAfter count .timedOut

theorem pending_succ (count : Nat) : Pending retry outcome timeout interval (count + 1) ↔
    Pending retry outcome timeout interval count ∧ count * interval < timeout ∧ Retried retry (outcome count) := by
  unfold Pending
  rw [Nat.forall_lt_succ_right]

theorem not_retried (result : Except ε α) (final : ¬ Retried retry result) :
    (∃ value, result = .ok value) ∨ ∃ error, result = .error error ∧ retry error = false := by
  cases result with
  | ok value => exact Or.inl ⟨value, rfl⟩
  | error error => exact Or.inr ⟨error, rfl, Bool.eq_false_iff.mpr final⟩

-- Where the pauses are already over, or a final outcome comes up, at some request,
-- the least such request is the end.
theorem ends_at_stop (stops : ∃ count : Nat, timeout ≤ count * interval ∨ ¬ Retried retry (outcome count)) :
    ∃ count ending, EndsAfter retry outcome timeout interval count ending := by
  classical
  have pending : Pending retry outcome timeout interval (Nat.find stops) := by
    intro k less
    have before := Nat.find_min stops less
    push Not at before
    exact before
  by_cases late : timeout ≤ Nat.find stops * interval
  · exact ⟨_, _, .timedOut _ pending late⟩
  · have final := (Nat.find_spec stops).resolve_left late
    have inTime := lt_of_not_ge late
    rcases not_retried retry _ final with ⟨value, last⟩ | ⟨error, last, final⟩
    · exact ⟨_, _, .returned _ value pending inTime last⟩
    · exact ⟨_, _, .raised _ error pending inTime last final⟩

theorem ends_iff [IsStrictOrderedRing K] [Archimedean K] (nonNegative : 0 ≤ interval) :
    (∃ count ending, EndsAfter retry outcome timeout interval count ending) ↔
      0 < interval ∨ timeout ≤ 0 ∨ ∃ count, ¬ Retried retry (outcome count) := by
  refine ⟨?_, ?_⟩
  · intro ⟨count, ending, ends⟩
    cases ends with
    | returned count value pending inTime last =>
        right; right
        exact ⟨count, by rw [last]; exact not_false⟩
    | raised count error pending inTime last final =>
        right; right
        exact ⟨count, by rw [last]; exact Bool.eq_false_iff.mp final⟩
    | timedOut count pending late =>
        rcases nonNegative.lt_or_eq with positive | zero
        · exact Or.inl positive
        · rw [← zero, mul_zero] at late
          exact Or.inr (Or.inl late)
  · intro cause
    apply ends_at_stop
    rcases cause with positive | passed | ⟨count, final⟩
    · obtain ⟨count, bound⟩ := Archimedean.arch timeout positive
      rw [nsmul_eq_mul] at bound
      exact ⟨count, Or.inl bound⟩
    · exact ⟨0, Or.inl (by simpa using passed)⟩
    · exact ⟨count, Or.inr final⟩

theorem in_time_below_ceil [IsStrictOrderedRing K] [FloorSemiring K] (positive : 0 < interval) (count : Nat)
    (inTime : count * interval < timeout) : count + 1 ≤ ⌈timeout / interval⌉₊ :=
  Nat.lt_ceil.mpr ((lt_div_iff₀ positive).mpr inTime)

theorem ends_within [IsStrictOrderedRing K] [FloorSemiring K] (positive : 0 < interval) (count : Nat)
    (ending : Ending ε α) (ends : EndsAfter retry outcome timeout interval count ending) :
    count ≤ ⌈timeout / interval⌉₊ := by
  cases ends with
  | returned count value pending inTime last => exact in_time_below_ceil timeout interval positive count inTime
  | raised count error pending inTime last final => exact in_time_below_ceil timeout interval positive count inTime
  | timedOut count pending late =>
      cases count with
      | zero => exact Nat.zero_le _
      | succ count => exact in_time_below_ceil timeout interval positive count (pending count (Nat.lt_succ_self count)).1

theorem pending_for_ever (zero : interval = 0) (positive : 0 < timeout)
    (all : ∀ count, Retried retry (outcome count)) (count : Nat) : Pending retry outcome timeout interval count := by
  intro k _
  exact ⟨by rw [zero, mul_zero]; exact positive, all k⟩

end

end Polling
