import Mathlib

set_option autoImplicit false

namespace Fallible

variable {ε α β : Type}

theorem bind_ok (result : Except ε α) (next : α → Except ε β) (out : β) :
    (result >>= next) = .ok out ↔ ∃ value, result = .ok value ∧ next value = .ok out := by
  cases result with
  | error error =>
      refine ⟨?_, ?_⟩
      · intro equal
        cases equal
      · intro ⟨value, equal, _⟩
        cases equal
  | ok value =>
      refine ⟨?_, ?_⟩
      · intro equal
        exact ⟨value, rfl, equal⟩
      · intro ⟨other, equal, rest⟩
        cases equal
        exact rest

theorem map_total (result : Except ε α) (f : α → β) :
    (∃ value, result.map f = .ok value) ↔ ∃ value, result = .ok value := by
  cases result with
  | error error => exact ⟨fun ⟨_, h⟩ => (by cases h), fun ⟨_, h⟩ => (by cases h)⟩
  | ok value => exact ⟨fun _ => ⟨value, rfl⟩, fun _ => ⟨f value, rfl⟩⟩

theorem map_eq_bind (result : Except ε α) (f : α → β) : result.map f = result >>= fun value => .ok (f value) := by
  cases result <;> rfl

theorem map_bind {γ : Type} (result : Except ε α) (next : α → Except ε β) (f : β → γ) :
    (result >>= next).map f = result >>= fun value => (next value).map f := by
  cases result <;> rfl

theorem map_m_forall (f : α → Except ε β) (items : List α) (values : List β)
    (mapped : items.mapM f = .ok values) : List.Forall₂ (fun item value => f item = .ok value) items values := by
  induction items generalizing values with
  | nil =>
      cases mapped
      exact .nil
  | cons item items ih =>
      rw [List.mapM_cons] at mapped
      obtain ⟨value, valueEq, rest⟩ := (bind_ok _ _ _).mp mapped
      obtain ⟨tail, tailEq, same⟩ := (bind_ok _ _ _).mp rest
      cases same
      exact .cons valueEq (ih tail tailEq)

theorem map_m_ok_iff (f : α → Except ε β) (items : List α) (values : List β) :
    items.mapM f = .ok values ↔ List.Forall₂ (fun item value => f item = .ok value) items values := by
  refine ⟨?_, ?_⟩
  · exact map_m_forall f items values
  · intro each
    induction each with
    | nil => rfl
    | cons head _ ih =>
        rw [List.mapM_cons, head, ih]
        rfl

theorem map_ok_iff (result : Except ε α) (f : α → β) (out : β) :
    result.map f = .ok out ↔ ∃ value, result = .ok value ∧ out = f value := by
  cases result with
  | error error =>
      refine ⟨?_, ?_⟩
      · intro equal
        cases equal
      · intro ⟨value, equal, _⟩
        cases equal
  | ok value =>
      refine ⟨?_, ?_⟩
      · intro equal
        exact ⟨value, rfl, (Except.ok.inj equal).symm⟩
      · intro ⟨other, equal, outEq⟩
        cases equal
        rw [outEq]
        rfl

theorem map_m_total (f : α → Except ε β) (items : List α) :
    (∃ values, items.mapM f = .ok values) ↔ ∀ item ∈ items, ∃ value, f item = .ok value := by
  induction items with
  | nil => exact ⟨fun _ item member => absurd member List.not_mem_nil, fun _ => ⟨[], rfl⟩⟩
  | cons item items ih =>
      rw [List.mapM_cons, List.forall_mem_cons, ← ih]
      refine ⟨?_, ?_⟩
      · intro ⟨values, valuesEq⟩
        obtain ⟨value, valueEq, rest⟩ := (bind_ok _ _ _).mp valuesEq
        obtain ⟨tail, tailEq, _⟩ := (bind_ok _ _ _).mp rest
        exact ⟨⟨value, valueEq⟩, tail, tailEq⟩
      · intro ⟨⟨value, valueEq⟩, tail, tailEq⟩
        exact ⟨value :: tail, by rw [valueEq, tailEq]; rfl⟩

theorem each_total (f : α → Except ε β) (items : List α) :
    (∃ values, List.Forall₂ (fun item value => f item = .ok value) items values) ↔
      ∀ item ∈ items, ∃ value, f item = .ok value := by
  rw [← map_m_total]
  simp only [map_m_ok_iff]

-- Every exception that may come out is one of `kinds`.
def RaisesOnly (kinds : ε → Prop) (result : Except ε α) : Prop := ∀ error, result = .error error → kinds error

section

variable (kinds : ε → Prop)

theorem raises_only_ok (value : β) : RaisesOnly kinds (.ok value) := by
  intro error failed
  cases failed

theorem raises_only_error (error : ε) (kind : kinds error) : RaisesOnly kinds (.error error : Except ε β) := by
  intro other failed
  cases failed
  exact kind

end

end Fallible
