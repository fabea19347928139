import Mathlib

set_option autoImplicit false

-- Big-endian numerals in one base, kept with their leading zeros. A numeral is
-- determined by how many zeros it starts with and by the number it denotes.
namespace Numeral

def value (base : Nat) (digits : List Nat) : Nat := digits.foldl (fun total digit => total * base + digit) 0

def leadingZeros : List Nat → Nat
  | [] => 0
  | digit :: rest => if digit = 0 then leadingZeros rest + 1 else 0

def spell (base zeros number : Nat) : List Nat :=
  List.replicate zeros 0 ++ (Nat.digits base number).reverse

theorem fold_eq_of_digits (base : Nat) (digits : List Nat) (start : Nat) :
    digits.foldl (fun total digit => total * base + digit) start =
      start * base ^ digits.length + Nat.ofDigits base digits.reverse := by
  induction digits generalizing start with
  | nil => simp
  | cons digit rest ih =>
      rw [List.foldl_cons, ih, List.reverse_cons, Nat.ofDigits_append, List.length_reverse, List.length_cons]
      simp [Nat.pow_succ]
      ring

theorem value_eq_of_digits (base : Nat) (digits : List Nat) :
    value base digits = Nat.ofDigits base digits.reverse := by
  simpa [value] using fold_eq_of_digits base digits 0

theorem value_replicate_zeros (base zeros : Nat) (digits : List Nat) :
    value base (List.replicate zeros 0 ++ digits) = value base digits := by
  induction zeros with
  | zero => rfl
  | succ zeros ih => simpa [value, List.replicate_succ] using ih

theorem value_spell (base zeros number : Nat) : value base (spell base zeros number) = number := by
  rw [spell, value_replicate_zeros, value_eq_of_digits, List.reverse_reverse, Nat.ofDigits_digits]

theorem leading_zeros_replicate (zeros : Nat) (digits : List Nat) (nonzero : digits.head? ≠ some 0) :
    leadingZeros (List.replicate zeros 0 ++ digits) = zeros := by
  induction zeros with
  | zero =>
      cases digits with
      | nil => rfl
      | cons digit rest =>
          have positive : digit ≠ 0 := by simpa using nonzero
          simp [leadingZeros, positive]
  | succ zeros ih => simp [List.replicate_succ, leadingZeros, ih]

theorem digits_reverse_head (base number : Nat) :
    (Nat.digits base number).reverse.head? ≠ some 0 := by
  rw [List.head?_reverse]
  intro last
  have nonempty : Nat.digits base number ≠ [] := by
    intro empty
    simp [empty] at last
  have zero : (Nat.digits base number).getLast nonempty = 0 := by
    rw [List.getLast?_eq_some_getLast nonempty] at last
    exact Option.some.inj last
  exact Nat.getLast_digit_ne_zero base (Nat.digits_ne_nil_iff_ne_zero.mp nonempty) zero

theorem leading_zeros_spell (base zeros number : Nat) :
    leadingZeros (spell base zeros number) = zeros :=
  leading_zeros_replicate zeros _ (digits_reverse_head base number)

theorem spell_value (base : Nat) (digits : List Nat) (large : 1 < base) (valid : ∀ digit ∈ digits, digit < base) :
    spell base (leadingZeros digits) (value base digits) = digits := by
  induction digits with
  | nil => simp [spell, leadingZeros, value]
  | cons digit rest ih =>
      by_cases zero : digit = 0
      · subst zero
        have tail := ih (fun d member => valid d (List.mem_cons_of_mem _ member))
        have same : value base (0 :: rest) = value base rest := value_replicate_zeros base 1 rest
        rw [same, leadingZeros, if_pos rfl, spell, List.replicate_succ, List.cons_append]
        exact congrArg (List.cons 0) tail
      · -- no leading zero: the reversed list is a canonical digit list already
        have canonical : Nat.digits base (Nat.ofDigits base (digit :: rest).reverse) = (digit :: rest).reverse := by
          apply Nat.digits_ofDigits base large
          · intro d member
            exact valid d (List.mem_reverse.mp member)
          · intro nonempty
            simpa using zero
        rw [leadingZeros, if_neg zero, spell, value_eq_of_digits, canonical]
        simp

theorem spell_digits_lt (base zeros number : Nat) (large : 1 < base) :
    ∀ digit ∈ spell base zeros number, digit < base := by
  intro digit member
  rcases List.mem_append.mp member with zero | nonzero
  · rw [(List.mem_replicate.mp zero).2]
    omega
  · exact Nat.digits_lt_base large (List.mem_reverse.mp nonzero)

end Numeral
