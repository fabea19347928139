import Mathlib

set_option autoImplicit false

namespace Leb128

-- Seven-bit groups, least significant first; the high bit of a byte says that
-- another group follows.
def encode (value : Nat) : List UInt8 :=
  if value < 0x80 then [UInt8.ofNat value]
  else UInt8.ofNat ((value &&& 0x7F) ||| 0x80) :: encode (value >>> 7)
termination_by value
decreasing_by
  rw [Nat.shiftRight_eq_div_pow]
  omega

def group (byte : UInt8) : Nat := byte.toNat &&& 0x7F

def value : List UInt8 → Nat
  | [] => 0
  | byte :: rest => group byte + 128 * value rest

def Terminated : List UInt8 → Prop
  | [] => False
  | byte :: rest => if byte.toNat < 0x80 then rest = [] else Terminated rest

-- The encoding at the front of a stream ends in a zero group after at least one
-- other group, which adds nothing to its value.
def Padded : List UInt8 → Prop
  | [] => False
  | byte :: rest => 0x80 ≤ byte.toNat ∧ (rest.head? = some 0 ∨ Padded rest)

theorem group_eq_mod (byte : UInt8) : group byte = byte.toNat % 128 :=
  Nat.and_two_pow_sub_one_eq_mod byte.toNat 7

theorem group_lt (byte : UInt8) : group byte < 128 := by
  rw [group_eq_mod]
  exact Nat.mod_lt _ (by decide)

theorem value_lt (bytes : List UInt8) : value bytes < 128 ^ bytes.length := by
  induction bytes with
  | nil => simp [value]
  | cons byte rest ih =>
      have low := group_lt byte
      rw [value, List.length_cons, Nat.pow_succ]
      omega

theorem value_append (front rest : List UInt8) :
    value (front ++ rest) = value front + 128 ^ front.length * value rest := by
  induction front with
  | nil => simp [value]
  | cons byte front ih =>
      rw [List.cons_append, value, ih, value, List.length_cons, Nat.pow_succ]
      ring

theorem terminated_iff (bytes : List UInt8) : Terminated bytes ↔
    ∃ front last, bytes = front ++ [last] ∧ (∀ byte ∈ front, 0x80 ≤ byte.toNat) ∧ last.toNat < 0x80 := by
  induction bytes with
  | nil => simp [Terminated]
  | cons byte rest ih =>
      by_cases small : byte.toNat < 0x80
      · rw [Terminated, if_pos small]
        refine ⟨?_, ?_⟩
        · intro restNil
          exact ⟨[], byte, by simp [restNil], by simp, small⟩
        · intro ⟨front, last, split, high, _⟩
          cases front with
          | nil => simp_all
          | cons first front =>
              obtain ⟨rfl, _⟩ := List.cons.inj split
              have large := high byte List.mem_cons_self
              omega
      · rw [Terminated, if_neg small, ih]
        refine ⟨?_, ?_⟩
        · intro ⟨front, last, split, high, low⟩
          refine ⟨byte :: front, last, by rw [split, List.cons_append], ?_, low⟩
          rw [List.forall_mem_cons]
          exact ⟨by omega, high⟩
        · intro ⟨front, last, split, high, low⟩
          cases front with
          | nil =>
              obtain ⟨rfl, _⟩ := List.cons.inj split
              omega
          | cons first front =>
              obtain ⟨_, restEq⟩ := List.cons.inj split
              exact ⟨front, last, restEq, fun b member => high b (List.mem_cons_of_mem _ member), low⟩

theorem continuation_byte (n : Nat) : (UInt8.ofNat ((n &&& 0x7F) ||| 0x80)).toNat = n % 128 + 128 := by
  have low : n &&& 0x7F = n % 128 := Nat.and_two_pow_sub_one_eq_mod n 7
  have small : n % 128 < 2 ^ 7 := Nat.mod_lt n (by decide)
  have joined : 0x80 ||| n % 128 = 0x80 + n % 128 := (Nat.two_pow_add_eq_or_of_lt small 1).symm
  have sum : n % 128 ||| 0x80 = n % 128 + 128 := by rw [Nat.or_comm, joined, Nat.add_comm]
  rw [low, sum]
  exact UInt8.toNat_ofNat_of_lt' (by change n % 128 + 128 < 256; omega)

theorem encode_small (n : Nat) (small : n < 0x80) : encode n = [UInt8.ofNat n] := by
  rw [encode, if_pos small]

theorem encode_large (n : Nat) (large : ¬ n < 0x80) :
    encode n = UInt8.ofNat ((n &&& 0x7F) ||| 0x80) :: encode (n / 128) := by
  rw [encode, if_neg large, Nat.shiftRight_eq_div_pow]

theorem small_byte (n : Nat) (small : n < 0x80) : (UInt8.ofNat n).toNat = n :=
  UInt8.toNat_ofNat_of_lt' (by change n < 256; omega)

theorem encode_terminated (n : Nat) : Terminated (encode n) := by
  induction n using Nat.strong_induction_on with
  | _ n ih =>
      by_cases small : n < 0x80
      · simp [encode_small n small, Terminated, small_byte n small, small]
      · have last : ¬ (UInt8.ofNat ((n &&& 0x7F) ||| 0x80)).toNat < 0x80 := by
          rw [continuation_byte]
          omega
        rw [encode_large n small, Terminated, if_neg last]
        exact ih (n / 128) (by omega)

theorem value_encode (n : Nat) : value (encode n) = n := by
  induction n using Nat.strong_induction_on with
  | _ n ih =>
      by_cases small : n < 0x80
      · rw [encode_small n small, value, value, group_eq_mod, small_byte n small]
        omega
      · rw [encode_large n small, value, ih (n / 128) (by omega), group_eq_mod, continuation_byte]
        omega

theorem encode_ne_nil (n : Nat) : encode n ≠ [] := by
  intro empty
  have terminated := encode_terminated n
  rw [empty] at terminated
  exact terminated

-- k groups hold exactly the numbers below 128^k.
theorem length_encode_le (n size : Nat) (positive : 0 < size) (fits : n < 128 ^ size) :
    (encode n).length ≤ size := by
  induction n using Nat.strong_induction_on generalizing size with
  | _ n ih =>
      by_cases small : n < 0x80
      · rw [encode_small n small]
        exact positive
      · obtain ⟨count, rfl⟩ : ∃ count, size = count + 1 := ⟨size - 1, by omega⟩
        have more : 0 < count := by
          rcases Nat.eq_zero_or_pos count with zero | more
          · subst zero
            omega
          · exact more
        have quotient : n / 128 < 128 ^ count := by
          rw [Nat.div_lt_iff_lt_mul (by decide)]
          simpa [Nat.pow_succ] using fits
        rw [encode_large n small, List.length_cons]
        exact Nat.succ_le_succ (ih (n / 128) (by omega) count more quotient)

theorem terminated_zero_head (bytes : List UInt8) (done : Terminated bytes) (zero : bytes.head? = some 0) :
    bytes = [0] := by
  cases bytes with
  | nil => exact done.elim
  | cons byte rest =>
      have first : byte = 0 := by simpa using zero
      subst first
      have restNil : rest = [] := by simpa [Terminated] using done
      rw [restNil]

theorem padded_append (bytes after : List UInt8) (done : Terminated bytes) :
    Padded (bytes ++ after) ↔ Padded bytes := by
  induction bytes with
  | nil => exact done.elim
  | cons byte rest ih =>
      by_cases last : byte.toNat < 0x80
      · have no : ¬ 0x80 ≤ byte.toNat := by omega
        simp [Padded, no]
      · have restDone : Terminated rest := by simpa [Terminated, last] using done
        have head : (rest ++ after).head? = rest.head? := by
          cases rest with
          | nil => exact restDone.elim
          | cons next tail => rfl
        simp only [List.cons_append, Padded, head, ih restDone]

theorem value_zero_padded (bytes : List UInt8) (done : Terminated bytes) (zero : value bytes = 0) :
    bytes = [0] ∨ Padded bytes := by
  induction bytes with
  | nil => exact done.elim
  | cons byte rest ih =>
      rw [value] at zero
      by_cases last : byte.toNat < 0x80
      · have restNil : rest = [] := by simpa [Terminated, last] using done
        have byteZero : byte.toNat = 0 := by
          rw [group_eq_mod] at zero
          omega
        left
        rw [restNil, UInt8.toNat_inj.mp (byteZero.trans UInt8.toNat_zero.symm)]
      · right
        have restDone : Terminated rest := by simpa [Terminated, last] using done
        refine ⟨by omega, ?_⟩
        rcases ih restDone (by omega) with single | deeper
        · left
          rw [single]
          rfl
        · right
          exact deeper

-- Among the encodings of a number, the unpadded one is the writer's.
theorem encode_value (bytes : List UInt8) (done : Terminated bytes) (minimal : ¬ Padded bytes) :
    encode (value bytes) = bytes := by
  induction bytes with
  | nil => exact done.elim
  | cons byte rest ih =>
      by_cases last : byte.toNat < 0x80
      · have restNil : rest = [] := by simpa [Terminated, last] using done
        subst restNil
        have low : value [byte] = byte.toNat := by
          rw [value, value, group_eq_mod]
          omega
        rw [low, encode_small _ last]
        simp
      · have restDone : Terminated rest := by simpa [Terminated, last] using done
        have notZero : rest ≠ [0] := by
          rintro rfl
          exact minimal ⟨by omega, Or.inl rfl⟩
        have restMinimal : ¬ Padded rest := fun padded => minimal ⟨by omega, Or.inr padded⟩
        have positive : value rest ≠ 0 := fun zero =>
          (value_zero_padded rest restDone zero).elim notZero restMinimal
        have large : ¬ value (byte :: rest) < 0x80 := by
          rw [value]
          omega
        have quotient : value (byte :: rest) / 128 = value rest := by
          have low := group_lt byte
          rw [value]
          omega
        have first : UInt8.ofNat ((value (byte :: rest) &&& 0x7F) ||| 0x80) = byte := by
          apply UInt8.toNat_inj.mp
          have bound := byte.toNat_lt
          rw [continuation_byte, value, group_eq_mod]
          omega
        rw [encode_large _ large, quotient, ih restDone restMinimal, first]

theorem length_encode_value_le (bytes : List UInt8) (done : Terminated bytes) :
    (encode (value bytes)).length ≤ bytes.length := by
  induction bytes with
  | nil => exact done.elim
  | cons byte rest ih =>
      by_cases small : value (byte :: rest) < 0x80
      · simp [encode_small _ small]
      · have last : ¬ byte.toNat < 0x80 := by
          intro last
          have restNil : rest = [] := by simpa [Terminated, last] using done
          rw [restNil, value, value, group_eq_mod] at small
          omega
        have restDone : Terminated rest := by simpa [Terminated, last] using done
        have quotient : value (byte :: rest) / 128 = value rest := by
          have low := group_lt byte
          rw [value]
          omega
        rw [encode_large _ small, quotient]
        exact Nat.succ_le_succ (ih restDone)

theorem length_encode_value_lt (bytes : List UInt8) (done : Terminated bytes) (padded : Padded bytes) :
    (encode (value bytes)).length < bytes.length := by
  induction bytes with
  | nil => exact done.elim
  | cons byte rest ih =>
      by_cases last : byte.toNat < 0x80
      · have no := padded.1
        omega
      · have restDone : Terminated rest := by simpa [Terminated, last] using done
        have restLong : 0 < rest.length := by
          cases rest with
          | nil => exact restDone.elim
          | cons next tail => exact Nat.succ_pos _
        have cases : rest = [0] ∨ Padded rest := padded.2.imp_left (terminated_zero_head rest restDone)
        by_cases small : value (byte :: rest) < 0x80
        · simpa [encode_small _ small] using restLong
        · have quotient : value (byte :: rest) / 128 = value rest := by
            have low := group_lt byte
            rw [value]
            omega
          rw [encode_large _ small, quotient]
          rcases cases with zero | deeper
          · subst zero
            have low := group_lt byte
            exact absurd (by rw [value]; simpa [value, group] using low) small
          · exact Nat.succ_lt_succ (ih restDone deeper)

end Leb128
