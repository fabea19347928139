import Mathlib

set_option autoImplicit false

namespace Positional

-- The number a byte sequence spells in base 256, least significant byte first.
def ofLittleEndian (bytes : List UInt8) : Nat := Nat.ofDigits 256 (bytes.map UInt8.toNat)

def littleEndian (size value : Nat) : List UInt8 :=
  match size with
  | 0 => []
  | size + 1 => UInt8.ofNat (value % 256) :: littleEndian size (value / 256)

@[simp] theorem of_little_endian_nil : ofLittleEndian [] = 0 := rfl

@[simp] theorem of_little_endian_cons (byte : UInt8) (rest : List UInt8) :
    ofLittleEndian (byte :: rest) = byte.toNat + 256 * ofLittleEndian rest := by
  simp [ofLittleEndian, Nat.ofDigits_cons]

@[simp] theorem length_little_endian (size value : Nat) : (littleEndian size value).length = size := by
  induction size generalizing value with
  | zero => rfl
  | succ size ih => simp [littleEndian, ih]

theorem byte_digits_lt (bytes : List UInt8) : ∀ digit ∈ bytes.map UInt8.toNat, digit < 256 := by
  intro digit member
  obtain ⟨byte, _, rfl⟩ := List.mem_map.mp member
  exact byte.toNat_lt

theorem of_little_endian_lt (bytes : List UInt8) : ofLittleEndian bytes < 256 ^ bytes.length := by
  simpa [ofLittleEndian] using Nat.ofDigits_lt_base_pow_length (by decide : 1 < 256) (byte_digits_lt bytes)

theorem of_little_endian_little_endian (size value : Nat) (fits : value < 256 ^ size) :
    ofLittleEndian (littleEndian size value) = value := by
  induction size generalizing value with
  | zero =>
      have zero : value = 0 := by simpa using fits
      simp [littleEndian, zero]
  | succ size ih =>
      have quotient : value / 256 < 256 ^ size := by
        rw [Nat.div_lt_iff_lt_mul (by decide)]
        simpa [Nat.pow_succ] using fits
      have low : (UInt8.ofNat (value % 256)).toNat = value % 256 :=
        UInt8.toNat_ofNat_of_lt' (Nat.mod_lt value (by decide))
      rw [littleEndian, of_little_endian_cons, ih _ quotient, low]
      exact Nat.mod_add_div value 256

theorem little_endian_of_little_endian (bytes : List UInt8) :
    littleEndian bytes.length (ofLittleEndian bytes) = bytes := by
  induction bytes with
  | nil => rfl
  | cons byte rest ih =>
      have bound := byte.toNat_lt
      have low : (byte.toNat + 256 * ofLittleEndian rest) % 256 = byte.toNat := by omega
      have high : (byte.toNat + 256 * ofLittleEndian rest) / 256 = ofLittleEndian rest := by omega
      rw [List.length_cons, littleEndian, of_little_endian_cons, low, high, ih]
      simp

end Positional
