import Mathlib

set_option autoImplicit false

namespace Base64

-- Sixty-four symbols for the values of six bits, and one that is none of them.
structure Alphabet (α : Type) where
  symbol : Nat → α
  value : α → Option Nat
  pad : α
  value_symbol : ∀ sextet, sextet < 64 → value (symbol sextet) = some sextet
  value_pad : value pad = none

variable {α : Type} (alphabet : Alphabet α)

def encode : List UInt8 → List α
  | [] => []
  | [a] => [alphabet.symbol (a.toNat / 4), alphabet.symbol (a.toNat % 4 * 16), alphabet.pad, alphabet.pad]
  | [a, b] => [alphabet.symbol (a.toNat / 4), alphabet.symbol (a.toNat % 4 * 16 + b.toNat / 16),
      alphabet.symbol (b.toNat % 16 * 4), alphabet.pad]
  | a :: b :: c :: rest =>
      alphabet.symbol (a.toNat / 4) :: alphabet.symbol (a.toNat % 4 * 16 + b.toNat / 16) ::
        alphabet.symbol (b.toNat % 16 * 4 + c.toNat / 64) :: alphabet.symbol (c.toNat % 64) :: encode rest

-- Padding stands at the end only, and the bits it leaves over are zero.
def decode [DecidableEq α] : List α → Option (List UInt8)
  | [] => some []
  | w :: x :: y :: z :: rest =>
      match alphabet.value w, alphabet.value x, alphabet.value y, alphabet.value z with
      | some first, some second, some third, some fourth => do
          let data ← decode rest
          return UInt8.ofNat (first * 4 + second / 16) :: UInt8.ofNat (second % 16 * 16 + third / 4) ::
            UInt8.ofNat (third % 4 * 64 + fourth) :: data
      | some first, some second, some third, none =>
          if z = alphabet.pad ∧ rest = [] ∧ third % 4 = 0 then
            some [UInt8.ofNat (first * 4 + second / 16), UInt8.ofNat (second % 16 * 16 + third / 4)]
          else none
      | some first, some second, none, none =>
          if y = alphabet.pad ∧ z = alphabet.pad ∧ rest = [] ∧ second % 16 = 0 then
            some [UInt8.ofNat (first * 4 + second / 16)]
          else none
      | _, _, _, _ => none
  | _ => none

theorem byte_of_value (byte : UInt8) (value : Nat) (same : value = byte.toNat) : UInt8.ofNat value = byte := by
  rw [same]
  exact UInt8.ofNat_toNat

theorem decode_encode [DecidableEq α] (data : List UInt8) : decode alphabet (encode alphabet data) = some data := by
  fun_induction encode alphabet data with
  | case1 => rfl
  | case2 a =>
      have bound := a.toNat_lt
      have first := alphabet.value_symbol (a.toNat / 4) (by omega)
      have second := alphabet.value_symbol (a.toNat % 4 * 16) (by omega)
      have byte := byte_of_value a (a.toNat / 4 * 4 + a.toNat % 4 * 16 / 16) (by omega)
      have spare : a.toNat % 4 * 16 % 16 = 0 := by omega
      simp only [decode, first, second, alphabet.value_pad, byte, spare, true_and, if_pos]
  | case3 a b =>
      have boundA := a.toNat_lt
      have boundB := b.toNat_lt
      have first := alphabet.value_symbol (a.toNat / 4) (by omega)
      have second := alphabet.value_symbol (a.toNat % 4 * 16 + b.toNat / 16) (by omega)
      have third := alphabet.value_symbol (b.toNat % 16 * 4) (by omega)
      have byteA := byte_of_value a (a.toNat / 4 * 4 + (a.toNat % 4 * 16 + b.toNat / 16) / 16) (by omega)
      have byteB := byte_of_value b ((a.toNat % 4 * 16 + b.toNat / 16) % 16 * 16 + b.toNat % 16 * 4 / 4) (by omega)
      have spare : b.toNat % 16 * 4 % 4 = 0 := by omega
      simp only [decode, first, second, third, alphabet.value_pad, byteA, byteB, spare, true_and, if_pos]
  | case4 a b c rest ih =>
      have boundA := a.toNat_lt
      have boundB := b.toNat_lt
      have boundC := c.toNat_lt
      have first := alphabet.value_symbol (a.toNat / 4) (by omega)
      have second := alphabet.value_symbol (a.toNat % 4 * 16 + b.toNat / 16) (by omega)
      have third := alphabet.value_symbol (b.toNat % 16 * 4 + c.toNat / 64) (by omega)
      have fourth := alphabet.value_symbol (c.toNat % 64) (by omega)
      have byteA := byte_of_value a (a.toNat / 4 * 4 + (a.toNat % 4 * 16 + b.toNat / 16) / 16) (by omega)
      have byteB := byte_of_value b
        ((a.toNat % 4 * 16 + b.toNat / 16) % 16 * 16 + (b.toNat % 16 * 4 + c.toNat / 64) / 4) (by omega)
      have byteC := byte_of_value c ((b.toNat % 16 * 4 + c.toNat / 64) % 4 * 64 + c.toNat % 64) (by omega)
      simp only [decode, first, second, third, fourth, ih, byteA, byteB, byteC]
      rfl

end Base64
