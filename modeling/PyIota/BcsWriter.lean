import PyIota.Codec
import PyIota.Library.Emitter
import PyIota.Library.Positional
import PyIota.Library.Leb128

set_option autoImplicit false

namespace PyIota

open Emitter Positional

-- The writer's only field is `_buf`. The exception state of a writer program is
-- the buffer as the failed call left it.
abbrev BcsWriter := Bytes
abbrev Writer (α : Type) := Emitter.Program PyError UInt8 α

def finish (body : Writer Unit) : Except PyError Bytes := emitted body

-- The message is an f-string, so formatting the number may itself raise.
def outOfRange (label : String) (value : Int) : PyError :=
  match formatInt value with
  | .ok text => .serializationError (str label ++ text)
  | .error error => error

def writeUnsigned (label : String) (size : Nat) (bound value : Int) : Writer Unit :=
  if ¬ (0 ≤ value ∧ value ≤ bound) then throw (outOfRange label value)
  else append (littleEndian size value.toNat)

def writeU8 (value : Int) : Writer Unit := writeUnsigned "u8 out of range: " 1 0xFF value
def writeU16 (value : Int) : Writer Unit := writeUnsigned "u16 out of range: " 2 0xFFFF value
def writeU32 (value : Int) : Writer Unit := writeUnsigned "u32 out of range: " 4 0xFFFF_FFFF value
def writeU64 (value : Int) : Writer Unit := writeUnsigned "u64 out of range: " 8 0xFFFF_FFFF_FFFF_FFFF value
def writeU128 (value : Int) : Writer Unit := writeUnsigned "u128 out of range: " 16 ((1 <<< 128) - 1) value
def writeU256 (value : Int) : Writer Unit := writeUnsigned "u256 out of range: " 32 ((1 <<< 256) - 1) value

def writeBool (value : Bool) : Writer Unit := append [if value then 1 else 0]

def writeUleb128Loop (value : Nat) : Writer Unit := do
  if 0x80 ≤ value then
    append [UInt8.ofNat ((value &&& 0x7F) ||| 0x80)]
    writeUleb128Loop (value >>> 7)
  else append [UInt8.ofNat value]
termination_by value
decreasing_by
  rw [Nat.shiftRight_eq_div_pow]
  omega

def writeUleb128 (value : Int) : Writer Unit :=
  if value < 0 then throw (outOfRange "ULEB128 cannot encode negative: " value)
  else writeUleb128Loop value.toNat

def writeBytes (data : Bytes) : Writer Unit := do
  writeUleb128 data.length
  append data

def writeStr (value : Str) : Writer Unit := do
  let data ← MonadExcept.ofExcept (encodeUtf8 value)
  writeBytes data

def writeFixedBytes (data : Bytes) : Writer Unit := append data
def writeVectorLength (length : Int) : Writer Unit := writeUleb128 length
def writeVariantIndex (index : Int) : Writer Unit := writeUleb128 index
def writeOptionNone : Writer Unit := append [0]
def writeOptionSome : Writer Unit := append [1]

def U64Range (value : Int) : Prop := 0 ≤ value ∧ value ≤ 0xFFFF_FFFF_FFFF_FFFF
instance (value : Int) : Decidable (U64Range value) := inferInstanceAs (Decidable (_ ∧ _))

-- What each primitive writes, as a value: an encoding or an exception.
def encodeUnsigned (label : String) (size : Nat) (bound value : Int) : Except PyError Bytes :=
  if 0 ≤ value ∧ value ≤ bound then .ok (littleEndian size value.toNat) else .error (outOfRange label value)

def encodeUleb128 (value : Int) : Except PyError Bytes :=
  if value < 0 then .error (outOfRange "ULEB128 cannot encode negative: " value)
  else .ok (Leb128.encode value.toNat)

def encodeBytes (data : Bytes) : Bytes := Leb128.encode data.length ++ data

def encodeStr (value : Str) : Except PyError Bytes := (encodeUtf8 value).map encodeBytes

theorem write_unsigned_eq (label : String) (size : Nat) (bound value : Int) :
    writeUnsigned label size bound value = write (encodeUnsigned label size bound value) := by
  unfold writeUnsigned encodeUnsigned
  by_cases inRange : 0 ≤ value ∧ value ≤ bound
  · rw [if_neg (not_not.mpr inRange), if_pos inRange]
    rfl
  · rw [if_pos inRange, if_neg inRange]
    rfl

theorem write_uleb128_loop_eq (value : Nat) : writeUleb128Loop value = append (Leb128.encode value) := by
  induction value using Nat.strong_induction_on with
  | _ value ih =>
      rw [writeUleb128Loop]
      by_cases large : 0x80 ≤ value
      · have smaller : value / 2 ^ 7 < value := by omega
        rw [if_pos large, Nat.shiftRight_eq_div_pow, ih _ smaller, append_seq,
          Leb128.encode_large value (by omega)]
        rfl
      · rw [if_neg large, Leb128.encode, if_pos (by omega)]

theorem write_uleb128_eq (value : Int) : writeUleb128 value = write (encodeUleb128 value) := by
  unfold writeUleb128 encodeUleb128
  split
  · rfl
  · exact write_uleb128_loop_eq value.toNat

theorem encode_uleb128_nat (value : Nat) : encodeUleb128 value = .ok (Leb128.encode value) := by
  rw [encodeUleb128, if_neg (by omega), Int.toNat_natCast]

theorem write_bytes_eq (data : Bytes) : writeBytes data = append (encodeBytes data) := by
  unfold writeBytes encodeBytes
  rw [write_uleb128_eq, encode_uleb128_nat]
  exact append_seq _ data

theorem write_str_eq (value : Str) : writeStr value = write (encodeStr value) := by
  unfold writeStr encodeStr
  cases encodeUtf8 value with
  | ok data => exact write_bytes_eq data
  | error error => rfl

theorem write_vector_length_eq (length : Nat) :
    writeVectorLength length = append (Leb128.encode length) := by
  rw [writeVectorLength, write_uleb128_eq, encode_uleb128_nat]
  rfl

theorem write_variant_index_eq (index : Nat) :
    writeVariantIndex index = append (Leb128.encode index) := write_vector_length_eq index

theorem encode_unsigned_ok (label : String) (size : Nat) (bound value : Int) (bytes : Bytes)
    (encoded : encodeUnsigned label size bound value = .ok bytes) :
    0 ≤ value ∧ value ≤ bound ∧ bytes = littleEndian size value.toNat := by
  unfold encodeUnsigned at encoded
  split at encoded
  · rename_i inRange
    exact ⟨inRange.1, inRange.2, (Except.ok.inj encoded).symm⟩
  · cases encoded

theorem encode_str_ok (value : Str) (bytes : Bytes) (encoded : encodeStr value = .ok bytes) :
    ∃ data, encodeUtf8 value = .ok data ∧ bytes = encodeBytes data := by
  unfold encodeStr at encoded
  cases utf8 : encodeUtf8 value with
  | error error =>
      rw [utf8] at encoded
      cases encoded
  | ok data =>
      rw [utf8] at encoded
      cases encoded
      exact ⟨data, rfl, rfl⟩

end PyIota
