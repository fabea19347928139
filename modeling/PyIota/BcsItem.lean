import PyIota.BcsReader

set_option autoImplicit false

namespace PyIota

open Emitter Cursor Positional

-- One writer call with its argument, which is also what the matching read
-- returns: the kind of the primitive and its value.
inductive Item where
  | u8 (value : Int)
  | u16 (value : Int)
  | u32 (value : Int)
  | u64 (value : Int)
  | u128 (value : Int)
  | u256 (value : Int)
  | bool (value : Bool)
  | uleb128 (value : Int)
  | vectorLength (length : Int)
  | variantIndex (index : Int)
  | bytes (data : Bytes)
  | str (value : Str)
  | fixedBytes (data : Bytes)
  | optionNone
  | optionSome

def Item.write : Item → Writer Unit
  | .u8 value => writeU8 value
  | .u16 value => writeU16 value
  | .u32 value => writeU32 value
  | .u64 value => writeU64 value
  | .u128 value => writeU128 value
  | .u256 value => writeU256 value
  | .bool value => writeBool value
  | .uleb128 value => writeUleb128 value
  | .vectorLength length => writeVectorLength length
  | .variantIndex index => writeVariantIndex index
  | .bytes data => writeBytes data
  | .str value => writeStr value
  | .fixedBytes data => writeFixedBytes data
  | .optionNone => writeOptionNone
  | .optionSome => writeOptionSome

inductive Shape where
  | u8
  | u16
  | u32
  | u64
  | u128
  | u256
  | bool
  | uleb128
  | vectorLength
  | variantIndex
  | bytes
  | str
  | fixedBytes (length : Int)
  | option

def Shape.read : Shape → Reader Item
  | .u8 => do let value ← readU8; pure (.u8 value)
  | .u16 => do let value ← readU16; pure (.u16 value)
  | .u32 => do let value ← readU32; pure (.u32 value)
  | .u64 => do let value ← readU64; pure (.u64 value)
  | .u128 => do let value ← readU128; pure (.u128 value)
  | .u256 => do let value ← readU256; pure (.u256 value)
  | .bool => do let value ← readBool; pure (.bool value)
  | .uleb128 => do let value ← readUleb128; pure (.uleb128 value)
  | .vectorLength => do let length ← readVectorLength; pure (.vectorLength length)
  | .variantIndex => do let index ← readVariantIndex; pure (.variantIndex index)
  | .bytes => do let data ← readBytes; pure (.bytes data)
  | .str => do let value ← readStr; pure (.str value)
  | .fixedBytes length => do let data ← readFixedBytes length; pure (.fixedBytes data)
  | .option => do let isSome ← readOptionIsSome; pure (if isSome then .optionSome else .optionNone)

def Item.shape : Item → Shape
  | .u8 _ => .u8
  | .u16 _ => .u16
  | .u32 _ => .u32
  | .u64 _ => .u64
  | .u128 _ => .u128
  | .u256 _ => .u256
  | .bool _ => .bool
  | .uleb128 _ => .uleb128
  | .vectorLength _ => .vectorLength
  | .variantIndex _ => .variantIndex
  | .bytes _ => .bytes
  | .str _ => .str
  | .fixedBytes data => .fixedBytes data.length
  | .optionNone => .option
  | .optionSome => .option

def Item.encoding : Item → Except PyError Bytes
  | .u8 value => encodeUnsigned "u8 out of range: " 1 0xFF value
  | .u16 value => encodeUnsigned "u16 out of range: " 2 0xFFFF value
  | .u32 value => encodeUnsigned "u32 out of range: " 4 0xFFFF_FFFF value
  | .u64 value => encodeUnsigned "u64 out of range: " 8 0xFFFF_FFFF_FFFF_FFFF value
  | .u128 value => encodeUnsigned "u128 out of range: " 16 ((1 <<< 128) - 1) value
  | .u256 value => encodeUnsigned "u256 out of range: " 32 ((1 <<< 256) - 1) value
  | .bool value => .ok [if value then 1 else 0]
  | .uleb128 value => encodeUleb128 value
  | .vectorLength length => encodeUleb128 length
  | .variantIndex index => encodeUleb128 index
  | .bytes data => .ok (encodeBytes data)
  | .str value => encodeStr value
  | .fixedBytes data => .ok data
  | .optionNone => .ok [0]
  | .optionSome => .ok [1]

theorem item_write_eq (item : Item) : item.write = write item.encoding := by
  cases item with
  | u8 value => exact write_unsigned_eq _ _ _ value
  | u16 value => exact write_unsigned_eq _ _ _ value
  | u32 value => exact write_unsigned_eq _ _ _ value
  | u64 value => exact write_unsigned_eq _ _ _ value
  | u128 value => exact write_unsigned_eq _ _ _ value
  | u256 value => exact write_unsigned_eq _ _ _ value
  | bool value => rfl
  | uleb128 value => exact write_uleb128_eq value
  | vectorLength length => exact write_uleb128_eq length
  | variantIndex index => exact write_uleb128_eq index
  | bytes data => exact write_bytes_eq data
  | str value => exact write_str_eq value
  | fixedBytes data => rfl
  | optionNone => rfl
  | optionSome => rfl

-- The values that have an encoding.
def Item.Fits : Item → Prop
  | .u8 value => 0 ≤ value ∧ value ≤ 0xFF
  | .u16 value => 0 ≤ value ∧ value ≤ 0xFFFF
  | .u32 value => 0 ≤ value ∧ value ≤ 0xFFFF_FFFF
  | .u64 value => 0 ≤ value ∧ value ≤ 0xFFFF_FFFF_FFFF_FFFF
  | .u128 value => 0 ≤ value ∧ value ≤ (1 <<< 128) - 1
  | .u256 value => 0 ≤ value ∧ value ≤ (1 <<< 256) - 1
  | .uleb128 value => 0 ≤ value
  | .vectorLength length => 0 ≤ length
  | .variantIndex index => 0 ≤ index
  | .str text => encodable text
  | _ => True

instance (item : Item) : Decidable item.Fits :=
  match item with
  | .u8 _ | .u16 _ | .u32 _ | .u64 _ | .u128 _ | .u256 _ => inferInstanceAs (Decidable (_ ∧ _))
  | .uleb128 value | .vectorLength value | .variantIndex value => inferInstanceAs (Decidable (0 ≤ value))
  | .str text => inferInstanceAs (Decidable (encodable text))
  | .bool _ | .bytes _ | .fixedBytes _ | .optionNone | .optionSome => inferInstanceAs (Decidable True)

theorem encodes_unsigned (label : String) (size : Nat) (bound value : Int) :
    (∃ data, encodeUnsigned label size bound value = .ok data) ↔ 0 ≤ value ∧ value ≤ bound := by
  unfold encodeUnsigned
  by_cases inRange : 0 ≤ value ∧ value ≤ bound
  · simp [inRange]
  · simp [inRange]

theorem encodes_uleb128 (value : Int) : (∃ data, encodeUleb128 value = .ok data) ↔ 0 ≤ value := by
  unfold encodeUleb128
  by_cases negative : value < 0
  · simp [negative]
  · simp [if_neg negative]
    omega

theorem encodes_str (text : Str) : (∃ data, encodeStr text = .ok data) ↔ encodable text := by
  unfold encodeStr encodeUtf8
  by_cases valid : encodable text
  · simp [valid, Except.map]
  · simp [valid, Except.map]

theorem item_encodes (item : Item) : (∃ data, item.encoding = .ok data) ↔ item.Fits := by
  cases item with
  | u8 value => exact encodes_unsigned _ _ _ value
  | u16 value => exact encodes_unsigned _ _ _ value
  | u32 value => exact encodes_unsigned _ _ _ value
  | u64 value => exact encodes_unsigned _ _ _ value
  | u128 value => exact encodes_unsigned _ _ _ value
  | u256 value => exact encodes_unsigned _ _ _ value
  | uleb128 value => exact encodes_uleb128 value
  | vectorLength length => exact encodes_uleb128 length
  | variantIndex index => exact encodes_uleb128 index
  | str text => exact encodes_str text
  | bool value => exact iff_of_true ⟨_, rfl⟩ trivial
  | bytes data => exact iff_of_true ⟨_, rfl⟩ trivial
  | fixedBytes data => exact iff_of_true ⟨_, rfl⟩ trivial
  | optionNone => exact iff_of_true ⟨_, rfl⟩ trivial
  | optionSome => exact iff_of_true ⟨_, rfl⟩ trivial

-- The numbers a ULEB128 field may carry. No Python object holds 2^64 bytes.
def Item.Below64 : Item → Prop
  | .uleb128 value => value < 2 ^ 64
  | .vectorLength length => length < 2 ^ 64
  | .variantIndex index => index < 2 ^ 64
  | .bytes data => data.length < 2 ^ 64
  | .str value => ∀ data, encodeUtf8 value = .ok data → data.length < 2 ^ 64
  | _ => True

theorem unsigned_number_reads (label : String) (size : Nat) (bound value : Int) (bytes : Bytes)
    (program : Reader Nat) (takes : Takes program size ofLittleEndian) (limit : bound < 256 ^ size)
    (encoded : encodeUnsigned label size bound value = .ok bytes) :
    (value.toNat : Int) = value ∧ Reads program bytes value.toNat := by
  obtain ⟨nonneg, within, rfl⟩ := encode_unsigned_ok label size bound value bytes encoded
  have fits : value.toNat < 256 ^ size := by
    have below : (value.toNat : Int) < (256 ^ size : Nat) := by
      rw [Int.toNat_of_nonneg nonneg]
      push_cast
      exact Int.lt_of_le_of_lt within limit
    exact_mod_cast below
  have number := takes_reads program size ofLittleEndian (littleEndian size value.toNat) takes
    (length_little_endian size value.toNat)
  rw [of_little_endian_little_endian size value.toNat fits] at number
  exact ⟨Int.toNat_of_nonneg nonneg, number⟩

theorem unsigned_reads (label : String) (size : Nat) (bound value : Int) (bytes : Bytes)
    (program : Reader Nat) (takes : Takes program size ofLittleEndian) (limit : bound < 256 ^ size)
    (encoded : encodeUnsigned label size bound value = .ok bytes) (wrap : Int → Item) :
    Reads (do let number ← program; pure (wrap number)) bytes (wrap value) := by
  obtain ⟨whole, number⟩ := unsigned_number_reads label size bound value bytes program takes limit encoded
  simpa only [whole] using reads_map program (fun n : Nat => wrap n) _ _ number

theorem uleb128_reads (value : Int) (bytes : Bytes) (below : value < 2 ^ 64)
    (encoded : encodeUleb128 value = .ok bytes) (wrap : Int → Item) :
    Reads (do let number ← readUleb128; pure (wrap number)) bytes (wrap value) := by
  unfold encodeUleb128 at encoded
  split at encoded
  · cases encoded
  · rename_i nonneg
    have same := Except.ok.inj encoded
    have whole : (value.toNat : Int) = value := Int.toNat_of_nonneg (by omega)
    have number := read_uleb128_encode value.toNat (by omega)
    rw [same] at number
    simpa only [whole] using reads_map readUleb128 (fun n : Nat => wrap n) bytes value.toNat number

theorem read_tag_reads (label : String) (value : Bool) : Reads (readTag label) [if value then 1 else 0] value := by
  apply reads_then readU8 _ _ (if value then 1 else 0) value
  · have byte := takes_reads readU8 1 ofLittleEndian [if value then 1 else 0] read_u8_takes rfl
    cases value <;> simpa using byte
  · cases value <;> exact reads_pure _

theorem item_reads (item : Item) (bytes : Bytes) (below : item.Below64) (encoded : item.encoding = .ok bytes) :
    Reads item.shape.read bytes item := by
  cases item with
  | u8 value => exact unsigned_reads _ 1 0xFF value bytes readU8 read_u8_takes (by decide) encoded .u8
  | u16 value => exact unsigned_reads _ 2 0xFFFF value bytes readU16 (read_packed_takes 2) (by decide) encoded .u16
  | u32 value =>
      exact unsigned_reads _ 4 0xFFFF_FFFF value bytes readU32 (read_packed_takes 4) (by decide) encoded .u32
  | u64 value =>
      exact unsigned_reads _ 8 0xFFFF_FFFF_FFFF_FFFF value bytes readU64 (read_packed_takes 8) (by decide) encoded .u64
  | u128 value =>
      exact unsigned_reads _ 16 ((1 <<< 128) - 1) value bytes readU128 read_u128_takes (by decide) encoded .u128
  | u256 value =>
      exact unsigned_reads _ 32 ((1 <<< 256) - 1) value bytes readU256 read_u256_takes (by decide) encoded .u256
  | bool value =>
      rw [← Except.ok.inj encoded]
      exact reads_map readBool Item.bool _ value (read_tag_reads _ value)
  | uleb128 value => exact uleb128_reads value bytes below encoded .uleb128
  | vectorLength length => exact uleb128_reads length bytes below encoded .vectorLength
  | variantIndex index => exact uleb128_reads index bytes below encoded .variantIndex
  | bytes data =>
      rw [← Except.ok.inj encoded]
      exact reads_map readBytes Item.bytes _ data (read_bytes_reads data below)
  | str value =>
      obtain ⟨data, utf8, rfl⟩ := encode_str_ok value bytes encoded
      exact reads_map readStr Item.str _ value (read_str_reads value data utf8 (below data utf8))
  | fixedBytes data =>
      rw [← Except.ok.inj encoded]
      exact reads_map (readFixedBytes data.length) Item.fixedBytes data data
        (takes_reads (readSliced data.length) data.length id data (read_sliced_takes data.length) rfl)
  | optionNone =>
      rw [← Except.ok.inj encoded]
      exact reads_map readOptionIsSome (fun isSome => if isSome then Item.optionSome else .optionNone) _ false
        (read_tag_reads _ false)
  | optionSome =>
      rw [← Except.ok.inj encoded]
      exact reads_map readOptionIsSome (fun isSome => if isSome then Item.optionSome else .optionNone) _ true
        (read_tag_reads _ true)

end PyIota
