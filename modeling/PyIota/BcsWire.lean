import PyIota.TransactionValue
import PyIota.Library.Wire

set_option autoImplicit false

namespace PyIota

open Emitter Cursor Wire Positional

-- No Python object holds 2^64 bytes or items.
def wireLimit : Nat := 2 ^ 64

theorem carries_encoding {α : Type} (encoding : Except PyError Bytes) (reader : Reader α) (means : α → Prop)
    (each : ∀ out, encoding = .ok out → out.length < wireLimit → ∃ value, means value ∧ Reads reader out value) :
    Carries (write encoding) reader wireLimit means := by
  refine ⟨framed_write encoding, ?_⟩
  rw [emitted_write]
  exact each

theorem carries_variant_index (index : Nat) (small : index < wireLimit) :
    Carries (writeVariantIndex index) readVariantIndex wireLimit (· = index) := by
  rw [write_variant_index_eq]
  refine carries_encoding (.ok _) _ _ ?_
  intro out written _
  rw [← Except.ok.inj written]
  exact ⟨index, rfl, read_uleb128_encode index small⟩

theorem carries_unsigned (label : String) (size : Nat) (bound value : Int) (program : Reader Nat)
    (takes : Takes program size ofLittleEndian) (limit : bound < 256 ^ size) :
    Carries (writeUnsigned label size bound value) program wireLimit (fun number => (number : Int) = value) := by
  rw [write_unsigned_eq]
  refine carries_encoding _ _ _ ?_
  intro out written _
  obtain ⟨whole, reads⟩ := unsigned_number_reads label size bound value out program takes limit written
  exact ⟨value.toNat, whole, reads⟩

theorem carries_u16 (value : Int) :
    Carries (writeU16 value) readU16 wireLimit (fun number => (number : Int) = value) :=
  carries_unsigned _ 2 0xFFFF value readU16 (read_packed_takes 2) (by decide)

theorem carries_u64 (value : Int) :
    Carries (writeU64 value) readU64 wireLimit (fun number => (number : Int) = value) :=
  carries_unsigned _ 8 0xFFFF_FFFF_FFFF_FFFF value readU64 (read_packed_takes 8) (by decide)

theorem carries_bool (value : Bool) : Carries (writeBool value) readBool wireLimit (· = value) := by
  refine carries_encoding (.ok [if value then 1 else 0]) _ _ ?_
  intro out written _
  rw [← Except.ok.inj written]
  exact ⟨value, rfl, read_tag_reads _ value⟩

theorem carries_fixed_bytes (data : Bytes) (size : Nat) (sized : data.length = size) :
    Carries (writeFixedBytes data) (readFixedBytes size) wireLimit (· = data) := by
  refine carries_encoding (.ok data) _ _ ?_
  intro out written _
  rw [← Except.ok.inj written]
  exact ⟨data, rfl, takes_reads (readSliced size) size id data (read_sliced_takes size) sized⟩

theorem carries_bytes (data : Bytes) : Carries (writeBytes data) readBytes wireLimit (· = data) := by
  rw [write_bytes_eq]
  refine carries_encoding (.ok _) _ _ ?_
  intro out written short
  rw [← Except.ok.inj written, encodeBytes, List.length_append] at short
  rw [← Except.ok.inj written]
  exact ⟨data, rfl, read_bytes_reads data (Nat.lt_of_le_of_lt (Nat.le_add_left _ _) short)⟩

theorem carries_str (text : Str) : Carries (writeStr text) readStr wireLimit (· = text) := by
  rw [write_str_eq]
  refine carries_encoding _ _ _ ?_
  intro out written short
  obtain ⟨data, encoded, rfl⟩ := encode_str_ok text out written
  rw [encodeBytes, List.length_append] at short
  exact ⟨text, rfl, read_str_reads text data encoded (Nat.lt_of_le_of_lt (Nat.le_add_left _ _) short)⟩

theorem framed_vector {α : Type} (items : List α) (writeItem : α → Writer Unit)
    (framed : ∀ item, Framed (writeItem item)) : Framed (writeVector items writeItem) := by
  refine framed_bind _ _ ?_ (fun _ => framed_for_m items writeItem framed)
  rw [write_vector_length_eq]
  exact framed_append _

-- The items' own bytes bound their number, so the length prefix fits.
theorem carries_vector {α β : Type} (items : List α) (writeItem : α → Writer Unit) (readItem : Reader β)
    (limit : Nat) (within : limit ≤ wireLimit) (means : α → β → Prop) (framed : ∀ item, Framed (writeItem item))
    (productive : ∀ item ∈ items, Productive (writeItem item))
    (each : ∀ item ∈ items, Carries (writeItem item) readItem limit (means item)) :
    Carries (writeVector items writeItem) (readVector readItem) limit (fun values => List.Forall₂ means items values) := by
  refine ⟨framed_vector items writeItem framed, ?_⟩
  intro out written short
  have framedLoop := framed_for_m items writeItem framed
  have loop := carries_for_m items writeItem readItem limit means framed each
  obtain ⟨head, tail, headWritten, tailWritten, rfl⟩ := (emitted_seq_ok _ _ framedLoop out).mp written
  rw [List.length_append] at short
  have count := length_le_of_productive items writeItem framed productive tail tailWritten
  obtain ⟨length, rfl, headReads⟩ := (carries_variant_index items.length (by omega)).2 head headWritten (by omega)
  obtain ⟨values, holds, tailReads⟩ := loop.2 tail tailWritten (by omega)
  exact ⟨values, holds, reads_bind readVectorLength _ head tail items.length values headReads tailReads⟩

theorem productive_variant_index (index : Nat) : Productive (writeVariantIndex index) := by
  rw [write_variant_index_eq]
  exact productive_append _ (Leb128.encode_ne_nil index)

theorem productive_bytes (data : Bytes) : Productive (writeBytes data) := by
  rw [write_bytes_eq]
  exact productive_append _ (by simp [encodeBytes, Leb128.encode_ne_nil])

theorem framed_variant_index (index : Nat) : Framed (writeVariantIndex index) := by
  rw [write_variant_index_eq]
  exact framed_append _

theorem framed_unsigned (label : String) (size : Nat) (bound value : Int) :
    Framed (writeUnsigned label size bound value) := by
  rw [write_unsigned_eq]
  exact framed_write _

theorem framed_fixed_bytes (data : Bytes) : Framed (writeFixedBytes data) := framed_append data

theorem framed_bytes (data : Bytes) : Framed (writeBytes data) := by
  rw [write_bytes_eq]
  exact framed_append _

theorem framed_str (text : Str) : Framed (writeStr text) := by
  rw [write_str_eq]
  exact framed_write _

theorem framed_serialized (data : Except PyError Bytes) : Framed (writeSerialized data) := by
  rw [write_serialized_eq]
  exact framed_write data

theorem framed_assert_some {α : Type} (option : Option α) (body : α → Writer Unit)
    (framed : ∀ value, Framed (body value)) : Framed (assertSome option >>= body) := by
  refine framed_bind _ _ ?_ framed
  cases option with
  | none => exact framed_throw _
  | some value => exact framed_pure value

-- A tagged branch: the tag is read back and leads the reader to its own branch.
theorem carries_tagged {α : Type} (index : Nat) (small : index < wireLimit) (body : Writer Unit)
    (branch : Nat → Reader α) (means : α → Prop) (carries : Carries body (branch index) wireLimit means) :
    Carries (writeVariantIndex index >>= fun _ => body) (readVariantIndex >>= branch) wireLimit means := by
  refine carries_seq _ _ _ branch wireLimit _ means (carries_variant_index index small) ?_ carries.1
  rintro _ rfl
  exact carries

theorem carries_serialized {α : Type} (body : Writer Unit) (reader : Reader α) (means : α → Prop)
    (carries : Carries body reader wireLimit means) :
    Carries (writeSerialized (finish body)) reader wireLimit means := by
  rw [write_serialized_eq]
  exact carries_write body reader wireLimit means carries

theorem productive_serialized (body : Writer Unit) (productive : Productive body) :
    Productive (writeSerialized (finish body)) := by
  rw [write_serialized_eq]
  exact productive_write body productive

end PyIota
