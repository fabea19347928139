import PyIota.BcsWire

set_option autoImplicit false

namespace PyIota

open Emitter Cursor Wire Positional

-- The tag byte pays for one level of nesting.
theorem carries_nested {α : Type} (index : Nat) (small : index < wireLimit) (body : Writer Unit)
    (branch : Nat → Reader α) (fuel : Nat) (means : α → Prop)
    (carries : Carries body (branch index) (min wireLimit fuel) means) :
    Carries (writeVariantIndex index >>= fun _ => body) (readVariantIndex >>= branch) (min wireLimit (fuel + 1)) means := by
  refine ⟨framed_bind _ _ (framed_variant_index index) (fun _ => carries.1), ?_⟩
  intro out written short
  obtain ⟨head, tail, headWritten, tailWritten, rfl⟩ := (emitted_seq_ok _ _ carries.1 out).mp written
  have headLength := List.length_pos_iff.mpr (productive_variant_index index head headWritten)
  rw [List.length_append] at short
  obtain ⟨_, rfl, headReads⟩ := (carries_variant_index index small).2 head headWritten (by omega)
  obtain ⟨value, holds, tailReads⟩ := carries.2 tail tailWritten (by omega)
  exact ⟨value, holds, reads_bind readVariantIndex branch head tail _ value headReads tailReads⟩

-- A list of tags is written by a loop, so that the vector rule applies to it.
theorem encode_all_emitted (tags : List TypeTag) :
    TypeTag.encodeAll tags = emitted (tags.forM fun tag => write tag.encode) := by
  induction tags with
  | nil => rfl
  | cons tag tags ih =>
      have step := emitted_seq (write tag.encode) (tags.forM fun tag => write tag.encode)
        (framed_for_m tags _ fun tag => framed_write _)
      rw [emitted_write, ← ih] at step
      exact step.symm

theorem primitive_emitted (type : Primitive) :
    (TypeTag.primitive type).encode = emitted (writeVariantIndex type.variant.toNat >>= fun _ => pure ()) := by
  have small : type.variant.toNat < 0x80 := by cases type <;> decide
  rw [bind_pure_unit, write_variant_index_eq, emitted_append, Leb128.encode_small _ small, UInt8.ofNat_toNat]
  rfl

theorem vector_emitted (element : TypeTag) :
    (TypeTag.vector element).encode = emitted (writeVariantIndex TypeTagKind.vector.index >>= fun _ => write element.encode) := by
  rw [emitted_seq _ _ (framed_write _), write_variant_index_eq, emitted_append, emitted_write,
    Leb128.encode_small TypeTagKind.vector.index (by decide)]
  rfl

theorem struct_emitted (address : Bytes) (module name : Str) (params : List TypeTag) :
    (TypeTag.struct address module name params).encode = emitted (do
      writeVariantIndex TypeTagKind.struct.index
      writeFixedBytes address
      writeStr module
      writeStr name
      writeVector params fun tag => write tag.encode) := by
  have vector := framed_vector params (fun tag => write tag.encode) fun tag => framed_write _
  have nameFramed := framed_bind _ _ (framed_str name) fun _ => vector
  have moduleFramed := framed_bind _ _ (framed_str module) fun _ => nameFramed
  rw [emitted_seq _ _ (framed_bind _ _ (framed_fixed_bytes address) fun _ => moduleFramed),
    emitted_seq _ _ moduleFramed, emitted_seq _ _ nameFramed, emitted_seq _ _ vector, writeVector,
    emitted_seq _ _ (framed_for_m params _ fun tag => framed_write _), ← encode_all_emitted, write_vector_length_eq,
    write_variant_index_eq, write_str_eq, write_str_eq, writeFixedBytes, TypeTag.encode]
  simp only [emitted_append, emitted_write, Leb128.encode_small TypeTagKind.struct.index (by decide)]
  cases encodeStr module with
  | error error => rfl
  | ok moduleData =>
      cases encodeStr name with
      | error error => rfl
      | ok nameData => cases TypeTag.encodeAll params <;> rfl

theorem productive_tag (tag : TypeTag) : Productive (write tag.encode) := by
  have leading (index : Nat) (body : Writer Unit) (framed : Framed body) :
      Productive (write (emitted (writeVariantIndex index >>= fun _ => body))) :=
    productive_write _ (productive_seq _ _ framed (Or.inl (productive_variant_index index)))
  cases tag with
  | primitive type =>
      rw [primitive_emitted]
      exact leading _ _ (framed_pure ())
  | vector element =>
      rw [vector_emitted]
      exact leading _ _ (framed_write _)
  | struct address module name params =>
      rw [struct_emitted]
      refine leading _ _ (framed_bind _ _ (framed_fixed_bytes address) fun _ => framed_bind _ _ (framed_str module)
        fun _ => framed_bind _ _ (framed_str name) fun _ => framed_vector _ _ fun _ => framed_write _)

inductive TypeTag.Sized : TypeTag → Prop where
  | primitive (type : Primitive) : TypeTag.Sized (.primitive type)
  | vector (element : TypeTag) (inner : element.Sized) : TypeTag.Sized (.vector element)
  | struct (address : Bytes) (module name : Str) (params : List TypeTag) (sized : address.length = 32)
      (each : ∀ param ∈ params, param.Sized) : TypeTag.Sized (.struct address module name params)

theorem spelled_sized (tag : TypeTag) (text : Str) (spelled : Spells tag text) : tag.Sized := by
  induction spelled with
  | primitive type => exact .primitive type
  | vector element text _ ih => exact .vector element ih
  | struct address addressStr module name params addressValid _ _ _ ih =>
      refine .struct address module name _ addressValid.2.1 ?_
      intro tag member
      obtain ⟨param, inParams, rfl⟩ := List.mem_map.mp member
      exact ih param inParams

theorem slotted_type_encoded (text : Str) (taken : Taken text) (slotted : ¬ UnslottedType text) :
    ∃ tag : TypeTag, tag.Sized ∧ serializeTypeTag text = tag.encode := by
  induction taken with
  | primitive type => exact ⟨_, .primitive type, serialize_primitive type⟩
  | vector element _ ih =>
      obtain ⟨tag, sized, encoded⟩ := ih fun unslotted => slotted (.vector element unslotted)
      exact ⟨_, .vector tag sized, serialize_vector element tag encoded⟩
  | struct text addressStr module name other notVector parts pairs moduleValid nameValid each ih =>
      have taken : Taken text := .struct text addressStr module name other notVector parts pairs moduleValid nameValid each
      obtain ⟨address, decoded⟩ := fromhex_of_hex_pairs _ pairs
      have sized : address.length = 32 := by
        by_contra unsized
        exact slotted (.struct text addressStr module name address taken other notVector parts decoded unsized)
      have pieces (param : Str) (member : param ∈ structParams text) := ih param member fun unslotted =>
        slotted (.param text param taken other notVector member unslotted)
      have inhabited : Nonempty TypeTag := ⟨.primitive .bool⟩
      choose! tagOf tagSized encoded using pieces
      refine ⟨.struct address module name ((structParams text).map tagOf), .struct address module name _ sized ?_, ?_⟩
      · intro tag member
        obtain ⟨param, inParams, rfl⟩ := List.mem_map.mp member
        exact tagSized param inParams
      · apply serialize_struct text addressStr module name address _ other notVector parts decoded
        rw [List.forall₂_map_right_iff, List.forall₂_same]
        exact encoded

theorem sized_tag_carries (tag : TypeTag) (sized : tag.Sized) (fuel : Nat) :
    Carries (write tag.encode) (readTypeTagFuel fuel) (min wireLimit fuel) (· = tag) := by
  induction sized generalizing fuel with
  | primitive type =>
      cases fuel with
      | zero => exact ⟨framed_write _, fun out _ short => by omega⟩
      | succ fuel =>
          rw [primitive_emitted]
          refine carries_write _ _ _ _ (carries_nested _ ?_ _ _ fuel _ ?_)
          · exact Nat.lt_trans type.variant.toNat_lt (by decide)
          · cases type <;> exact carries_pure _ _
  | vector element _ ih =>
      cases fuel with
      | zero => exact ⟨framed_write _, fun out _ short => by omega⟩
      | succ fuel =>
          rw [vector_emitted]
          refine carries_write _ _ _ _ (carries_nested TypeTagKind.vector.index (by decide) _ _ fuel _ ?_)
          refine carries_map _ _ _ _ _ _ (ih fuel) ?_
          rintro _ rfl
          rfl
  | struct address module name params sized _ ih =>
      cases fuel with
      | zero => exact ⟨framed_write _, fun out _ short => by omega⟩
      | succ fuel =>
          have le : min wireLimit fuel ≤ wireLimit := Nat.min_le_left _ _
          have vector := framed_vector params (fun tag => write tag.encode) fun tag => framed_write _
          rw [struct_emitted]
          refine carries_write _ _ _ _ (carries_nested TypeTagKind.struct.index (by decide) _ _ fuel _ ?_)
          refine carries_seq _ _ _ _ _ _ _ (carries_below _ _ _ _ _ le (carries_fixed_bytes address 32 sized)) ?_
            (framed_bind _ _ (framed_str module) fun _ => framed_bind _ _ (framed_str name) fun _ => vector)
          rintro _ rfl
          refine carries_seq _ _ _ _ _ _ _ (carries_below _ _ _ _ _ le (carries_str module)) ?_
            (framed_bind _ _ (framed_str name) fun _ => vector)
          rintro _ rfl
          refine carries_seq _ _ _ _ _ _ _ (carries_below _ _ _ _ _ le (carries_str name)) ?_ vector
          rintro _ rfl
          have loop := carries_vector params (fun tag => write tag.encode) (readTypeTagFuel fuel)
            (min wireLimit fuel) le (fun tag value => value = tag) (fun tag => framed_write _)
            (fun tag _ => productive_tag tag) (fun tag member => ih tag member fuel)
          refine carries_map _ _ _ _ _ _ loop ?_
          intro values matched
          have same : List.Forall₂ (· = ·) values params := matched.flip
          rw [List.forall₂_eq_eq_eq] at same
          rw [same]

-- The tag a type is written as, which is the one it spells if it spells one.
theorem slotted_type_tag (text : Str) (slotted : ¬ UnslottedType text) (data : Bytes)
    (encoded : serializeTypeTag text = .ok data) :
    ∃ tag : TypeTag, tag.Sized ∧ tag.encode = .ok data ∧ (MoveType text → Spells tag text) := by
  by_cases type : MoveType text
  · obtain ⟨tag, spelled⟩ := move_type_spelled text type
    exact ⟨tag, spelled_sized tag text spelled, by rw [← serialize_spelling tag text spelled, encoded], fun _ => spelled⟩
  · obtain ⟨tag, sized, tagEncoded⟩ := slotted_type_encoded text (taken_of_accepted text ⟨data, encoded⟩) slotted
    exact ⟨tag, sized, by rw [← tagEncoded, encoded], fun spelled => absurd spelled type⟩

-- The decoder's own fuel is enough wherever the tag stands in the data.
theorem carries_type_tag (text : Str) (slotted : ¬ UnslottedType text) :
    Carries (writeSerialized (serializeTypeTag text)) readTypeTag wireLimit (fun tag => MoveType text → Spells tag text) := by
  rw [write_serialized_eq]
  refine ⟨framed_write _, ?_⟩
  intro out written short
  rw [emitted_write] at written
  obtain ⟨tag, sized, encoded, spelled⟩ := slotted_type_tag text slotted out written
  refine ⟨tag, spelled, ?_⟩
  intro before after
  have deep : out.length < min wireLimit ((behind before (out ++ after)).data.length + 1) := by
    rw [lt_min_iff]
    refine ⟨short, ?_⟩
    simp only [behind, List.length_append]
    omega
  obtain ⟨_, rfl, reads⟩ := (sized_tag_carries tag sized _).2 out (by rw [emitted_write, encoded]) deep
  simp only [readTypeTag, EStateM.run_bind, EStateM.run_get]
  exact reads before after

theorem productive_type_tag (text : Str) (slotted : ¬ UnslottedType text) :
    Productive (writeSerialized (serializeTypeTag text)) := by
  rw [write_serialized_eq]
  intro out written
  rw [emitted_write] at written
  obtain ⟨tag, _, encoded, _⟩ := slotted_type_tag text slotted out written
  exact productive_tag tag out (by rw [emitted_write, encoded])

end PyIota
