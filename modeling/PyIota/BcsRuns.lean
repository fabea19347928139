import PyIota.BcsItem

set_option autoImplicit false

namespace PyIota

open Emitter Cursor Positional

-- The caller catches the exception of a failed call and goes on with the next:
-- the calls that did not raise, and the buffer after all of them.
def writeAll : List Item → BcsWriter → List Item × BcsWriter
  | [], buffer => ([], buffer)
  | item :: rest, buffer =>
      match item.write.run buffer with
      | .ok _ next => (item :: (writeAll rest next).1, (writeAll rest next).2)
      | .error _ next => writeAll rest next

def readAll : List Shape → Reader (List Item)
  | [] => pure []
  | shape :: rest => do
      let item ← shape.read
      let items ← readAll rest
      pure (item :: items)

theorem failed_write_appends_nothing (item : Item) (buffer final : BcsWriter) (error : PyError)
    (failed : item.write.run buffer = .error error final) : final = buffer := by
  rw [item_write_eq] at failed
  exact (write_error item.encoding buffer final error failed).1

theorem write_all_reads (items : List Item) (buffer : BcsWriter) (below : ∀ item ∈ items, item.Below64) :
    ∃ out, (writeAll items buffer).2 = buffer ++ out ∧
      Reads (readAll ((writeAll items buffer).1.map Item.shape)) out (writeAll items buffer).1 := by
  induction items generalizing buffer with
  | nil => exact ⟨[], by simp [writeAll], reads_pure []⟩
  | cons item rest ih =>
      have restBelow : ∀ item ∈ rest, item.Below64 := fun i member => below i (List.mem_cons_of_mem _ member)
      cases step : item.write.run buffer with
      | error error next =>
          have same := failed_write_appends_nothing item buffer next error step
          subst same
          obtain ⟨out, bufferEq, reads⟩ := ih next restBelow
          simp only [writeAll, step]
          exact ⟨out, bufferEq, reads⟩
      | ok value next =>
          have write := step
          rw [item_write_eq] at write
          obtain ⟨head, encoded, rfl⟩ := write_ok item.encoding buffer next write
          obtain ⟨tail, bufferEq, reads⟩ := ih (buffer ++ head) restBelow
          have first := item_reads item head (below item List.mem_cons_self) encoded
          refine ⟨head ++ tail, ?_, ?_⟩
          · simp only [writeAll, step, bufferEq, List.append_assoc]
          · simp only [writeAll, step, List.map_cons, readAll]
            exact reads_bind item.shape.read _ head tail item _ first
              (reads_map (readAll _) (item :: ·) tail _ reads)

-- Reading back and writing again. Only the primitives that begin with a ULEB128
-- number have more than one accepted encoding.
def Shape.prefixed : Shape → Prop
  | .uleb128 | .vectorLength | .variantIndex | .bytes | .str => True
  | _ => False

def Shape.nonNegative : Shape → Prop
  | .fixedBytes length => 0 ≤ length
  | _ => True

def unread (reader : BcsReader) : Bytes := reader.data.drop reader.pos.toNat

-- At no step does the cursor stand before a padded ULEB128 number that the
-- next read is about to take.
def MinimalRun : List Shape → BcsReader → Prop
  | [], _ => True
  | shape :: rest, reader =>
      ¬ (shape.prefixed ∧ Leb128.Padded (unread reader)) ∧
        match shape.read.run reader with
        | .ok _ next => MinimalRun rest next
        | .error _ _ => True

-- How the bytes a read consumed compare with those its value is written as.
def Explains (shape : Shape) (bytes : Bytes) (item : Item) : Prop :=
  ∃ out, item.encoding = .ok out ∧ out.length ≤ bytes.length ∧
    ∀ after, out = bytes ↔ ¬ (shape.prefixed ∧ Leb128.Padded (bytes ++ after))

theorem explains_exact (shape : Shape) (bytes : Bytes) (item : Item) (plain : ¬ shape.prefixed)
    (encoded : item.encoding = .ok bytes) : Explains shape bytes item :=
  ⟨bytes, encoded, Nat.le_refl _, fun _ => ⟨fun _ both => plain both.1, fun _ => rfl⟩⟩

theorem explains_prefixed (shape : Shape) (uleb data : Bytes) (item : Item) (prefixed : shape.prefixed)
    (done : Leb128.Terminated uleb) (encoded : item.encoding = .ok (Leb128.encode (Leb128.value uleb) ++ data)) :
    Explains shape (uleb ++ data) item := by
  refine ⟨_, encoded, ?_, ?_⟩
  · have short := Leb128.length_encode_value_le uleb done
    simp only [List.length_append]
    omega
  · intro after
    rw [List.append_assoc, Leb128.padded_append uleb (data ++ after) done]
    refine ⟨?_, ?_⟩
    · intro same ⟨_, padded⟩
      have longer := Leb128.length_encode_value_lt uleb done padded
      have lengths := congrArg List.length same
      simp only [List.length_append] at lengths
      omega
    · intro minimal
      rw [Leb128.encode_value uleb done (fun padded => minimal ⟨prefixed, padded⟩)]

theorem unsigned_yields (label : String) (size : Nat) (bound : Int) (program : Reader Nat)
    (takes : Takes program size ofLittleEndian) (limit : 256 ^ size ≤ bound + 1) (shape : Shape)
    (plain : ¬ shape.prefixed) (wrap : Int → Item)
    (encoding : ∀ value, (wrap value).encoding = encodeUnsigned label size bound value) :
    Yields (do let number ← program; pure (wrap number)) (Explains shape) := by
  apply yields_map program (fun n : Nat => wrap n) _ _ (takes_yields program size ofLittleEndian takes)
  rintro bytes number ⟨exact_, rfl⟩
  apply explains_exact shape bytes _ plain
  have below := of_little_endian_lt bytes
  rw [exact_] at below
  have within : (ofLittleEndian bytes : Int) ≤ bound := by
    have cast : (ofLittleEndian bytes : Int) < (256 ^ size : Nat) := by exact_mod_cast below
    push_cast at cast
    omega
  rw [encoding, encodeUnsigned, if_pos ⟨by omega, within⟩, Int.toNat_natCast, ← exact_,
    little_endian_of_little_endian]

theorem uleb128_yields (shape : Shape) (prefixed : shape.prefixed) (wrap : Int → Item)
    (encoding : ∀ value, (wrap value).encoding = encodeUleb128 value) :
    Yields (do let number ← readUleb128; pure (wrap number)) (Explains shape) := by
  apply yields_map readUleb128 (fun n : Nat => wrap n) _ _ read_uleb128_yields
  rintro bytes number ⟨done, _, rfl⟩
  have whole := explains_prefixed shape bytes [] (wrap (Leb128.value bytes)) prefixed done
    (by rw [encoding, encode_uleb128_nat, List.append_nil])
  rwa [List.append_nil] at whole

theorem read_bytes_yields :
    Yields readBytes (fun bytes data => ∃ uleb, bytes = uleb ++ data ∧ Leb128.Terminated uleb ∧
      uleb.length ≤ 10 ∧ Leb128.value uleb = data.length) := by
  have both := yields_bind readUleb128 (fun length => readSliced length) _ _ read_uleb128_yields
    (fun length => takes_yields (readSliced length) length id (read_sliced_takes length))
  apply yields_weaken _ _ _ both
  rintro bytes data ⟨length, uleb, tail, rfl, ⟨done, short, rfl⟩, exact_, rfl⟩
  exact ⟨uleb, rfl, done, short, exact_.symm⟩

theorem read_str_yields :
    Yields readStr (fun bytes text => ∃ uleb data, bytes = uleb ++ data ∧ Leb128.Terminated uleb ∧
      Leb128.value uleb = data.length ∧ encodeUtf8 text = .ok data) := by
  have both := yields_bind readBytes (fun data => MonadExcept.ofExcept (decodeUtf8 data)) _ _ read_bytes_yields
    (fun data => yields_of_except (decodeUtf8 data))
  apply yields_weaken _ _ _ both
  rintro bytes text ⟨data, head, tail, rfl, ⟨uleb, rfl, done, _, length⟩, rfl, decoded⟩
  exact ⟨uleb, data, by simp, done, length, encode_utf8_decode_utf8 text data decoded⟩

theorem read_tag_yields (label : String) :
    Yields (readTag label) (fun bytes value => bytes = [if value then 1 else 0]) := by
  have both := yields_bind readU8 (fun val => if val = 0 ∨ val = 1 then pure (decide (val = 1))
      else throw (invalidTag label val)) _ (fun val bytes result => bytes = [] ∧ (val = 0 ∨ val = 1) ∧
        result = decide (val = 1)) (takes_yields readU8 1 ofLittleEndian read_u8_takes) (by
    intro val
    split
    · rename_i tag
      apply yields_weaken _ _ _ (yields_pure (decide (val = 1)))
      rintro bytes result ⟨rfl, rfl⟩
      exact ⟨rfl, tag, rfl⟩
    · intro before rest value final run
      cases run)
  apply yields_weaken _ _ _ both
  rintro bytes result ⟨val, head, tail, rfl, ⟨length, rfl⟩, rfl, tag, rfl⟩
  obtain ⟨byte, rfl⟩ := List.length_eq_one_iff.mp length
  simp only [of_little_endian_cons, of_little_endian_nil] at tag ⊢
  rcases tag with zero | one
  · have byteEq : byte = 0 := UInt8.toNat_inj.mp (by simpa using zero)
    simp [byteEq]
  · have byteEq : byte = 1 := UInt8.toNat_inj.mp (by simpa using one)
    simp [byteEq]

theorem shape_yields (shape : Shape) (nonNegative : shape.nonNegative) : Yields shape.read (Explains shape) := by
  cases shape with
  | u8 => exact unsigned_yields _ 1 0xFF readU8 read_u8_takes (by decide) .u8 id .u8 (fun _ => rfl)
  | u16 => exact unsigned_yields _ 2 0xFFFF readU16 (read_packed_takes 2) (by decide) .u16 id .u16 (fun _ => rfl)
  | u32 =>
      exact unsigned_yields _ 4 0xFFFF_FFFF readU32 (read_packed_takes 4) (by decide) .u32 id .u32 (fun _ => rfl)
  | u64 =>
      exact unsigned_yields _ 8 0xFFFF_FFFF_FFFF_FFFF readU64 (read_packed_takes 8) (by decide) .u64 id .u64
        (fun _ => rfl)
  | u128 =>
      exact unsigned_yields _ 16 ((1 <<< 128) - 1) readU128 read_u128_takes (by decide) .u128 id .u128 (fun _ => rfl)
  | u256 =>
      exact unsigned_yields _ 32 ((1 <<< 256) - 1) readU256 read_u256_takes (by decide) .u256 id .u256 (fun _ => rfl)
  | bool =>
      apply yields_map readBool Item.bool _ _ (read_tag_yields _)
      rintro bytes value rfl
      exact explains_exact .bool _ _ id rfl
  | uleb128 => exact uleb128_yields .uleb128 trivial .uleb128 (fun _ => rfl)
  | vectorLength => exact uleb128_yields .vectorLength trivial .vectorLength (fun _ => rfl)
  | variantIndex => exact uleb128_yields .variantIndex trivial .variantIndex (fun _ => rfl)
  | bytes =>
      apply yields_map readBytes Item.bytes _ _ read_bytes_yields
      rintro bytes data ⟨uleb, rfl, done, _, length⟩
      exact explains_prefixed .bytes uleb data _ trivial done (by rw [length]; rfl)
  | str =>
      apply yields_map readStr Item.str _ _ read_str_yields
      rintro bytes text ⟨uleb, data, rfl, done, length, utf8⟩
      exact explains_prefixed .str uleb data _ trivial done (by rw [Item.encoding, encodeStr, utf8, length]; rfl)
  | fixedBytes length =>
      obtain ⟨size, rfl⟩ := Int.eq_ofNat_of_zero_le nonNegative
      apply yields_map (readFixedBytes size) Item.fixedBytes _ _
        (takes_yields (readSliced size) size id (read_sliced_takes size))
      rintro bytes data ⟨_, rfl⟩
      exact explains_exact _ _ _ id rfl
  | option =>
      apply yields_map readOptionIsSome (fun isSome => if isSome then Item.optionSome else .optionNone) _ _
        (read_tag_yields _)
      rintro bytes value rfl
      cases value <;> exact explains_exact _ _ _ id rfl

@[simp] theorem unread_behind (before rest : Bytes) : unread (behind before rest) = rest := by
  simp [unread, behind]

theorem items_write_framed (items : List Item) : Framed (items.forM Item.write) := by
  apply framed_for_m
  intro item
  rw [item_write_eq]
  exact framed_write item.encoding

theorem append_eq_append_of_length_le (outHead outTail head tail : Bytes) (headShort : outHead.length ≤ head.length)
    (tailShort : outTail.length ≤ tail.length) :
    outHead ++ outTail = head ++ tail ↔ outHead = head ∧ outTail = tail := by
  refine ⟨?_, ?_⟩
  · intro same
    have lengths := congrArg List.length same
    simp only [List.length_append] at lengths
    exact List.append_inj same (by omega)
  · rintro ⟨rfl, rfl⟩
    rfl

theorem read_all_explained (shapes : List Shape) (nonNegative : ∀ shape ∈ shapes, shape.nonNegative)
    (before rest : Bytes) (items : List Item) (final : BcsReader)
    (run : (readAll shapes).run (behind before rest) = .ok items final) :
    ∃ symbols after out, rest = symbols ++ after ∧ final = behind (before ++ symbols) after ∧
      finish (items.forM Item.write) = .ok out ∧ out.length ≤ symbols.length ∧
      (out = symbols ↔ MinimalRun shapes (behind before rest)) := by
  induction shapes generalizing before rest items with
  | nil =>
      obtain ⟨itemsEq, finalEq⟩ := EStateM.Result.ok.inj run
      refine ⟨[], rest, [], rfl, by simp [← finalEq], ?_, Nat.le_refl _, ?_⟩
      · rw [← itemsEq]
        rfl
      · simp [MinimalRun]
  | cons shape shapes ih =>
      have shapeValid := nonNegative shape List.mem_cons_self
      have restValid : ∀ shape ∈ shapes, shape.nonNegative := fun s member =>
        nonNegative s (List.mem_cons_of_mem _ member)
      simp only [readAll, EStateM.run_bind] at run
      cases first : shape.read.run (behind before rest) with
      | error error middle => simp [first] at run
      | ok item middle =>
          simp only [first] at run
          cases second : (readAll shapes).run middle with
          | error error last => simp [second] at run
          | ok tailItems last =>
              simp only [second, EStateM.run_pure] at run
              obtain ⟨rfl, rfl⟩ := EStateM.Result.ok.inj run
              obtain ⟨head, mid, rfl, rfl, outHead, encoded, headShort, headExact⟩ :=
                shape_yields shape shapeValid before rest item middle first
              obtain ⟨tail, after, out, rfl, rfl, written, tailShort, tailExact⟩ :=
                ih restValid (before ++ head) mid tailItems second
              have emittedHead : emitted item.write = .ok outHead := by rw [item_write_eq, emitted_write, encoded]
              refine ⟨head ++ tail, after, outHead ++ out, by simp, by simp, ?_, ?_, ?_⟩
              · exact (emitted_seq_ok item.write (tailItems.forM Item.write) (items_write_framed tailItems) _).mpr
                  ⟨outHead, out, emittedHead, written, rfl⟩
              · simp only [List.length_append]
                omega
              · rw [append_eq_append_of_length_le outHead out head tail headShort tailShort,
                  headExact (tail ++ after), tailExact]
                simp only [MinimalRun, unread_behind, first]

theorem rewrite_reproduces_iff_minimal (shapes : List Shape) (data : Bytes) (items : List Item) (final : BcsReader)
    (nonNegative : ∀ shape ∈ shapes, shape.nonNegative)
    (run : (readAll shapes).run (BcsReader.init data) = .ok items final) :
    finish (items.forM Item.write) = .ok (data.take final.pos.toNat) ↔
      MinimalRun shapes (BcsReader.init data) := by
  obtain ⟨symbols, after, out, rfl, rfl, written, _, exact_⟩ :=
    read_all_explained shapes nonNegative [] data items final run
  have consumed : (symbols ++ after).take (behind ([] ++ symbols) after).pos.toNat = symbols := by simp [behind]
  rw [consumed, written]
  refine ⟨?_, ?_⟩
  · intro same
    exact exact_.mp (Except.ok.inj same)
  · intro minimal
    rw [exact_.mpr minimal]

theorem written_message : writeAll [.vectorLength 2, .str (str "a"), .bool true] [] =
    ([.vectorLength 2, .str (str "a"), .bool true], [2, 1, 97, 1]) := by
  have length : encodeUleb128 2 = .ok [2] := by
    have encoded := encode_uleb128_nat 2
    rwa [Leb128.encode_small 2 (by decide)] at encoded
  have text : encodeStr (str "a") = .ok [1, 97] := by
    rw [encodeStr, show encodeUtf8 (str "a") = .ok [97] from rfl, Except.map, encodeBytes,
      Leb128.encode_small _ (by decide)]
    rfl
  simp only [writeAll, item_write_eq, Item.encoding, length, text]
  rfl

theorem rewrite_reproduces_iff_minimal_run :
    finish ([Item.vectorLength 2, .str (str "a"), .bool true].forM Item.write) =
        .ok (([2, 1, 97, 1, 7] : Bytes).take 4) ↔
      MinimalRun [.vectorLength, .str, .bool] (BcsReader.init [2, 1, 97, 1, 7]) := by
  have run : (readAll [.vectorLength, .str, .bool]).run (BcsReader.init [2, 1, 97, 1, 7]) =
      .ok [.vectorLength 2, .str (str "a"), .bool true] ⟨[2, 1, 97, 1, 7], 4⟩ := by
    obtain ⟨out, bufferEq, reads⟩ := write_all_reads [.vectorLength 2, .str (str "a"), .bool true] [] (by
      intro item member
      simp only [List.mem_cons, List.not_mem_nil, or_false] at member
      rcases member with rfl | rfl | rfl
      · simp [Item.Below64]
      · intro data utf8
        cases utf8
        decide
      · trivial)
    rw [written_message] at bufferEq reads
    obtain rfl : [2, 1, 97, 1] = out := bufferEq
    exact reads [] [7]
  refine rewrite_reproduces_iff_minimal [.vectorLength, .str, .bool] [2, 1, 97, 1, 7] _ _ ?_ run
  intro shape member
  simp only [List.mem_cons, List.not_mem_nil, or_false] at member
  rcases member with rfl | rfl | rfl <;> trivial

theorem read_all_single (shape : Shape) (bytes : Bytes) (item : Item) (reads : Reads shape.read bytes item) :
    Reads (readAll [shape]) bytes [item] :=
  reads_then shape.read _ bytes item [item] reads (reads_pure [item])

-- 80 00 is read as zero, which is written as the single byte 00.
theorem padded_zero_is_not_reproduced :
    ¬ ∀ (shapes : List Shape) (data : Bytes) (items : List Item) (final : BcsReader),
      (∀ shape ∈ shapes, shape.nonNegative) → (readAll shapes).run (BcsReader.init data) = .ok items final →
        finish (items.forM Item.write) = .ok (data.take final.pos.toNat) := by
  intro canonical
  have read : Reads readUleb128 [0x80, 0] 0 := by
    simpa [Leb128.value, Leb128.group] using
      read_uleb128_reads [0x80, 0] (by simp [Leb128.Terminated]) (by decide)
  have run := read_all_single .uleb128 [0x80, 0] _
    (reads_map readUleb128 (fun n : Nat => Item.uleb128 n) [0x80, 0] 0 read) [] []
  have same := canonical [.uleb128] [0x80, 0] _ _ (by simp [Shape.nonNegative]) run
  have written : finish ([Item.uleb128 ((0 : Nat) : Int)].forM Item.write) = .ok [0] := by
    have one := encode_uleb128_nat 0
    rw [Leb128.encode_small 0 (by decide)] at one
    exact (emitted_seq_ok (Item.uleb128 0).write (pure ()) (framed_pure ()) [0]).mpr
      ⟨[0], [], by rw [item_write_eq, emitted_write]; exact one, rfl, rfl⟩
  rw [written] at same
  simp [behind] at same

end PyIota
