import PyIota.ReaderCursor

set_option autoImplicit false

namespace PyIota

open Emitter Cursor Fallible

def Shape.Reports (shape : Shape) (reader : BcsReader) : Prop :=
  ∀ error final, shape.read.run reader = .error error final → error.isSerializationError

structure Item.Reports (item : Item) (buffer : BcsWriter) : Prop where
  appended : ∀ value final, item.write.run buffer = .ok value final →
    ∃ out, item.encoding = .ok out ∧ final = buffer ++ out
  raised : ∀ error final, item.write.run buffer = .error error final → error.isSerializationError

-- A read of the bytes ahead that fails with an exception from outside the engine:
-- a whole length-prefixed field that is no string's UTF-8, or a refused length
-- too long for the message.
def Shape.Foreign (shape : Shape) (ahead : Bytes) : Prop :=
  match shape with
  | .str => ∃ uleb data rest, ahead = uleb ++ (data ++ rest) ∧ Leb128.Terminated uleb ∧ uleb.length ≤ 10 ∧
      Leb128.value uleb = data.length ∧ ∀ text, encodeUtf8 text ≠ .ok data
  | .fixedBytes length => Unprintable length ∧ ahead.length < length
  | _ => False

def Item.Foreign : Item → Prop
  | .u8 value => Unprintable value
  | .u16 value => Unprintable value
  | .u32 value => Unprintable value
  | .u64 value => Unprintable value
  | .u128 value => Unprintable value
  | .u256 value => Unprintable value
  | .uleb128 value => value < 0 ∧ Unprintable value
  | .vectorLength length => length < 0 ∧ Unprintable length
  | .variantIndex index => index < 0 ∧ Unprintable index
  | .str value => ¬ encodable value
  | _ => False

theorem decode_utf8_fails_iff (data : Bytes) :
    decodeUtf8 data = .error (.builtin .unicodeDecodeError) ↔ ∀ text, encodeUtf8 text ≠ .ok data := by
  refine ⟨?_, ?_⟩
  · intro failed text encoded
    rw [decode_utf8_encode_utf8 text data encoded] at failed
    cases failed
  · intro foreign
    cases decoded : decodeUtf8 data with
    | ok text => exact absurd (encode_utf8_decode_utf8 text data decoded) (foreign text)
    | error error => rw [decode_utf8_error data error decoded]

theorem read_prefixed_bytes (uleb data : Bytes) (done : Leb128.Terminated uleb) (short : uleb.length ≤ 10)
    (length : Leb128.value uleb = data.length) : Reads readBytes (uleb ++ data) data := by
  apply reads_bind readUleb128 _ uleb data _ data (read_uleb128_reads uleb done short)
  rw [length]
  exact takes_reads (readSliced data.length) data.length id data (read_sliced_takes data.length) rfl

theorem read_str_reports_iff (before rest : Bytes) :
    Shape.Reports .str (behind before rest) ↔ ¬ Shape.Foreign .str rest := by
  refine ⟨?_, ?_⟩
  · intro reports ⟨uleb, data, after, restEq, done, short, length, foreign⟩
    have read := read_prefixed_bytes uleb data done short length before after
    have failed := (decode_utf8_fails_iff data).mpr foreign
    rw [List.append_assoc, ← restEq] at read
    have run : (Shape.read .str).run (behind before rest) =
        .error (.builtin .unicodeDecodeError) (behind (before ++ (uleb ++ data)) after) := by
      simp only [Shape.read, readStr, EStateM.run_bind, read, failed]
      rfl
    exact reports _ _ run
  · intro plain error final run
    simp only [Shape.read, readStr, EStateM.run_bind] at run
    cases bytes : readBytes.run (behind before rest) with
    | error raised middle =>
        rw [bytes] at run
        cases run
        exact (read_bytes_stops before rest error final bytes).1
    | ok data middle =>
        obtain ⟨taken, after, rfl, _, uleb, rfl, done, short, length⟩ :=
          read_bytes_yields before rest data middle bytes
        exfalso
        apply plain
        refine ⟨uleb, data, after, by rw [List.append_assoc], done, short, length, ?_⟩
        intro text encoded
        rw [bytes] at run
        simp only [decode_utf8_encode_utf8 text data encoded] at run
        cases run

theorem read_fixed_bytes_reports_iff (size : Nat) (before rest : Bytes) :
    Shape.Reports (.fixedBytes size) (behind before rest) ↔ ¬ Shape.Foreign (.fixedBytes size) rest := by
  have refuses : Refuses (Shape.read (.fixedBytes size)) size := refuses_map _ Item.fixedBytes size (read_sliced_refuses size)
  refine ⟨?_, ?_⟩
  · intro reports ⟨unprintable, short⟩
    have run := refuses before rest (by omega)
    rw [read_overflow_unprintable size rest.length unprintable] at run
    exact reports _ _ run
  · intro plain error final run
    by_cases short : rest.length < size
    · have printable : ¬ Unprintable size := fun unprintable => plain ⟨unprintable, by omega⟩
      rw [refuses before rest short] at run
      cases run
      exact read_overflow_printable size rest.length printable short
    · have length : (rest.take size).length = size := by
        rw [List.length_take]
        omega
      have whole := (takes_map (readSliced size) size id Item.fixedBytes (read_sliced_takes size)).1 before
        (rest.take size) (rest.drop size) length
      rw [List.take_append_drop] at whole
      cases run.symm.trans whole

theorem shape_reports_iff (shape : Shape) (nonNegative : shape.nonNegative) (before rest : Bytes) :
    shape.Reports (behind before rest) ↔ ¬ shape.Foreign rest := by
  have plain (shape : Shape) (selfReporting : shape.selfReporting) : shape.Reports (behind before rest) :=
    fun error final run => (self_reporting_stops shape selfReporting before rest error final run).1
  cases shape with
  | str => exact read_str_reports_iff before rest
  | fixedBytes length =>
      obtain ⟨size, rfl⟩ := Int.eq_ofNat_of_zero_le nonNegative
      exact read_fixed_bytes_reports_iff size before rest
  | _ => exact ⟨fun _ => id, fun _ => plain _ trivial⟩

theorem out_of_range_reports_iff (label : String) (value : Int) :
    (outOfRange label value).isSerializationError ↔ ¬ Unprintable value := by
  by_cases unprintable : Unprintable value
  · rw [outOfRange, format_int_unprintable value unprintable]
    exact ⟨False.elim, fun printable => printable unprintable⟩
  · rw [outOfRange, format_int_printable value unprintable]
    exact ⟨fun _ => unprintable, fun _ => trivial⟩

theorem encode_unsigned_reports_iff (label : String) (size : Nat) (bound value : Int) (limit : bound < 2 ^ 256) :
    RaisesOnly PyError.isSerializationError (encodeUnsigned label size bound value) ↔ ¬ Unprintable value := by
  by_cases inRange : 0 ≤ value ∧ value ≤ bound
  · have printable : ¬ Unprintable value := printable_of_lt value (by omega)
    rw [encodeUnsigned, if_pos inRange]
    exact ⟨fun _ => printable, fun _ => raises_only_ok _ _⟩
  · rw [encodeUnsigned, if_neg inRange, ← out_of_range_reports_iff label value]
    exact ⟨fun raises => raises _ rfl, raises_only_error _ _⟩

theorem encode_uleb128_reports_iff (value : Int) :
    RaisesOnly PyError.isSerializationError (encodeUleb128 value) ↔ ¬ (value < 0 ∧ Unprintable value) := by
  by_cases negative : value < 0
  · rw [encodeUleb128, if_pos negative]
    have raises := out_of_range_reports_iff "ULEB128 cannot encode negative: " value
    refine ⟨?_, ?_⟩
    · intro reports both
      exact raises.mp (reports _ rfl) both.2
    · intro plain
      exact raises_only_error _ _ (raises.mpr fun unprintable => plain ⟨negative, unprintable⟩)
  · rw [encodeUleb128, if_neg negative]
    exact ⟨fun _ both => negative both.1, fun _ => raises_only_ok _ _⟩

theorem encode_str_reports_iff (value : Str) :
    RaisesOnly PyError.isSerializationError (encodeStr value) ↔ encodable value := by
  by_cases valid : encodable value
  · rw [encodeStr, encodeUtf8, if_pos valid]
    exact ⟨fun _ => valid, fun _ => raises_only_ok _ _⟩
  · rw [encodeStr, encodeUtf8, if_neg valid]
    exact ⟨fun raises => (raises _ rfl).elim, fun encodes => absurd encodes valid⟩

theorem item_encoding_reports_iff (item : Item) :
    RaisesOnly PyError.isSerializationError item.encoding ↔ ¬ item.Foreign := by
  have never (data : Bytes) : RaisesOnly PyError.isSerializationError (.ok data) ↔ ¬ False :=
    ⟨fun _ => id, fun _ => raises_only_ok _ _⟩
  cases item with
  | u8 value => exact encode_unsigned_reports_iff _ 1 0xFF value (by norm_num)
  | u16 value => exact encode_unsigned_reports_iff _ 2 0xFFFF value (by norm_num)
  | u32 value => exact encode_unsigned_reports_iff _ 4 0xFFFF_FFFF value (by norm_num)
  | u64 value => exact encode_unsigned_reports_iff _ 8 0xFFFF_FFFF_FFFF_FFFF value (by norm_num)
  | u128 value => exact encode_unsigned_reports_iff _ 16 ((1 <<< 128) - 1) value (by decide)
  | u256 value => exact encode_unsigned_reports_iff _ 32 ((1 <<< 256) - 1) value (by decide)
  | bool value => exact never _
  | uleb128 value => exact encode_uleb128_reports_iff value
  | vectorLength length => exact encode_uleb128_reports_iff length
  | variantIndex index => exact encode_uleb128_reports_iff index
  | bytes data => exact never _
  | str value => exact (encode_str_reports_iff value).trans not_not.symm
  | fixedBytes data => exact never _
  | optionNone => exact never _
  | optionSome => exact never _

theorem item_reports_iff (item : Item) (buffer : BcsWriter) : item.Reports buffer ↔ ¬ item.Foreign := by
  rw [← item_encoding_reports_iff item]
  refine ⟨?_, ?_⟩
  · intro reports error failed
    apply reports.raised error buffer
    rw [item_write_eq, failed]
    rfl
  · intro raises
    refine ⟨?_, ?_⟩
    · intro value final run
      rw [item_write_eq] at run
      exact write_ok item.encoding buffer final run
    · intro error final run
      rw [item_write_eq] at run
      exact raises error (write_error item.encoding buffer final error run).2

-- Each call is made in the state the calls before it left, failed ones included.
def ReadsReport (data : Bytes) (shapes : List Shape) : Prop :=
  ∀ done shape rest, shapes = done ++ shape :: rest → shape.Reports ((BcsReader.init data).afterAll done)

def WritesReport (items : List Item) : Prop :=
  ∀ done item rest, items = done ++ item :: rest → item.Reports (writeAll done []).2

theorem call_reports_iff (data : Bytes) (done : List Shape) (shape : Shape)
    (doneValid : ∀ s ∈ done, s.nonNegative) (nonNegative : shape.nonNegative) :
    shape.Reports ((BcsReader.init data).afterAll done) ↔
      ¬ shape.Foreign (unread ((BcsReader.init data).afterAll done)) := by
  obtain ⟨before, rest, reached⟩ :=
    in_bounds_behind ((BcsReader.init data).afterAll done)
      (after_all_in_bounds done doneValid _ (behind_in_bounds [] data))
  rw [reached, unread_behind]
  exact shape_reports_iff shape nonNegative before rest

theorem engine_reports_iff (data : Bytes) (shapes : List Shape) (items : List Item)
    (nonNegative : ∀ shape ∈ shapes, shape.nonNegative) :
    ReadsReport data shapes ∧ WritesReport items ↔
      (∀ done shape rest, shapes = done ++ shape :: rest →
        ¬ shape.Foreign (unread ((BcsReader.init data).afterAll done))) ∧
      ∀ item ∈ items, ¬ item.Foreign := by
  have call (done : List Shape) (shape : Shape) (rest : List Shape) (split : shapes = done ++ shape :: rest) :=
    call_reports_iff data done shape (fun s member => nonNegative s (by simp [split, member]))
      (nonNegative shape (by simp [split]))
  refine ⟨?_, ?_⟩
  · intro ⟨reads, writes⟩
    refine ⟨?_, ?_⟩
    · intro done shape rest split
      exact (call done shape rest split).mp (reads done shape rest split)
    · intro item member
      obtain ⟨done, rest, split⟩ := List.append_of_mem member
      exact (item_reports_iff item _).mp (writes done item rest split)
  · intro ⟨reads, writes⟩
    refine ⟨?_, ?_⟩
    · intro done shape rest split
      exact (call done shape rest split).mpr (reads done shape rest split)
    · intro done item rest split
      exact (item_reports_iff item _).mpr (writes item (by simp [split]))

theorem engine_reports_iff_flag_and_number :
    ReadsReport [2] [.bool] ∧ WritesReport [.u8 256] ↔
      (∀ done shape rest, [Shape.bool] = done ++ shape :: rest →
        ¬ shape.Foreign (unread ((BcsReader.init [2]).afterAll done))) ∧
      ∀ item ∈ [Item.u8 256], ¬ item.Foreign :=
  engine_reports_iff [2] [.bool] [.u8 256] (by
    intro shape member
    rw [List.mem_singleton.mp member]
    trivial)

theorem unicode_errors_leave_engine :
    ¬ ReadsReport [1, 0xFF] [.str] ∧ ¬ WritesReport [.str [0xD800]] := by
  refine ⟨?_, ?_⟩
  · intro reports
    have plain := (read_str_reports_iff [] [1, 0xFF]).mp (reports [] .str [] rfl)
    exact plain ⟨[1], [0xFF], [], rfl, by simp [Leb128.Terminated], by simp, by decide,
      (decode_utf8_fails_iff [0xFF]).mp rfl⟩
  · intro reports
    have written := (reports [] (.str [0xD800]) [] rfl).raised (.builtin .unicodeEncodeError) []
    exact written (by
      rw [item_write_eq, Item.encoding, encodeStr, encodeUtf8, if_neg (by decide)]
      rfl)

end PyIota
