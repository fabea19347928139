import PyIota.BcsRuns

set_option autoImplicit false

namespace PyIota

open Cursor Fallible Positional

-- The three kinds of exception a read may end in. Numbers are formatted into
-- the messages, and formatting a number refuses very long ones.
def PyError.isReadError (error : PyError) : Prop :=
  error.isSerializationError ∨ error = .builtin .valueError ∨ error = .builtin .unicodeDecodeError

theorem read_overflow_printable (need left : Nat) (printable : ¬ Unprintable need) (fewer : left < need) :
    (readOverflow need left).isSerializationError := by
  have leftPrintable := printable_of_le left need (by simp only [Int.natAbs_natCast]; omega) printable
  rw [readOverflow, format_int_printable need printable, format_int_printable left leftPrintable]
  trivial

theorem read_overflow_unprintable (need left : Int) (unprintable : Unprintable need) :
    readOverflow need left = .builtin .valueError := by
  rw [readOverflow, format_int_unprintable need unprintable]

theorem read_overflow_is_read_error (need left : Nat) (fewer : left < need) :
    (readOverflow need left).isReadError := by
  by_cases unprintable : Unprintable need
  · right
    left
    exact read_overflow_unprintable need left unprintable
  · left
    exact read_overflow_printable need left unprintable fewer

theorem decode_utf8_error (data : Bytes) (error : PyError) (failed : decodeUtf8 data = .error error) :
    error = .builtin .unicodeDecodeError := by
  unfold decodeUtf8 at failed
  split at failed
  · cases failed
  · exact (Except.error.inj failed).symm

def Refuses {α : Type} (program : Reader α) (size : Nat) : Prop :=
  ∀ before rest, rest.length < size →
    program.run (behind before rest) = .error (readOverflow size rest.length) (behind before rest)

section

variable {α β : Type}

theorem check_refuses (size : Nat) (next : Reader α) : Refuses (do check size; next) size := by
  intro before rest short
  have refused := check_refused (behind before rest) size (by simp only [behind, List.length_append]; omega)
  have left : remaining (behind before rest) = rest.length := by simp [remaining, behind]
  simp only [EStateM.run_bind, refused, left]

theorem refuses_map (program : Reader α) (f : α → β) (size : Nat) (refuses : Refuses program size) :
    Refuses (do let value ← program; pure (f value)) size := by
  intro before rest short
  simp only [EStateM.run_bind, refuses before rest short]

theorem refuses_stops (kinds : PyError → Prop) (program : Reader α) (size : Nat) (decode : Bytes → α)
    (takes : Takes program size decode) (refuses : Refuses program size)
    (kind : ∀ left : Nat, left < size → kinds (readOverflow size left)) : Stops kinds program := by
  intro before rest error final run
  by_cases short : rest.length < size
  · rw [refuses before rest short] at run
    cases run
    exact ⟨kind rest.length short, [], rest, rfl, by rw [List.append_nil]⟩
  · have length : (rest.take size).length = size := by
      rw [List.length_take]
      omega
    have whole := takes.1 before (rest.take size) (rest.drop size) length
    rw [List.take_append_drop, run] at whole
    cases whole

end

theorem read_packed_refuses (size : Nat) : Refuses (readPacked size) size := check_refuses size _
theorem read_sliced_refuses (size : Nat) : Refuses (readSliced size) size := check_refuses size _
theorem read_u8_refuses : Refuses readU8 1 := check_refuses 1 _
theorem read_u128_refuses : Refuses readU128 16 := refuses_map _ _ 16 (read_sliced_refuses 16)
theorem read_u256_refuses : Refuses readU256 32 := refuses_map _ _ 32 (read_sliced_refuses 32)

theorem sized_stops {α : Type} (program : Reader α) (size : Nat) (decode : Bytes → α) (takes : Takes program size decode)
    (refuses : Refuses program size) (small : size < 2 ^ 256) : Stops PyError.isSerializationError program :=
  refuses_stops _ program size decode takes refuses fun left fewer =>
    read_overflow_printable size left (printable_of_lt size small) fewer

theorem read_u8_stops : Stops PyError.isSerializationError readU8 :=
  sized_stops readU8 1 _ read_u8_takes read_u8_refuses (by norm_num)

theorem read_tag_stops (label : String) : Stops PyError.isSerializationError (readTag label) := by
  apply stops_bind _ readU8 _ _ (takes_yields readU8 1 _ read_u8_takes) read_u8_stops
  intro symbols value ⟨exact_, valueEq⟩
  have below := of_little_endian_lt symbols
  rw [exact_, ← valueEq] at below
  split
  · exact stops_pure _ _
  · apply stops_throw
    rw [invalidTag, format_int_printable value (printable_of_lt value (Nat.lt_trans below (by norm_num)))]
    trivial

theorem read_uleb128_loop_refuses (result shift : Nat) : Refuses (readUleb128Loop result shift) 1 := by
  intro before rest short
  rw [readUleb128Loop]
  exact check_refuses 1 _ before rest short

theorem read_uleb128_loop_stops (result shift : Nat) : Stops PyError.isSerializationError (readUleb128Loop result shift) := by
  intro before rest error final run
  induction rest generalizing result shift before with
  | nil =>
      rw [read_uleb128_loop_refuses result shift before [] (by simp)] at run
      cases run
      exact ⟨read_overflow_printable 1 0 (printable_of_lt 1 (by norm_num)) (by omega), [], [], rfl, by simp⟩
  | cons byte rest ih =>
      rw [read_uleb128_loop_step] at run
      by_cases last : byte.toNat < 0x80
      · rw [if_pos last] at run
        cases run
      · rw [if_neg last] at run
        by_cases overflow : shift + 7 > 63
        · rw [if_pos overflow] at run
          cases run
          exact ⟨trivial, [byte], rest, rfl, rfl⟩
        · rw [if_neg overflow] at run
          obtain ⟨kind, symbols, after, rfl, rfl⟩ := ih _ (shift + 7) (before ++ [byte]) run
          exact ⟨kind, byte :: symbols, after, rfl, by simp⟩

theorem read_uleb128_stops : Stops PyError.isSerializationError readUleb128 := read_uleb128_loop_stops 0 0

theorem ten_groups_lt (bytes : Bytes) (short : bytes.length ≤ 10) : Leb128.value bytes < 2 ^ 256 := by
  calc Leb128.value bytes < 128 ^ bytes.length := Leb128.value_lt bytes
    _ ≤ 128 ^ 10 := Nat.pow_le_pow_right (by omega) short
    _ ≤ 2 ^ 256 := by norm_num

theorem read_bytes_stops : Stops PyError.isSerializationError readBytes := by
  apply stops_bind _ readUleb128 _ _ read_uleb128_yields read_uleb128_stops
  intro symbols length ⟨_, short, lengthEq⟩
  rw [lengthEq]
  exact sized_stops (readSliced _) _ id (read_sliced_takes _) (read_sliced_refuses _) (ten_groups_lt symbols short)

theorem read_str_stops : Stops PyError.isReadError readStr := by
  apply stops_bind _ readBytes _ _ read_bytes_yields
  · exact stops_weaken _ readBytes _ read_bytes_stops fun _ kind => Or.inl kind
  · intro symbols data _
    apply stops_of_except
    intro error failed
    exact Or.inr (Or.inr (decode_utf8_error data error failed))

-- The reads whose every failure is the engine's own exception.
def Shape.selfReporting : Shape → Prop
  | .str => False
  | .fixedBytes _ => False
  | _ => True

theorem self_reporting_stops (shape : Shape) (selfReporting : shape.selfReporting) :
    Stops PyError.isSerializationError shape.read := by
  have sized {α : Type} (program : Reader α) (size : Nat) (decode : Bytes → α) (f : α → Item)
      (takes : Takes program size decode) (refuses : Refuses program size) (small : size < 2 ^ 256) :
      Stops PyError.isSerializationError (do let value ← program; pure (f value)) :=
    stops_map _ program f _ (takes_yields program size decode takes)
      (sized_stops program size decode takes refuses small)
  have uleb (f : Nat → Item) : Stops PyError.isSerializationError (do let value ← readUleb128; pure (f value)) :=
    stops_map _ readUleb128 f _ read_uleb128_yields read_uleb128_stops
  have tag (label : String) (f : Bool → Item) :
      Stops PyError.isSerializationError (do let value ← readTag label; pure (f value)) :=
    stops_map _ (readTag label) f _ (read_tag_yields label) (read_tag_stops label)
  cases shape with
  | u8 => exact sized readU8 1 _ (fun n => .u8 n) read_u8_takes read_u8_refuses (by norm_num)
  | u16 => exact sized readU16 2 _ (fun n => .u16 n) (read_packed_takes 2) (read_packed_refuses 2) (by norm_num)
  | u32 => exact sized readU32 4 _ (fun n => .u32 n) (read_packed_takes 4) (read_packed_refuses 4) (by norm_num)
  | u64 => exact sized readU64 8 _ (fun n => .u64 n) (read_packed_takes 8) (read_packed_refuses 8) (by norm_num)
  | u128 => exact sized readU128 16 _ (fun n => .u128 n) read_u128_takes read_u128_refuses (by norm_num)
  | u256 => exact sized readU256 32 _ (fun n => .u256 n) read_u256_takes read_u256_refuses (by norm_num)
  | bool => exact tag _ .bool
  | uleb128 => exact uleb fun n => .uleb128 n
  | vectorLength => exact uleb fun n => .vectorLength n
  | variantIndex => exact uleb fun n => .variantIndex n
  | bytes => exact stops_map _ readBytes Item.bytes _ read_bytes_yields read_bytes_stops
  | str => exact selfReporting.elim
  | fixedBytes length => exact selfReporting.elim
  | option => exact tag _ fun isSome => if isSome then .optionSome else .optionNone

theorem shape_stops (shape : Shape) (nonNegative : shape.nonNegative) : Stops PyError.isReadError shape.read := by
  cases shape with
  | str => exact stops_map _ readStr Item.str _ read_str_yields read_str_stops
  | fixedBytes length =>
      obtain ⟨size, rfl⟩ := Int.eq_ofNat_of_zero_le nonNegative
      apply stops_map _ (readFixedBytes size) Item.fixedBytes _
        (takes_yields (readSliced size) size id (read_sliced_takes size))
      exact refuses_stops _ _ size id (read_sliced_takes size) (read_sliced_refuses size) fun left fewer =>
        read_overflow_is_read_error size left fewer
  | _ => exact stops_weaken _ _ _ (self_reporting_stops _ trivial) fun _ kind => Or.inl kind

theorem read_uleb128_local : Local readUleb128 := by
  apply yields_weaken _ _ _ read_uleb128_yields
  intro bytes value ⟨done, short, valueEq⟩
  rw [valueEq]
  exact read_uleb128_reads bytes done short

theorem read_bytes_local : Local readBytes :=
  local_bind readUleb128 _ read_uleb128_local fun length =>
    takes_local (readSliced length) length id (read_sliced_takes length)

theorem read_str_local : Local readStr :=
  local_bind readBytes _ read_bytes_local fun data => local_of_except (decodeUtf8 data)

theorem read_tag_local (label : String) : Local (readTag label) := by
  apply local_bind readU8 _ (takes_local readU8 1 _ read_u8_takes)
  intro val
  split
  · exact local_pure _
  · exact local_throw _

theorem shape_local (shape : Shape) (nonNegative : shape.nonNegative) : Local shape.read := by
  cases shape with
  | u8 => exact local_map readU8 _ (takes_local readU8 1 _ read_u8_takes)
  | u16 => exact local_map readU16 _ (takes_local readU16 2 _ (read_packed_takes 2))
  | u32 => exact local_map readU32 _ (takes_local readU32 4 _ (read_packed_takes 4))
  | u64 => exact local_map readU64 _ (takes_local readU64 8 _ (read_packed_takes 8))
  | u128 => exact local_map readU128 _ (takes_local readU128 16 _ read_u128_takes)
  | u256 => exact local_map readU256 _ (takes_local readU256 32 _ read_u256_takes)
  | bool => exact local_map readBool _ (read_tag_local _)
  | uleb128 => exact local_map readUleb128 _ read_uleb128_local
  | vectorLength => exact local_map readUleb128 _ read_uleb128_local
  | variantIndex => exact local_map readUleb128 _ read_uleb128_local
  | bytes => exact local_map readBytes _ read_bytes_local
  | str => exact local_map readStr _ read_str_local
  | fixedBytes length =>
      obtain ⟨size, rfl⟩ := Int.eq_ofNat_of_zero_le nonNegative
      exact local_map (readFixedBytes size) _ (takes_local (readSliced size) size id (read_sliced_takes size))
  | option => exact local_map readOptionIsSome _ (read_tag_local _)

def Shape.after (shape : Shape) (reader : BcsReader) : BcsReader :=
  match shape.read.run reader with
  | .ok _ final => final
  | .error _ final => final

def BcsReader.afterAll (reader : BcsReader) (shapes : List Shape) : BcsReader :=
  shapes.foldl (fun reader shape => shape.after reader) reader

structure BcsReader.InBounds (reader : BcsReader) : Prop where
  nonNegative : 0 ≤ reader.pos
  within : reader.pos ≤ reader.data.length
  remaining : 0 ≤ remaining reader

structure SafeCall (shape : Shape) (reader : BcsReader) : Prop where
  inBounds : (shape.after reader).InBounds
  sameData : (shape.after reader).data = reader.data
  forwards : reader.pos ≤ (shape.after reader).pos
  fromBytes : ∀ item final, shape.read.run reader = .ok item final →
    Reads shape.read (slice reader.data reader.pos final.pos) item

-- Every call of the sequence is made in the state the calls before it left.
structure SafeRun (shapes : List Shape) (reader : BcsReader) : Prop where
  start : reader.InBounds
  calls : ∀ done shape rest, shapes = done ++ shape :: rest → SafeCall shape (reader.afterAll done)

theorem behind_in_bounds (before rest : Bytes) : BcsReader.InBounds (behind before rest) := by
  constructor <;> simp [behind, remaining]

theorem in_bounds_behind (reader : BcsReader) (inBounds : reader.InBounds) :
    ∃ before rest, reader = behind before rest := by
  obtain ⟨data, pos⟩ := reader
  obtain ⟨position, rfl⟩ := Int.eq_ofNat_of_zero_le inBounds.nonNegative
  have within : (position : Int) ≤ data.length := inBounds.within
  have fits : position ≤ data.length := by omega
  refine ⟨data.take position, data.drop position, ?_⟩
  simp [behind, fits]

theorem after_moved (shape : Shape) (nonNegative : shape.nonNegative) (before rest : Bytes) :
    ∃ symbols after, rest = symbols ++ after ∧
      shape.after (behind before rest) = behind (before ++ symbols) after := by
  cases run : shape.read.run (behind before rest) with
  | ok item final =>
      obtain ⟨symbols, after, restEq, finalEq, _⟩ := shape_local shape nonNegative before rest item final run
      exact ⟨symbols, after, restEq, by simp only [Shape.after, run, finalEq]⟩
  | error error final =>
      obtain ⟨_, symbols, after, restEq, finalEq⟩ := shape_stops shape nonNegative before rest error final run
      exact ⟨symbols, after, restEq, by simp only [Shape.after, run, finalEq]⟩

theorem safe_call (shape : Shape) (nonNegative : shape.nonNegative) (reader : BcsReader)
    (inBounds : reader.InBounds) : SafeCall shape reader := by
  obtain ⟨before, rest, rfl⟩ := in_bounds_behind reader inBounds
  obtain ⟨symbols, after, rfl, moved⟩ := after_moved shape nonNegative before rest
  refine ⟨?_, ?_, ?_, ?_⟩
  · rw [moved]
    exact behind_in_bounds _ _
  · rw [moved]
    simp [behind]
  · rw [moved]
    simp [behind]
  · intro item final run
    obtain ⟨taken, left, restEq, finalEq, reads⟩ := shape_local shape nonNegative _ _ item final run
    have between : slice (behind before (symbols ++ after)).data (behind before (symbols ++ after)).pos final.pos =
        taken := by
      rw [restEq, finalEq]
      exact slice_between before taken left _ _ rfl rfl
    rw [between]
    exact reads

theorem after_all_in_bounds (shapes : List Shape) (nonNegative : ∀ shape ∈ shapes, shape.nonNegative)
    (reader : BcsReader) (inBounds : reader.InBounds) : (reader.afterAll shapes).InBounds := by
  induction shapes generalizing reader with
  | nil => exact inBounds
  | cons shape shapes ih =>
      rw [List.forall_mem_cons] at nonNegative
      exact ih nonNegative.2 _ (safe_call shape nonNegative.1 reader inBounds).inBounds

theorem safe_run_in_bounds (shapes done : List Shape) (shape : Shape) (rest : List Shape) (reader : BcsReader)
    (safe : SafeRun shapes reader) (split : shapes = done ++ shape :: rest) : (reader.afterAll done).InBounds := by
  rcases List.eq_nil_or_concat done with empty | ⟨front, last, concat⟩
  · rw [empty]
    exact safe.start
  · have call := safe.calls front last (shape :: rest) (by rw [split, concat]; simp)
    have step : reader.afterAll done = last.after (reader.afterAll front) := by
      simp [BcsReader.afterAll, concat]
    rw [step]
    exact call.inBounds

-- A negative length passes the check, which only looks at the far end.
theorem negative_length_moves_back (length : Int) (negative : length < 0) (reader : BcsReader)
    (inBounds : reader.InBounds) : (Shape.after (.fixedBytes length) reader).pos < reader.pos := by
  have passed := check_room reader length (by have within := inBounds.within; omega)
  have moved : Shape.after (.fixedBytes length) reader = { reader with pos := reader.pos + length } := by
    simp only [Shape.after, Shape.read, readFixedBytes, readSliced, EStateM.run_bind, passed]
    rfl
  rw [moved]
  change reader.pos + length < reader.pos
  omega

theorem cursor_safe_iff_non_negative (data : Bytes) (shapes : List Shape) :
    SafeRun shapes (BcsReader.init data) ↔ ∀ shape ∈ shapes, shape.nonNegative := by
  refine ⟨?_, ?_⟩
  · intro safe shape member
    obtain ⟨done, rest, split⟩ := List.append_of_mem member
    have call := safe.calls done shape rest split
    have inBounds := safe_run_in_bounds shapes done shape rest _ safe split
    cases shape with
    | fixedBytes length =>
        by_cases negative : length < 0
        · have backwards := negative_length_moves_back length negative _ inBounds
          have forwards := call.forwards
          omega
        · exact Int.not_lt.mp negative
    | _ => trivial
  · intro nonNegative
    have start : (BcsReader.init data).InBounds := behind_in_bounds [] data
    refine ⟨?_, ?_⟩
    · exact start
    · intro done shape rest split
      have doneValid : ∀ s ∈ done, s.nonNegative := fun s member => nonNegative s (by simp [split, member])
      exact safe_call shape (nonNegative shape (by simp [split])) _ (after_all_in_bounds done doneValid _ start)

-- read_fixed_bytes(-1) at the start of one byte of data.
theorem negative_length_leaves_bounds :
    (BcsReader.init [7]).afterAll [.fixedBytes (-1)] = ⟨[7], -1⟩ ∧
      ¬ SafeRun [.fixedBytes (-1)] (BcsReader.init [7]) := by
  refine ⟨?_, ?_⟩
  · rfl
  · intro safe
    have call := safe.calls [] (.fixedBytes (-1)) [] rfl
    exact absurd call.inBounds.nonNegative (by decide)

end PyIota
