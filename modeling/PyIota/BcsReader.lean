import PyIota.BcsWriter
import PyIota.Library.Cursor

set_option autoImplicit false

namespace PyIota

open Positional Cursor

-- `_data` and `_pos`; the position is a Python int and may leave the buffer.
abbrev BcsReader := Cursor UInt8
abbrev Reader (α : Type) := Cursor.Reader PyError UInt8 α

def BcsReader.init (data : Bytes) : BcsReader := ⟨data, 0⟩

def remaining (reader : BcsReader) : Int := reader.data.length - reader.pos

def readOverflow (need have_ : Int) : PyError :=
  match formatInt need, formatInt have_ with
  | .ok needText, .ok haveText => .serializationError
      (str "BCS read overflow: need " ++ needText ++ str " bytes, have " ++ haveText)
  | .error error, _ => error
  | _, .error error => error

def check (n : Int) : Reader Unit := do
  let reader ← get
  if reader.pos + n > reader.data.length then throw (readOverflow n (remaining reader))

def advance (n : Int) : Reader Unit := modify fun reader => { reader with pos := reader.pos + n }

def nextByte : Reader UInt8 := do
  let reader ← get
  match index? reader.data reader.pos with
  | none => throw (.builtin .indexError)
  | some byte =>
      advance 1
      pure byte

-- struct.unpack_from with one little-endian field: a negative offset counts
-- from the end and must leave room for the whole field.
def unpackFrom (size : Nat) (data : Bytes) (offset : Int) : Except PyError Nat :=
  if offset < 0 ∧ (0 < offset + size ∨ offset + data.length < 0) then .error (.builtin .structError)
  else
    let start := if offset < 0 then offset + data.length else offset
    if data.length - start < size then .error (.builtin .structError)
    else .ok (ofLittleEndian ((data.drop start.toNat).take size))

def readPacked (size : Nat) : Reader Nat := do
  check size
  let reader ← get
  let value ← MonadExcept.ofExcept (unpackFrom size reader.data reader.pos)
  advance size
  pure value

def readSliced (length : Int) : Reader Bytes := do
  check length
  let reader ← get
  let data := slice reader.data reader.pos (reader.pos + length)
  advance length
  pure data

def readU8 : Reader Nat := do
  check 1
  let byte ← nextByte
  pure byte.toNat

def readU16 : Reader Nat := readPacked 2
def readU32 : Reader Nat := readPacked 4
def readU64 : Reader Nat := readPacked 8

def readU128 : Reader Nat := do
  let data ← readSliced 16
  pure (ofLittleEndian data)

def readU256 : Reader Nat := do
  let data ← readSliced 32
  pure (ofLittleEndian data)

def invalidTag (label : String) (value : Nat) : PyError :=
  match formatInt value with
  | .ok text => .serializationError (str label ++ text)
  | .error error => error

def readTag (label : String) : Reader Bool := do
  let val ← readU8
  if val = 0 ∨ val = 1 then pure (decide (val = 1)) else throw (invalidTag label val)

def readBool : Reader Bool := readTag "Invalid bool byte: "
def readOptionIsSome : Reader Bool := readTag "Invalid option tag: "

def readUleb128Loop (result shift : Nat) : Reader Nat := do
  check 1
  let byte ← nextByte
  let result := result ||| ((byte.toNat &&& 0x7F) <<< shift)
  if byte.toNat < 0x80 then pure result
  else if shift + 7 > 63 then throw (.serializationError (str "ULEB128 overflow"))
  else readUleb128Loop result (shift + 7)
termination_by 64 - shift

def readUleb128 : Reader Nat := readUleb128Loop 0 0

def readBytes : Reader Bytes := do
  let length ← readUleb128
  readSliced length

-- The cursor has moved past the bytes before they are decoded.
def readStr : Reader Str := do
  let data ← readBytes
  MonadExcept.ofExcept (decodeUtf8 data)

def readFixedBytes (length : Int) : Reader Bytes := readSliced length
def readVectorLength : Reader Nat := readUleb128
def readVariantIndex : Reader Nat := readUleb128

def Ahead (reader : BcsReader) : Bytes → Prop
  | [] => True
  | byte :: rest => reader.pos + 1 ≤ reader.data.length ∧ index? reader.data reader.pos = some byte ∧
      Ahead { reader with pos := reader.pos + 1 } rest

def BcsReader.past (reader : BcsReader) (bytes : Bytes) : BcsReader :=
  { reader with pos := reader.pos + bytes.length }

theorem past_past (reader : BcsReader) (byte : UInt8) (rest : Bytes) :
    BcsReader.past { reader with pos := reader.pos + 1 } rest = reader.past (byte :: rest) := by
  simp only [BcsReader.past, List.length_cons]
  congr 1
  omega

theorem past_behind (before symbols after : Bytes) :
    BcsReader.past (behind before (symbols ++ after)) symbols = behind (before ++ symbols) after := by
  simp [BcsReader.past, behind]

theorem check_room (reader : BcsReader) (n : Int) (room : reader.pos + n ≤ reader.data.length) :
    (check n).run reader = .ok () reader := by
  simp [check, Int.not_lt.mpr room]

theorem check_refused (reader : BcsReader) (n : Int) (short : reader.data.length < reader.pos + n) :
    (check n).run reader = .error (readOverflow n (remaining reader)) reader := by
  simp only [check, EStateM.run_bind, EStateM.run_get, if_pos short]
  rfl

theorem check_fits (before rest : Bytes) (n : Nat) (fits : n ≤ rest.length) :
    (check n).run (behind before rest) = .ok () (behind before rest) := by
  apply check_room
  simp only [behind, List.length_append]
  omega

theorem check_short (before rest : Bytes) (n : Nat) (short : rest.length < n) :
    ∃ error, (check n).run (behind before rest) = .error error (behind before rest) := by
  refine ⟨readOverflow n (remaining (behind before rest)), check_refused _ _ ?_⟩
  simp only [behind, List.length_append]
  omega

theorem advance_behind (before symbols after : Bytes) (size : Int) (exact_ : size = symbols.length) :
    (advance size).run (behind before (symbols ++ after)) = .ok () (behind (before ++ symbols) after) := by
  simp [advance, behind, exact_]

theorem next_byte_at (reader : BcsReader) (byte : UInt8) (found : index? reader.data reader.pos = some byte) :
    nextByte.run reader = .ok byte { reader with pos := reader.pos + 1 } := by
  simp only [nextByte, EStateM.run_bind, EStateM.run_get, found]
  rfl

theorem next_byte_missing (reader : BcsReader) (missing : index? reader.data reader.pos = none) :
    nextByte.run reader = .error (.builtin .indexError) reader := by
  simp only [nextByte, EStateM.run_bind, EStateM.run_get, missing]
  rfl

theorem next_behind (before after : Bytes) (byte : UInt8) :
    { behind before (byte :: after) with pos := (behind before (byte :: after)).pos + 1 } =
      behind (before ++ [byte]) after := by
  simp [behind]

theorem ahead_behind (before rest symbols : Bytes) : Ahead (behind before rest) symbols ↔ symbols <+: rest := by
  induction symbols generalizing before rest with
  | nil => simp [Ahead]
  | cons byte symbols ih =>
      cases rest with
      | nil => simp [Ahead, behind]
      | cons next after =>
          have found : index? (before ++ next :: after) (before.length : Int) = some next := index_at before after next
          simp only [Ahead, next_behind, List.cons_prefix_cons, ih]
          simp only [behind, found]
          simp [eq_comm]

theorem next_byte_behind (before after : Bytes) (byte : UInt8) :
    nextByte.run (behind before (byte :: after)) = .ok byte (behind (before ++ [byte]) after) := by
  rw [next_byte_at _ byte (index_at before after byte), next_behind]

theorem unpack_from_behind (before symbols after : Bytes) :
    unpackFrom symbols.length (before ++ (symbols ++ after)) before.length = .ok (ofLittleEndian symbols) := by
  have nonneg : ¬ ((before.length : Int) < 0) := by omega
  have room : ¬ (((before ++ (symbols ++ after)).length : Int) - before.length < symbols.length) := by
    simp only [List.length_append]
    omega
  simp only [unpackFrom, nonneg, false_and, if_false, if_neg room]
  simp

theorem read_packed_takes (size : Nat) : Takes (readPacked size) size ofLittleEndian := by
  refine ⟨?_, ?_⟩
  · intro before symbols after exact_
    have checked := check_fits before (symbols ++ after) size (by rw [List.length_append]; omega)
    have moved := advance_behind before symbols after size (by omega)
    subst exact_
    simp only [readPacked, EStateM.run_bind, checked, EStateM.run_get]
    simp only [behind, unpack_from_behind] at moved ⊢
    simp only [MonadExcept.ofExcept, EStateM.run_pure, moved]
  · intro before rest short
    obtain ⟨error, failed⟩ := check_short before rest size short
    exact ⟨error, behind before rest, by simp only [readPacked, EStateM.run_bind, failed]⟩

theorem read_sliced_takes (size : Nat) : Takes (readSliced size) size id := by
  refine ⟨?_, ?_⟩
  · intro before symbols after exact_
    have checked := check_fits before (symbols ++ after) size (by rw [List.length_append]; omega)
    have moved := advance_behind before symbols after size (by omega)
    have taken : slice (before ++ (symbols ++ after)) (before.length : Int) (before.length + size) = symbols :=
      slice_between before symbols after _ _ rfl (by rw [List.length_append]; omega)
    simp only [readSliced, EStateM.run_bind, checked, EStateM.run_get]
    simp only [behind, taken] at moved ⊢
    simp only [moved, EStateM.run_pure, id]
  · intro before rest short
    obtain ⟨error, failed⟩ := check_short before rest size short
    exact ⟨error, behind before rest, by simp only [readSliced, EStateM.run_bind, failed]⟩

theorem read_u8_takes : Takes readU8 1 ofLittleEndian := by
  refine ⟨?_, ?_⟩
  · intro before symbols after exact_
    obtain ⟨byte, rfl⟩ := List.length_eq_one_iff.mp exact_
    have checked := check_fits before ([byte] ++ after) 1 (by simp)
    have stepped := next_byte_behind before after byte
    simp only [List.cons_append, List.nil_append] at checked ⊢
    simp only [readU8, EStateM.run_bind, Nat.cast_one] at checked ⊢
    simp [checked, stepped]
  · intro before rest short
    obtain ⟨error, failed⟩ := check_short before rest 1 short
    exact ⟨error, behind before rest, by simp only [readU8, EStateM.run_bind, Nat.cast_one] at failed ⊢; simp only [failed]⟩

theorem read_u128_takes : Takes readU128 16 ofLittleEndian :=
  takes_map (readSliced 16) 16 id ofLittleEndian (read_sliced_takes 16)

theorem read_u256_takes : Takes readU256 32 ofLittleEndian :=
  takes_map (readSliced 32) 32 id ofLittleEndian (read_sliced_takes 32)

theorem read_uleb128_loop_at (result shift : Nat) (reader : BcsReader) (byte : UInt8)
    (room : reader.pos + 1 ≤ reader.data.length) (found : index? reader.data reader.pos = some byte) :
    (readUleb128Loop result shift).run reader =
      (if byte.toNat < 0x80 then pure (result ||| (Leb128.group byte <<< shift))
       else if shift + 7 > 63 then throw (.serializationError (str "ULEB128 overflow"))
       else readUleb128Loop (result ||| (Leb128.group byte <<< shift)) (shift + 7) : Reader Nat).run
        { reader with pos := reader.pos + 1 } := by
  rw [readUleb128Loop]
  simp only [EStateM.run_bind, check_room reader 1 room, next_byte_at reader byte found]
  rfl

theorem read_uleb128_loop_step (result shift : Nat) (before after : Bytes) (byte : UInt8) :
    (readUleb128Loop result shift).run (behind before (byte :: after)) =
      (if byte.toNat < 0x80 then pure (result ||| (Leb128.group byte <<< shift))
       else if shift + 7 > 63 then throw (.serializationError (str "ULEB128 overflow"))
       else readUleb128Loop (result ||| (Leb128.group byte <<< shift)) (shift + 7) : Reader Nat).run
        (behind (before ++ [byte]) after) := by
  rw [read_uleb128_loop_at result shift _ byte (by simp [behind]) (index_at before after byte), next_behind]

-- The bits gathered so far lie below `shift`, so the next group is disjoint.
theorem or_group (result shift : Nat) (byte : UInt8) (low : result < 2 ^ shift) :
    result ||| (Leb128.group byte <<< shift) = result + 2 ^ shift * Leb128.group byte := by
  rw [Nat.or_comm, ← Nat.shiftLeft_add_eq_or_of_lt low, Nat.shiftLeft_eq, Nat.mul_comm, Nat.add_comm]

theorem or_group_lt (result shift : Nat) (byte : UInt8) (low : result < 2 ^ shift) :
    result ||| (Leb128.group byte <<< shift) < 2 ^ (shift + 7) := by
  have bound := Leb128.group_lt byte
  have step : 2 ^ shift * (Leb128.group byte + 1) ≤ 2 ^ shift * 2 ^ 7 := Nat.mul_le_mul_left _ (by omega)
  rw [or_group result shift byte low, Nat.pow_add]
  rw [Nat.mul_add, Nat.mul_one] at step
  omega

theorem read_uleb128_loop_ahead (bytes : Bytes) (result shift : Nat) (reader : BcsReader)
    (ahead : Ahead reader bytes) (done : Leb128.Terminated bytes) (short : shift + 7 * bytes.length ≤ 70)
    (low : result < 2 ^ shift) :
    (readUleb128Loop result shift).run reader =
      .ok (result + 2 ^ shift * Leb128.value bytes) (reader.past bytes) := by
  induction bytes generalizing result shift reader with
  | nil => exact done.elim
  | cons byte rest ih =>
      obtain ⟨room, found, restAhead⟩ := ahead
      rw [read_uleb128_loop_at result shift reader byte room found]
      by_cases last : byte.toNat < 0x80
      · have restNil : rest = [] := by simpa [Leb128.Terminated, last] using done
        subst restNil
        rw [if_pos last, or_group result shift byte low]
        simp [Leb128.value, BcsReader.past]
      · have restDone : Leb128.Terminated rest := by simpa [Leb128.Terminated, last] using done
        have restNonempty : rest ≠ [] := by
          intro empty
          rw [empty] at restDone
          exact restDone
        have positive := List.length_pos_iff.mpr restNonempty
        rw [List.length_cons] at short
        rw [if_neg last, if_neg (by omega),
          ih _ (shift + 7) _ restAhead restDone (by omega) (or_group_lt result shift byte low),
          or_group result shift byte low, past_past]
        simp only [Leb128.value, Nat.pow_add]
        congr 1
        ring

theorem read_uleb128_ahead (reader : BcsReader) (bytes : Bytes) (ahead : Ahead reader bytes)
    (done : Leb128.Terminated bytes) (short : bytes.length ≤ 10) :
    readUleb128.run reader = .ok (Leb128.value bytes) (reader.past bytes) := by
  simpa [readUleb128] using read_uleb128_loop_ahead bytes 0 0 reader ahead done (by omega) (by simp)

theorem read_uleb128_reads (bytes : Bytes) (done : Leb128.Terminated bytes) (short : bytes.length ≤ 10) :
    Reads readUleb128 bytes (Leb128.value bytes) := by
  intro before after
  have ahead := (ahead_behind before (bytes ++ after) bytes).mpr (List.prefix_append bytes after)
  rw [read_uleb128_ahead _ bytes ahead done short, past_behind]

theorem read_uleb128_encode (value : Nat) (fits : value < 2 ^ 64) :
    Reads readUleb128 (Leb128.encode value) value := by
  have short := Leb128.length_encode_le value 10 (by decide) (Nat.lt_trans fits (by decide))
  simpa only [Leb128.value_encode] using
    read_uleb128_reads (Leb128.encode value) (Leb128.encode_terminated value) short

-- Nothing but a whole encoding of at most ten bytes is taken for a number.
theorem read_uleb128_loop_consumed (result shift : Nat) (reader final : BcsReader) (value : Nat)
    (low : result < 2 ^ shift) (within : shift ≤ 63)
    (run : (readUleb128Loop result shift).run reader = .ok value final) :
    ∃ bytes, Ahead reader bytes ∧ Leb128.Terminated bytes ∧ shift + 7 * bytes.length ≤ 70 ∧
      value = result + 2 ^ shift * Leb128.value bytes ∧ final = reader.past bytes := by
  induction left : 70 - shift using Nat.strong_induction_on generalizing result shift reader with
  | _ left ih =>
      by_cases room : reader.pos + 1 ≤ reader.data.length
      · cases found : index? reader.data reader.pos with
        | none =>
            rw [readUleb128Loop] at run
            simp [check_room reader 1 room, next_byte_missing reader found] at run
        | some byte =>
            rw [read_uleb128_loop_at result shift reader byte room found] at run
            by_cases last : byte.toNat < 0x80
            · rw [if_pos last] at run
              obtain ⟨valueEq, finalEq⟩ := EStateM.Result.ok.inj run
              refine ⟨[byte], ⟨room, found, trivial⟩, ?_, ?_, ?_, ?_⟩
              · simp [Leb128.Terminated, last]
              · simp only [List.length_singleton]
                omega
              · simp [← valueEq, or_group result shift byte low, Leb128.value]
              · rw [← finalEq]
                rfl
            · rw [if_neg last] at run
              by_cases overflow : shift + 7 > 63
              · rw [if_pos overflow] at run
                cases run
              · rw [if_neg overflow] at run
                obtain ⟨bytes, ahead, done, short, valueEq, finalEq⟩ :=
                  ih (70 - (shift + 7)) (by omega) _ (shift + 7) _ (or_group_lt result shift byte low) (by omega)
                    run rfl
                refine ⟨byte :: bytes, ⟨room, found, ahead⟩, ?_, ?_, ?_, ?_⟩
                · simpa [Leb128.Terminated, last] using done
                · simp only [List.length_cons]
                  omega
                · rw [valueEq, or_group result shift byte low, Leb128.value, Nat.pow_add]
                  ring
                · rw [finalEq, past_past]
      · rw [readUleb128Loop] at run
        simp [check_refused reader 1 (by omega)] at run

theorem read_uleb128_consumed (reader final : BcsReader) (value : Nat)
    (run : readUleb128.run reader = .ok value final) :
    ∃ bytes, Ahead reader bytes ∧ Leb128.Terminated bytes ∧ bytes.length ≤ 10 ∧
      value = Leb128.value bytes ∧ final = reader.past bytes := by
  obtain ⟨bytes, ahead, done, short, valueEq, finalEq⟩ :=
    read_uleb128_loop_consumed 0 0 reader final value (by simp) (by omega) run
  exact ⟨bytes, ahead, done, by omega, by simpa using valueEq, finalEq⟩

theorem read_uleb128_yields :
    Yields readUleb128 (fun bytes value =>
      Leb128.Terminated bytes ∧ bytes.length ≤ 10 ∧ value = Leb128.value bytes) := by
  intro before rest value final run
  obtain ⟨bytes, ahead, done, short, valueEq, finalEq⟩ := read_uleb128_consumed _ final value run
  obtain ⟨after, rfl⟩ := (ahead_behind before rest bytes).mp ahead
  exact ⟨bytes, after, rfl, by rw [finalEq, past_behind], done, short, valueEq⟩

theorem read_bytes_reads (data : Bytes) (fits : data.length < 2 ^ 64) :
    Reads readBytes (encodeBytes data) data :=
  reads_bind readUleb128 _ _ data data.length data (read_uleb128_encode data.length fits)
    (takes_reads (readSliced data.length) data.length id data (read_sliced_takes data.length) rfl)

theorem read_str_reads (text : Str) (data : Bytes) (encoded : encodeUtf8 text = .ok data)
    (fits : data.length < 2 ^ 64) : Reads readStr (encodeBytes data) text := by
  apply reads_then readBytes _ (encodeBytes data) data text (read_bytes_reads data fits)
  rw [decode_utf8_encode_utf8 text data encoded]
  exact reads_pure text

end PyIota
