import PyIota.BcsReader

set_option autoImplicit false

namespace PyIota

-- What the check of the shift is there for.
structure OverflowChecked (reader : BcsReader) : Prop where
  bounded : ∀ value final, readUleb128.run reader = .ok value final → value < 2 ^ 64
  rejected : ∀ bytes, Ahead reader bytes → Leb128.Terminated bytes → 2 ^ 64 ≤ Leb128.value bytes →
    ∃ message final, readUleb128.run reader = .error (.serializationError message) final ∧
      final.pos ≤ reader.pos + 10
  accepted : ∀ (value : Nat) (bytes : Bytes), value < 2 ^ 64 → finish (writeUleb128 value) = .ok bytes →
    Ahead reader bytes → readUleb128.run reader = .ok value (reader.past bytes)

-- Nine continuation bytes and a last byte with bits above the one that still fits.
def TenthByteTooLarge (reader : BcsReader) : Prop :=
  ∃ (front : Bytes) (last : UInt8), front.length = 9 ∧ (∀ byte ∈ front, 0x80 ≤ byte.toNat) ∧
    2 ≤ last.toNat ∧ last.toNat < 0x80 ∧ Ahead reader (front ++ [last])

theorem ahead_append (reader : BcsReader) (front rest : Bytes) :
    Ahead reader (front ++ rest) ↔ Ahead reader front ∧ Ahead (reader.past front) rest := by
  induction front generalizing reader with
  | nil => simp [Ahead, BcsReader.past]
  | cons byte front ih =>
      simp only [List.cons_append, Ahead, ih, and_assoc]
      rw [past_past]

theorem value_ten_bytes (front : Bytes) (last : UInt8) (nine : front.length = 9) (low : last.toNat < 0x80) :
    2 ^ 64 ≤ Leb128.value (front ++ [last]) ↔ 2 ≤ last.toNat := by
  have bound := Leb128.value_lt front
  have group : Leb128.group last = last.toNat := by
    rw [Leb128.group_eq_mod]
    omega
  rw [Leb128.value_append, nine, Leb128.value, Leb128.value, group]
  rw [nine] at bound
  omega

-- The loop gives up once the shift would leave 64 bits, right behind a continuation byte.
theorem read_uleb128_loop_overflow (front : Bytes) (result shift : Nat) (reader : BcsReader)
    (ahead : Ahead reader front) (high : ∀ byte ∈ front, 0x80 ≤ byte.toNat)
    (whole : shift + 7 * front.length = 70) (within : shift ≤ 63) :
    (readUleb128Loop result shift).run reader =
      .error (.serializationError (str "ULEB128 overflow")) (reader.past front) := by
  induction front generalizing result shift reader with
  | nil =>
      simp only [List.length_nil] at whole
      omega
  | cons byte front ih =>
      obtain ⟨room, found, ahead⟩ := ahead
      rw [List.forall_mem_cons] at high
      rw [List.length_cons] at whole
      rw [read_uleb128_loop_at result shift reader byte room found, if_neg (by omega)]
      by_cases overflow : shift + 7 > 63
      · have frontNil : front = [] := List.length_eq_zero_iff.mp (by omega)
        rw [if_pos overflow, frontNil]
        rfl
      · rw [if_neg overflow, ih _ (shift + 7) _ ahead high.2 (by omega) (by omega), past_past]

theorem long_encoding_rejected (reader : BcsReader) (front : Bytes) (last : UInt8) (long : 10 ≤ front.length)
    (high : ∀ byte ∈ front, 0x80 ≤ byte.toNat) (ahead : Ahead reader (front ++ [last])) :
    ∃ message final, readUleb128.run reader = .error (.serializationError message) final ∧
      final.pos ≤ reader.pos + 10 := by
  have taken : (front.take 10).length = 10 := by
    rw [List.length_take]
    omega
  have frontAhead := ((ahead_append reader front [last]).mp ahead).1
  rw [← List.take_append_drop 10 front] at frontAhead
  have stopped := read_uleb128_loop_overflow (front.take 10) 0 0 reader ((ahead_append _ _ _).mp frontAhead).1
    (fun byte member => high byte (List.mem_of_mem_take member)) (by omega) (by omega)
  refine ⟨_, _, stopped, ?_⟩
  simp only [BcsReader.past, taken]
  omega

theorem short_encoding_fits (reader : BcsReader) (bytes : Bytes) (ahead : Ahead reader bytes)
    (done : Leb128.Terminated bytes) (short : bytes.length ≤ 10) (fits : ¬ TenthByteTooLarge reader) :
    Leb128.value bytes < 2 ^ 64 := by
  obtain ⟨front, last, rfl, high, low⟩ := (Leb128.terminated_iff bytes).mp done
  simp only [List.length_append, List.length_singleton] at short
  by_cases nine : front.length = 9
  · have small : ¬ 2 ≤ last.toNat := fun large => fits ⟨front, last, nine, high, large, low, ahead⟩
    rw [← value_ten_bytes front last nine low] at small
    omega
  · have bound := Leb128.value_lt (front ++ [last])
    simp only [List.length_append, List.length_singleton] at bound
    calc Leb128.value (front ++ [last]) < 128 ^ (front.length + 1) := bound
      _ ≤ 128 ^ 9 := Nat.pow_le_pow_right (by omega) (by omega)
      _ ≤ 2 ^ 64 := by norm_num

theorem minimal_encoding_accepted (reader : BcsReader) (value : Nat) (bytes : Bytes) (fits : value < 2 ^ 64)
    (written : finish (writeUleb128 value) = .ok bytes) (ahead : Ahead reader bytes) :
    readUleb128.run reader = .ok value (reader.past bytes) := by
  have encoded : bytes = Leb128.encode value := by
    rw [finish, write_uleb128_eq, encode_uleb128_nat, Emitter.emitted_write] at written
    exact (Except.ok.inj written).symm
  have short := Leb128.length_encode_le value 10 (by omega) (Nat.lt_trans fits (by norm_num))
  rw [encoded] at ahead ⊢
  rw [read_uleb128_ahead reader _ ahead (Leb128.encode_terminated value) short, Leb128.value_encode]

theorem uleb128_overflow_checked_iff (reader : BcsReader) : OverflowChecked reader ↔ ¬ TenthByteTooLarge reader := by
  refine ⟨?_, ?_⟩
  · intro ⟨bounded, _, _⟩ ⟨front, last, nine, high, large, low, ahead⟩
    have done := (Leb128.terminated_iff (front ++ [last])).mpr ⟨front, last, rfl, high, low⟩
    have run := read_uleb128_ahead reader (front ++ [last]) ahead done (by simp [nine])
    have small := bounded _ _ run
    have tooLarge := (value_ten_bytes front last nine low).mpr large
    omega
  · intro fits
    refine ⟨?_, ?_, ?_⟩
    · intro value final run
      obtain ⟨bytes, ahead, done, short, rfl, _⟩ := read_uleb128_consumed reader final value run
      exact short_encoding_fits reader bytes ahead done short fits
    · intro bytes ahead done tooLarge
      obtain ⟨front, last, rfl, high, low⟩ := (Leb128.terminated_iff bytes).mp done
      by_cases long : 10 ≤ front.length
      · exact long_encoding_rejected reader front last long high ahead
      · have small := short_encoding_fits reader _ ahead done (by simp; omega) fits
        omega
    · intro value bytes
      exact minimal_encoding_accepted reader value bytes

theorem two_to_the_64_accepted :
    (∃ final, readUleb128.run (BcsReader.init (List.replicate 9 0x80 ++ [2])) = .ok (2 ^ 64) final) ∧
      ¬ OverflowChecked (BcsReader.init (List.replicate 9 0x80 ++ [2])) := by
  have run : ∃ final, readUleb128.run (BcsReader.init (List.replicate 9 0x80 ++ [2])) = .ok (2 ^ 64) final := by
    have ahead := (ahead_behind [] (List.replicate 9 0x80 ++ [2]) _).mpr List.prefix_rfl
    exact ⟨_, read_uleb128_ahead _ _ ahead (by simp [Leb128.Terminated, List.replicate]) (by simp)⟩
  refine ⟨?_, ?_⟩
  · exact run
  · intro checked
    obtain ⟨final, run⟩ := run
    have small := checked.bounded _ _ run
    omega

end PyIota
