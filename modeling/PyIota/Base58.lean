import PyIota.Codec
import PyIota.Library.Positional
import PyIota.Library.Numeral

set_option autoImplicit false

namespace PyIota

open Positional

def alphabetText : Str := str "123456789ABCDEFGHJKLMNPQRSTUVWXYZabcdefghijkmnopqrstuvwxyz"

def asciiByte (c : CodePoint) : UInt8 := UInt8.ofNat c.val
def asciiChar (byte : UInt8) : CodePoint := ⟨byte.toNat, Nat.lt_trans byte.toNat_lt (by decide)⟩

def alphabet : Bytes := alphabetText.map asciiByte
def alphabetMap (byte : UInt8) : Option Nat := alphabet.idxOf? byte

def leadingOnes : Str → Nat
  | [] => 0
  | ch :: rest => if ch = cp '1' then leadingOnes rest + 1 else 0

def leadingZeroBytes : Bytes → Nat
  | [] => 0
  | byte :: rest => if byte = 0 then leadingZeroBytes rest + 1 else 0

def base58Value (value : Nat) : Bytes → Except PyError Nat
  | [] => .ok value
  | byte :: rest =>
      match alphabetMap byte with
      | none => .error (.valueError (str "Invalid Base58 character: " ++ [asciiChar byte]))
      | some digit => base58Value (value * alphabet.length + digit) rest

def toBytesBig (value : Nat) : Bytes := (littleEndian ((value.size + 7) / 8) value).reverse

def fromBytesBig (data : Bytes) : Nat := ofLittleEndian data.reverse

def base58Decode (encoded : Str) : Except PyError Bytes :=
  if encoded = [] then .ok []
  else do
    let leadingZeros := leadingOnes encoded
    let bytes ← encodeAscii encoded
    let value ← base58Value 0 bytes
    let result := if value = 0 then [] else toBytesBig value
    pure (List.replicate leadingZeros 0 ++ result)

-- The digits in the order the loop appends them, least significant first.
def base58Chars (value : Nat) : Bytes :=
  if 0 < value then
    slice alphabet (value % alphabet.length : Nat) ((value % alphabet.length : Nat) + 1) ++
      base58Chars (value / alphabet.length)
  else []
termination_by value
decreasing_by
  have base : alphabet.length = 58 := by decide
  rw [base]
  omega

def base58Encode (data : Bytes) : Str :=
  if data = [] then []
  else
    let leadingZeros := leadingZeroBytes data
    let chars := (base58Chars (fromBytesBig data)).reverse
    List.replicate leadingZeros (cp '1') ++ chars.map asciiChar

def digitOf (c : CodePoint) : Nat := (alphabetMap (asciiByte c)).getD 0
def symbolOf (digit : Nat) : CodePoint := alphabetText.getD digit (cp '1')

theorem alphabet_digits (digit : Nat) (small : digit < 58) :
    symbolOf digit ∈ alphabetText ∧ isAscii (symbolOf digit) ∧
    alphabetMap (asciiByte (symbolOf digit)) = some digit ∧ (symbolOf digit = cp '1' ↔ digit = 0) ∧
    asciiChar (asciiByte (symbolOf digit)) = symbolOf digit ∧
    slice alphabet digit (digit + 1) = [asciiByte (symbolOf digit)] := by
  have all : ∀ d : Fin 58, symbolOf d ∈ alphabetText ∧ isAscii (symbolOf d) ∧
      alphabetMap (asciiByte (symbolOf d)) = some (d : Nat) ∧ (symbolOf d = cp '1' ↔ (d : Nat) = 0) ∧
      asciiChar (asciiByte (symbolOf d)) = symbolOf d ∧
      slice alphabet (d : Nat) ((d : Nat) + 1) = [asciiByte (symbolOf d)] := by
    decide +kernel
  exact all ⟨digit, small⟩

theorem digit_of_symbol (digit : Nat) (small : digit < 58) : digitOf (symbolOf digit) = digit := by
  rw [digitOf, (alphabet_digits digit small).2.2.1]
  rfl

theorem alphabet_symbols (c : CodePoint) (member : c ∈ alphabetText) :
    isAscii c ∧ alphabetMap (asciiByte c) = some (digitOf c) ∧
    digitOf c < 58 ∧ symbolOf (digitOf c) = c ∧ (c = cp '1' ↔ digitOf c = 0) := by
  obtain ⟨digit, bound, entry⟩ := List.mem_iff_getElem.mp member
  have small : digit < 58 := by
    have length : alphabetText.length = 58 := by decide
    omega
  have symbol : symbolOf digit = c := by
    rw [symbolOf, List.getD_eq_getElem _ _ bound, entry]
  obtain ⟨_, ascii, found, one, _⟩ := alphabet_digits digit small
  rw [← symbol, digit_of_symbol digit small]
  exact ⟨ascii, found, small, rfl, one⟩

-- Looking an ASCII code point up in the byte alphabet loses nothing.
theorem alphabet_map_outside (c : CodePoint) (ascii : isAscii c) (outside : c ∉ alphabetText) :
    alphabetMap (asciiByte c) = none := by
  rw [alphabetMap, List.idxOf?_eq_none_iff]
  intro member
  obtain ⟨symbol, symbolMember, same⟩ := List.mem_map.mp member
  have symbolAscii : symbol.val < 0x80 := (alphabet_symbols symbol symbolMember).1
  have cAscii : c.val < 0x80 := ascii
  have values : symbol.val = c.val := by
    have numbers := congrArg UInt8.toNat same
    simp only [asciiByte] at numbers
    rw [UInt8.toNat_ofNat_of_lt' (by change symbol.val < 256; omega),
      UInt8.toNat_ofNat_of_lt' (by change c.val < 256; omega)] at numbers
    exact numbers
  exact outside (Fin.ext values ▸ symbolMember)

theorem leading_ones_eq (s : Str) (valid : ∀ c ∈ s, c ∈ alphabetText) :
    leadingOnes s = Numeral.leadingZeros (s.map digitOf) := by
  induction s with
  | nil => rfl
  | cons c rest ih =>
      have one := (alphabet_symbols c (valid c List.mem_cons_self)).2.2.2.2
      have tail := ih (fun d member => valid d (List.mem_cons_of_mem _ member))
      simp only [leadingOnes, List.map_cons, Numeral.leadingZeros, one, tail]

theorem leading_zero_bytes_eq (data : Bytes) :
    leadingZeroBytes data = Numeral.leadingZeros (data.map UInt8.toNat) := by
  induction data with
  | nil => rfl
  | cons byte rest ih =>
      have zero : byte = 0 ↔ byte.toNat = 0 := UInt8.toNat_inj.symm
      simp only [leadingZeroBytes, List.map_cons, Numeral.leadingZeros, zero, ih]

theorem from_bytes_big_eq (data : Bytes) : fromBytesBig data = Numeral.value 256 (data.map UInt8.toNat) := by
  rw [Numeral.value_eq_of_digits, fromBytesBig, ofLittleEndian, List.map_reverse]

-- The bit length gives exactly as many bytes as there are base-256 digits.
theorem byte_length_of_size (value : Nat) (positive : value ≠ 0) :
    (value.size + 7) / 8 = (Nat.digits 256 value).length := by
  have nonempty : (Nat.digits 256 value).length ≠ 0 := fun zero =>
    Nat.digits_ne_nil_iff_ne_zero.mpr positive (List.length_eq_zero_iff.mp zero)
  obtain ⟨count, lengthEq⟩ := Nat.exists_eq_succ_of_ne_zero nonempty
  have upper : value.size ≤ 8 * (count + 1) := by
    rw [Nat.size_le, Nat.pow_mul]
    simpa [lengthEq] using Nat.lt_base_pow_length_digits (b := 256) (m := value) (by decide)
  have lower : 8 * count < value.size := by
    rw [Nat.lt_size, Nat.pow_mul]
    have bound := Nat.base_pow_length_digits_le 256 value (by decide) positive
    rw [lengthEq, Nat.pow_succ, Nat.mul_comm] at bound
    exact Nat.le_of_mul_le_mul_left bound (by decide)
  rw [lengthEq]
  omega

theorem to_bytes_big_eq (value : Nat) (positive : value ≠ 0) :
    toBytesBig value = ((Nat.digits 256 value).reverse).map UInt8.ofNat := by
  have digits : ofLittleEndian ((Nat.digits 256 value).map UInt8.ofNat) = value := by
    rw [ofLittleEndian, List.map_map]
    have same : (Nat.digits 256 value).map (UInt8.toNat ∘ UInt8.ofNat) = Nat.digits 256 value := by
      conv => rhs; rw [← List.map_id (Nat.digits 256 value)]
      apply List.map_congr_left
      intro digit member
      exact UInt8.toNat_ofNat_of_lt' (Nat.digits_lt_base (by decide) member)
    rw [same, Nat.ofDigits_digits]
  have bytes := little_endian_of_little_endian ((Nat.digits 256 value).map UInt8.ofNat)
  rw [digits, List.length_map] at bytes
  rw [toBytesBig, byte_length_of_size value positive, bytes, List.map_reverse]

theorem base58_value_ok (s : Str) (start : Nat) (valid : ∀ c ∈ s, c ∈ alphabetText) :
    base58Value start (s.map asciiByte) = .ok ((s.map digitOf).foldl (fun total digit => total * 58 + digit) start) := by
  induction s generalizing start with
  | nil => rfl
  | cons c rest ih =>
      have found := (alphabet_symbols c (valid c List.mem_cons_self)).2.1
      have base : alphabet.length = 58 := by decide
      simp only [List.map_cons, base58Value, found, List.foldl_cons, base]
      exact ih _ (fun d member => valid d (List.mem_cons_of_mem _ member))

theorem base58_decode_valid (s : Str) (valid : ∀ c ∈ s, c ∈ alphabetText) :
    base58Decode s = .ok ((Numeral.spell 256 (Numeral.leadingZeros (s.map digitOf))
      (Numeral.value 58 (s.map digitOf))).map UInt8.ofNat) := by
  by_cases empty : s = []
  · subst empty
    simp [base58Decode, Numeral.spell, Numeral.leadingZeros, Numeral.value]
  · have ascii : encodeAscii s = .ok (s.map asciiByte) := by
      rw [encodeAscii, if_pos (fun c member => (alphabet_symbols c (valid c member)).1)]
      rfl
    have value : base58Value 0 (s.map asciiByte) = .ok (Numeral.value 58 (s.map digitOf)) :=
      base58_value_ok s 0 valid
    rw [base58Decode, if_neg empty, ascii]
    simp only [bind, Except.bind, value, pure, Except.pure]
    rw [leading_ones_eq s valid, Numeral.spell, List.map_append, List.map_replicate]
    by_cases zero : Numeral.value 58 (s.map digitOf) = 0
    · simp [zero]
    · rw [if_neg zero, to_bytes_big_eq _ zero]
      rfl

theorem base58_chars_eq (value : Nat) :
    base58Chars value = (Nat.digits 58 value).map (fun digit => asciiByte (symbolOf digit)) := by
  induction value using Nat.strong_induction_on with
  | _ value ih =>
      have base : alphabet.length = 58 := by decide
      rw [base58Chars]
      by_cases positive : 0 < value
      · have symbol := (alphabet_digits (value % 58) (Nat.mod_lt _ (by decide))).2.2.2.2.2
        rw [if_pos positive, base, ih (value / 58) (Nat.div_lt_self positive (by decide)),
          Nat.digits_def' (by decide) positive, List.map_cons]
        exact congrArg (· ++ _) symbol
      · have zero : value = 0 := by omega
        simp [zero]

theorem base58_encode_eq (data : Bytes) :
    base58Encode data = (Numeral.spell 58 (Numeral.leadingZeros (data.map UInt8.toNat))
      (Numeral.value 256 (data.map UInt8.toNat))).map symbolOf := by
  by_cases empty : data = []
  · subst empty
    simp [base58Encode, Numeral.spell, Numeral.leadingZeros, Numeral.value]
  · have one : symbolOf 0 = cp '1' := by decide
    have chars : ((Nat.digits 58 (fromBytesBig data)).map (fun digit => asciiByte (symbolOf digit))).reverse.map
        asciiChar = ((Nat.digits 58 (fromBytesBig data)).reverse).map symbolOf := by
      rw [← List.map_reverse, List.map_map]
      apply List.map_congr_left
      intro digit member
      exact (alphabet_digits digit (Nat.digits_lt_base (by decide) (List.mem_reverse.mp member))).2.2.2.2.1
    rw [base58Encode, if_neg empty, base58_chars_eq]
    simp only
    rw [chars, leading_zero_bytes_eq, from_bytes_big_eq, Numeral.spell, List.map_append, List.map_replicate, one]

theorem base58_encode_in_alphabet (data : Bytes) : ∀ c ∈ base58Encode data, c ∈ alphabetText := by
  intro c member
  rw [base58_encode_eq] at member
  obtain ⟨digit, digitMember, rfl⟩ := List.mem_map.mp member
  exact (alphabet_digits digit (Numeral.spell_digits_lt 58 _ _ (by decide) digit digitMember)).1

theorem digits_of_symbols (digits : List Nat) (valid : ∀ digit ∈ digits, digit < 58) :
    (digits.map symbolOf).map digitOf = digits := by
  rw [List.map_map]
  conv => rhs; rw [← List.map_id digits]
  exact List.map_congr_left (fun digit member => digit_of_symbol digit (valid digit member))

theorem symbols_of_digits (s : Str) (valid : ∀ c ∈ s, c ∈ alphabetText) : (s.map digitOf).map symbolOf = s := by
  rw [List.map_map]
  conv => rhs; rw [← List.map_id s]
  exact List.map_congr_left (fun c member => (alphabet_symbols c (valid c member)).2.2.2.1)

theorem bytes_of_digits (digits : List Nat) (valid : ∀ digit ∈ digits, digit < 256) :
    (digits.map UInt8.ofNat).map UInt8.toNat = digits := by
  rw [List.map_map]
  conv => rhs; rw [← List.map_id digits]
  exact List.map_congr_left (fun digit member => UInt8.toNat_ofNat_of_lt' (valid digit member))

theorem base58_decode_encode (data : Bytes) : base58Decode (base58Encode data) = .ok data := by
  have valid := base58_encode_in_alphabet data
  have digits : (base58Encode data).map digitOf = Numeral.spell 58
      (Numeral.leadingZeros (data.map UInt8.toNat)) (Numeral.value 256 (data.map UInt8.toNat)) := by
    rw [base58_encode_eq]
    exact digits_of_symbols _ (Numeral.spell_digits_lt 58 _ _ (by decide))
  rw [base58_decode_valid _ valid, digits, Numeral.leading_zeros_spell, Numeral.value_spell,
    Numeral.spell_value 256 _ (by decide) (byte_digits_lt data), List.map_map]
  simp [Function.comp_def]

theorem base58_encode_decode (s : Str) (valid : ∀ c ∈ s, c ∈ alphabetText) :
    ∃ data, base58Decode s = .ok data ∧ base58Encode data = s ∧ leadingZeroBytes data = leadingOnes s := by
  refine ⟨_, base58_decode_valid s valid, ?_, ?_⟩
  · rw [base58_encode_eq, bytes_of_digits _ (Numeral.spell_digits_lt 256 _ _ (by decide)),
      Numeral.leading_zeros_spell, Numeral.value_spell, Numeral.spell_value 58 _ (by decide), symbols_of_digits s valid]
    intro digit member
    obtain ⟨c, charMember, rfl⟩ := List.mem_map.mp member
    exact (alphabet_symbols c (valid c charMember)).2.2.1
  · rw [leading_zero_bytes_eq, bytes_of_digits _ (Numeral.spell_digits_lt 256 _ _ (by decide)),
      Numeral.leading_zeros_spell, leading_ones_eq s valid]

theorem base58_value_error (s : Str) (start : Nat) (ascii : ∀ c ∈ s, isAscii c) (outside : ∃ c ∈ s, c ∉ alphabetText) :
    ∃ message, base58Value start (s.map asciiByte) = .error (.valueError message) := by
  induction s generalizing start with
  | nil =>
      obtain ⟨c, member, _⟩ := outside
      cases member
  | cons c rest ih =>
      by_cases inside : c ∈ alphabetText
      · have found := (alphabet_symbols c inside).2.1
        simp only [List.map_cons, base58Value, found]
        apply ih _ (fun d member => ascii d (List.mem_cons_of_mem _ member))
        obtain ⟨d, member, missing⟩ := outside
        rcases List.mem_cons.mp member with same | later
        · exact absurd inside (same ▸ missing)
        · exact ⟨d, later, missing⟩
      · have absent := alphabet_map_outside c (ascii c List.mem_cons_self) inside
        simp only [List.map_cons, base58Value, absent]
        exact ⟨_, rfl⟩

theorem base58_decode_outside (s : Str) (outside : ∃ c ∈ s, c ∉ alphabetText) :
    ∃ error, base58Decode s = .error error ∧ error.isValueError := by
  have nonempty : s ≠ [] := by
    rintro rfl
    obtain ⟨c, member, _⟩ := outside
    cases member
  rw [base58Decode, if_neg nonempty]
  by_cases ascii : ∀ c ∈ s, isAscii c
  · obtain ⟨message, failed⟩ := base58_value_error s 0 ascii outside
    have bytes : encodeAscii s = .ok (s.map asciiByte) := by
      rw [encodeAscii, if_pos ascii]
      rfl
    exact ⟨.valueError message, by rw [bytes]; simp only [bind, Except.bind, failed], trivial⟩
  · have bytes : encodeAscii s = .error (.builtin .unicodeEncodeError) := by rw [encodeAscii, if_neg ascii]
    exact ⟨.builtin .unicodeEncodeError, by rw [bytes]; rfl, Or.inr (Or.inl rfl)⟩

-- The bytes a text of the alphabet writes: its number, behind a zero byte for
-- each leading 1.
def digestOf (text : Str) : Option Bytes :=
  if text.all alphabetText.contains then
    some ((Numeral.spell 256 (Numeral.leadingZeros (text.map digitOf)) (Numeral.value 58 (text.map digitOf))).map UInt8.ofNat)
  else none

theorem base58_decode_iff (text : Str) (data : Bytes) : base58Decode text = .ok data ↔ digestOf text = some data := by
  have inAlphabet : text.all alphabetText.contains ↔ ∀ c ∈ text, c ∈ alphabetText := by simp
  by_cases valid : ∀ c ∈ text, c ∈ alphabetText
  · rw [base58_decode_valid text valid, digestOf, if_pos (inAlphabet.mpr valid), Except.ok.injEq, Option.some.injEq]
  · rw [digestOf, if_neg (mt inAlphabet.mp valid)]
    push Not at valid
    obtain ⟨error, failed, _⟩ := base58_decode_outside text valid
    simp [failed]

theorem base58_inverse_bijections :
    (∀ data : Bytes, base58Decode (base58Encode data) = .ok data) ∧
    (∀ s : Str, (∀ c ∈ s, c ∈ alphabetText) → ∃ data, base58Decode s = .ok data ∧ base58Encode data = s ∧
      leadingZeroBytes data = leadingOnes s) ∧
    (∀ s : Str, (∃ c ∈ s, c ∉ alphabetText) → ∃ error, base58Decode s = .error error ∧ error.isValueError) ∧
    (∀ (s t : Str) (data : Bytes), base58Decode s = .ok data → base58Decode t = .ok data → s = t) := by
  refine ⟨base58_decode_encode, base58_encode_decode, base58_decode_outside, ?_⟩
  have decoded : ∀ (s : Str) (data : Bytes), base58Decode s = .ok data → base58Encode data = s := by
    intro s data result
    by_cases valid : ∀ c ∈ s, c ∈ alphabetText
    · obtain ⟨other, otherEq, encoded, _⟩ := base58_encode_decode s valid
      rw [result] at otherEq
      rw [Except.ok.inj otherEq, encoded]
    · push Not at valid
      obtain ⟨error, failed, _⟩ := base58_decode_outside s valid
      rw [result] at failed
      cases failed
  intro s t data left right
  rw [← decoded s data left, decoded t data right]

end PyIota
