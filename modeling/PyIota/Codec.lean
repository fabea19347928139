import PyIota.PyError

set_option autoImplicit false

namespace PyIota

-- str(int) and f"{int}" refuse numbers of more than sys.int_info's 4300 digits.
def maxStrDigits : Nat := 4300

def formatInt (value : Int) : Except PyError Str :=
  if 10 ^ maxStrDigits ≤ value.natAbs then .error (.builtin .valueError)
  else .ok (str (toString value))

def Unprintable (value : Int) : Prop := 10 ^ maxStrDigits ≤ value.natAbs

theorem format_int_printable (value : Int) (printable : ¬ Unprintable value) :
    formatInt value = .ok (str (toString value)) := by
  rw [Unprintable] at printable
  rw [formatInt, if_neg printable]

theorem format_int_unprintable (value : Int) (unprintable : Unprintable value) :
    formatInt value = .error (.builtin .valueError) := by
  rw [Unprintable] at unprintable
  rw [formatInt, if_pos unprintable]

theorem printable_of_le (small large : Int) (less : small.natAbs ≤ large.natAbs) (printable : ¬ Unprintable large) :
    ¬ Unprintable small := by
  rw [Unprintable] at printable ⊢
  omega

theorem printable_of_lt (value : Int) (below : value.natAbs < 2 ^ 256) : ¬ Unprintable value := by
  rw [Unprintable, Nat.not_le]
  calc value.natAbs < 2 ^ 256 := below
    _ ≤ 10 ^ 256 := Nat.pow_le_pow_left (by omega) 256
    _ ≤ 10 ^ maxStrDigits := Nat.pow_le_pow_right (by omega) (by simp [maxStrDigits])

-- Nothing below may compute the limit, a number of 4301 digits.
attribute [irreducible] formatInt Unprintable

-- Only a lone surrogate has no UTF-8 encoding.
def encodable (s : Str) : Prop := ∀ c ∈ s, c.val.isValidChar

instance (s : Str) : Decidable (encodable s) := inferInstanceAs (Decidable (∀ c ∈ s, c.val.isValidChar))

def toChars (s : Str) : List Char := s.map fun c => Char.ofNat c.val

def encodeUtf8 (s : Str) : Except PyError Bytes :=
  if encodable s then .ok ((toChars s).flatMap String.utf8EncodeChar)
  else .error (.builtin .unicodeEncodeError)

def decodeUtf8 (bytes : Bytes) : Except PyError Str :=
  match bytes.toByteArray.utf8Decode? with
  | some chars => .ok (chars.toList.map cp)
  | none => .error (.builtin .unicodeDecodeError)

def encodeAscii (s : Str) : Except PyError Bytes :=
  if ∀ c ∈ s, isAscii c then .ok (s.map fun c => UInt8.ofNat c.val)
  else .error (.builtin .unicodeEncodeError)

def isAsciiSpace (c : CodePoint) : Bool := c.val == 0x20 || (0x09 ≤ c.val && c.val ≤ 0x0D)

def digitValue (c : CodePoint) : Option Nat :=
  if 0x30 ≤ c.val ∧ c.val ≤ 0x39 then some (c.val - 0x30)
  else if 0x61 ≤ c.val ∧ c.val ≤ 0x66 then some (c.val - 0x57)
  else if 0x41 ≤ c.val ∧ c.val ≤ 0x46 then some (c.val - 0x37)
  else none

def fromhex : Str → Except PyError Bytes
  | [] => .ok []
  | [c] => if isAsciiSpace c then .ok [] else .error (.builtin .valueError)
  | c :: d :: rest =>
      if isAsciiSpace c then fromhex (d :: rest)
      else
        match digitValue c, digitValue d with
        | some top, some bottom => do
            let tail ← fromhex rest
            pure (UInt8.ofNat (16 * top + bottom) :: tail)
        | _, _ => .error (.builtin .valueError)

def hexDigit (value : Nat) : CodePoint := (str "0123456789abcdef").getD value (cp '0')

def hex (bytes : Bytes) : Str := bytes.flatMap fun b => [hexDigit (b.toNat / 16), hexDigit (b.toNat % 16)]

theorem char_of_code_point (c : CodePoint) (valid : c.val.isValidChar) : cp (Char.ofNat c.val) = c := by
  apply Fin.ext
  simp [cp, Char.toNat_ofNat, valid]

theorem code_point_of_char (c : Char) : Char.ofNat (cp c).val = c := by
  simp [cp]

theorem cp_valid (c : Char) : (cp c).val.isValidChar := c.valid

theorem chars_of_encodable (s : Str) (valid : encodable s) : (toChars s).map cp = s := by
  rw [toChars, List.map_map]
  conv => rhs; rw [← List.map_id s]
  exact List.map_congr_left (fun c member => char_of_code_point c (valid c member))

theorem to_chars_map_cp (chars : List Char) : toChars (chars.map cp) = chars := by
  rw [toChars, List.map_map]
  conv => rhs; rw [← List.map_id chars]
  exact List.map_congr_left (fun c _ => code_point_of_char c)

theorem decode_utf8_encode_utf8 (s : Str) (bytes : Bytes) (encoded : encodeUtf8 s = .ok bytes) :
    decodeUtf8 bytes = .ok s := by
  unfold encodeUtf8 at encoded
  split at encoded
  · rename_i valid
    have same := Except.ok.inj encoded
    have chars : bytes.toByteArray.utf8Decode? = some (toChars s).toArray := by
      rw [← same]
      exact List.utf8Decode?_utf8Encode
    simp only [decodeUtf8, chars, chars_of_encodable s valid]
  · cases encoded

theorem encode_utf8_decode_utf8 (s : Str) (bytes : Bytes) (decoded : decodeUtf8 bytes = .ok s) :
    encodeUtf8 s = .ok bytes := by
  unfold decodeUtf8 at decoded
  split at decoded
  · rename_i chars found
    have same := Except.ok.inj decoded
    have valid : encodable s := by
      intro c member
      rw [← same] at member
      obtain ⟨char, _, rfl⟩ := List.mem_map.mp member
      exact cp_valid char
    have round : (toChars s).utf8Encode = bytes.toByteArray := by
      have whole := ByteArray.utf8Encode_get_utf8Decode? (b := bytes.toByteArray) (h := by simp [found])
      simpa [found, ← same, to_chars_map_cp] using whole
    have bytesEq : (toChars s).flatMap String.utf8EncodeChar = bytes := by
      have data := congrArg (fun b => b.data.toList) round
      simpa [List.utf8Encode] using data
    rw [encodeUtf8, if_pos valid, bytesEq]
  · cases decoded

end PyIota
