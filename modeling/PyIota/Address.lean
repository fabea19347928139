import PyIota.Codec

set_option autoImplicit false

namespace PyIota

def addressLength : Nat := 32
def iotaAddressLength : Nat := 32

def addressDigits (s : Str) : Str := removeprefix (lower s) (str "0x")

-- bytes.fromhex(s.lower().removeprefix("0x").zfill(ADDRESS_LENGTH * 2)), which
-- the source repeats wherever it puts an address in a fixed slot.
def addressBytes (s : Str) : Except PyError Bytes := fromhex (zfill (addressDigits s) (addressLength * 2))

def serializePureAddress (address : Str) : Except PyError Bytes := addressBytes address

def hexDigits : Str := str "0123456789abcdef"

def normalizeIotaAddress (address : Str) : Except PyError Str :=
  let addr := addressDigits address
  if ¬ ∀ c ∈ addr, c ∈ hexDigits then .error (.valueError (str "Invalid hex in address: " ++ address))
  else if addr.length > iotaAddressLength * 2 then .error (.valueError (str "Address too long: " ++ address))
  else .ok (str "0x" ++ zfill addr (iotaAddressLength * 2))

-- Hex digits in pairs, with ASCII white space between pairs only.
inductive HexPairs : Str → Prop where
  | nil : HexPairs []
  | space (c : CodePoint) (rest : Str) (space : isAsciiSpace c = true) (tail : HexPairs rest) : HexPairs (c :: rest)
  | pair (c d : CodePoint) (rest : Str) (top : (digitValue c).isSome) (bottom : (digitValue d).isSome)
      (tail : HexPairs rest) : HexPairs (c :: d :: rest)

theorem mem_hex_digits (c : CodePoint) :
    c ∈ hexDigits ↔ (0x30 ≤ c.val ∧ c.val ≤ 0x39) ∨ (0x61 ≤ c.val ∧ c.val ≤ 0x66) := by
  simp [hexDigits, str, cp, Fin.ext_iff]
  omega

theorem digit_value_isSome (c : CodePoint) : (digitValue c).isSome ↔
    (0x30 ≤ c.val ∧ c.val ≤ 0x39) ∨ (0x61 ≤ c.val ∧ c.val ≤ 0x66) ∨ (0x41 ≤ c.val ∧ c.val ≤ 0x46) := by
  unfold digitValue
  split
  · simp_all
  · split
    · simp_all
    · split
      · simp_all
      · simp only [Option.isSome_none, Bool.false_eq_true, false_iff]
        omega

theorem space_not_digit (c : CodePoint) (space : isAsciiSpace c = true) : digitValue c = none := by
  have notDigit : ¬ (digitValue c).isSome := by
    rw [digit_value_isSome]
    simp only [isAsciiSpace, Bool.or_eq_true, beq_iff_eq, Bool.and_eq_true, decide_eq_true_eq] at space
    omega
  simpa using notDigit

theorem digit_not_space (c : CodePoint) (digit : (digitValue c).isSome) : isAsciiSpace c = false := by
  cases space : isAsciiSpace c with
  | false => rfl
  | true =>
      rw [space_not_digit c space] at digit
      cases digit

theorem fromhex_pair (c d : CodePoint) (rest : Str) (top bottom : Nat) (topEq : digitValue c = some top)
    (bottomEq : digitValue d = some bottom) : fromhex (c :: d :: rest) = (do
      let tail ← fromhex rest
      pure (UInt8.ofNat (16 * top + bottom) :: tail)) := by
  have plain := digit_not_space c (by rw [topEq]; rfl)
  rw [fromhex]
  simp only [plain, Bool.false_eq_true, if_false, topEq, bottomEq]

theorem fromhex_space (c : CodePoint) (rest : Str) (space : isAsciiSpace c = true) :
    fromhex (c :: rest) = fromhex rest := by
  cases rest with
  | nil => simp [fromhex, space]
  | cons d rest => rw [fromhex, if_pos space]

theorem fromhex_of_hex_pairs (s : Str) (pairs : HexPairs s) : ∃ bytes, fromhex s = .ok bytes := by
  induction pairs with
  | nil => exact ⟨[], rfl⟩
  | space c rest space _ ih => rwa [fromhex_space c rest space]
  | pair c d rest top bottom _ ih =>
      obtain ⟨tail, tailEq⟩ := ih
      obtain ⟨high, highEq⟩ := Option.isSome_iff_exists.mp top
      obtain ⟨low, lowEq⟩ := Option.isSome_iff_exists.mp bottom
      rw [fromhex_pair c d rest high low highEq lowEq, tailEq]
      exact ⟨_, rfl⟩

theorem hex_pairs_of_fromhex (s : Str) (bytes : Bytes) (decoded : fromhex s = .ok bytes) : HexPairs s := by
  fun_induction fromhex s generalizing bytes with
  | case1 => exact .nil
  | case2 c space => exact .space c [] space .nil
  | case3 c plain => cases decoded
  | case4 c d rest space ih => exact .space c (d :: rest) space (ih bytes decoded)
  | case5 c d rest plain top bottom topEq bottomEq ih =>
      cases inner : fromhex rest with
      | error error =>
          rw [inner] at decoded
          cases decoded
      | ok tail =>
          exact .pair c d rest (by simp [*]) (by simp [*]) (ih tail inner)
  | case6 => cases decoded

theorem hex_pairs_chars (s : Str) (pairs : HexPairs s) :
    ∀ c ∈ s, (digitValue c).isSome ∨ isAsciiSpace c = true := by
  induction pairs with
  | nil => simp
  | space c rest space _ ih =>
      intro x member
      rcases List.mem_cons.mp member with rfl | later
      · exact Or.inr space
      · exact ih x later
  | pair c d rest top bottom _ ih =>
      intro x member
      rcases List.mem_cons.mp member with rfl | later
      · exact Or.inl top
      · rcases List.mem_cons.mp later with rfl | later
        · exact Or.inl bottom
        · exact ih x later

theorem lower_char_not_upper (c : CodePoint) : ∀ d ∈ lowerChar c, ¬ (0x41 ≤ d.val ∧ d.val ≤ 0x5A) := by
  intro d member
  unfold lowerChar at member
  split at member
  · rw [List.mem_singleton.mp member]
    simp only
    omega
  · split at member
    · simp only [List.mem_cons, List.not_mem_nil, or_false] at member
      rcases member with rfl | rfl <;> decide
    · split at member
      · rw [List.mem_singleton.mp member]
        decide
      · rw [List.mem_singleton.mp member]
        assumption

theorem lower_not_upper (s : Str) : ∀ d ∈ lower s, ¬ (0x41 ≤ d.val ∧ d.val ≤ 0x5A) := by
  intro d member
  obtain ⟨c, _, inChar⟩ := List.mem_flatMap.mp member
  exact lower_char_not_upper c d inChar

theorem removeprefix_mem (s pre : Str) : ∀ c ∈ removeprefix s pre, c ∈ s := by
  intro c member
  unfold removeprefix at member
  split at member
  · exact List.mem_of_mem_drop member
  · exact member

theorem mem_zfill (s : Str) (width : Nat) : ∀ c ∈ s, c ∈ zfill s width := by
  intro c member
  unfold zfill
  split
  · exact member
  · cases s with
    | nil => cases member
    | cons first rest =>
        simp only
        split
        · rcases List.mem_cons.mp member with rfl | later
          · exact List.mem_cons_self
          · exact List.mem_cons_of_mem _ (List.mem_append_right _ later)
        · exact List.mem_append_right _ member

theorem zfill_hex (s : Str) (width : Nat) (hex : ∀ c ∈ s, c ∈ hexDigits) :
    zfill s width = List.replicate (width - s.length) (cp '0') ++ s := by
  unfold zfill
  split
  · rename_i wide
    rw [Nat.sub_eq_zero_of_le wide]
    rfl
  · cases s with
    | nil => simp
    | cons first rest =>
        have unsigned : ¬ (first = cp '+' ∨ first = cp '-') := by
          rintro (rfl | rfl)
          · exact absurd (hex _ List.mem_cons_self) (by decide)
          · exact absurd (hex _ List.mem_cons_self) (by decide)
        simp only [if_neg unsigned]

theorem zero_mem_hex_digits : cp '0' ∈ hexDigits := by decide

theorem digit_value_hex_digit (value : Nat) (small : value < 16) : digitValue (hexDigit value) = some value := by
  have table : ∀ v : Fin 16, digitValue (hexDigit v.val) = some v.val := by decide +kernel
  exact table ⟨value, small⟩

theorem hex_digit_round (c : CodePoint) (digit : c ∈ hexDigits) :
    ∃ value, digitValue c = some value ∧ value < 16 ∧ hexDigit value = c := by
  have table : ∀ v : Fin 16, hexDigits.get (Fin.cast rfl v) = hexDigit v.val := by decide +kernel
  obtain ⟨index, symbol⟩ := List.mem_iff_get.mp digit
  have found : hexDigit index.val = c := by
    rw [← symbol]
    exact (table (Fin.cast rfl index)).symm
  exact ⟨index.val, by rw [← found]; exact digit_value_hex_digit index.val index.isLt, index.isLt, found⟩

theorem hex_byte (top bottom : Nat) (topSmall : top < 16) (bottomSmall : bottom < 16) :
    hex [UInt8.ofNat (16 * top + bottom)] = [hexDigit top, hexDigit bottom] := by
  have value : (UInt8.ofNat (16 * top + bottom)).toNat = 16 * top + bottom :=
    UInt8.toNat_ofNat_of_lt' (by change 16 * top + bottom < 256; omega)
  have high : (16 * top + bottom) / 16 = top := by omega
  have low : (16 * top + bottom) % 16 = bottom := by omega
  change [hexDigit ((UInt8.ofNat _).toNat / 16), hexDigit ((UInt8.ofNat _).toNat % 16)] = _
  rw [value, high, low]

theorem hex_cons (byte : UInt8) (rest : Bytes) : hex (byte :: rest) = hex [byte] ++ hex rest := by
  simp [hex]

@[simp] theorem length_hex (bytes : Bytes) : (hex bytes).length = 2 * bytes.length := by
  induction bytes with
  | nil => rfl
  | cons byte rest ih =>
      rw [hex_cons, List.length_append, ih]
      simp only [hex, List.flatMap_cons, List.flatMap_nil, List.append_nil, List.length_cons, List.length_nil]
      omega

theorem hex_of_fromhex (count : Nat) (s : Str) (length : s.length = 2 * count) (digits : ∀ c ∈ s, c ∈ hexDigits) :
    ∃ bytes, fromhex s = .ok bytes ∧ hex bytes = s := by
  induction count generalizing s with
  | zero =>
      have empty : s = [] := List.length_eq_zero_iff.mp length
      exact ⟨[], by rw [empty]; rfl, by rw [empty]; rfl⟩
  | succ count ih =>
      match s, length with
      | c :: d :: rest, length =>
          obtain ⟨top, topEq, topSmall, topChar⟩ := hex_digit_round c (digits c (by simp))
          obtain ⟨bottom, bottomEq, bottomSmall, bottomChar⟩ := hex_digit_round d (digits d (by simp))
          obtain ⟨bytes, decoded, encoded⟩ := ih rest
            (by simp only [List.length_cons] at length; omega) (fun x member => digits x (by simp [member]))
          refine ⟨UInt8.ofNat (16 * top + bottom) :: bytes, ?_, ?_⟩
          · rw [fromhex_pair c d rest top bottom topEq bottomEq, decoded]
            rfl
          · rw [hex_cons, hex_byte top bottom topSmall bottomSmall, encoded, topChar, bottomChar]
            rfl

theorem fromhex_hex (bytes : Bytes) : fromhex (hex bytes) = .ok bytes := by
  induction bytes with
  | nil => rfl
  | cons byte rest ih =>
      have bound := byte.toNat_lt
      have high := digit_value_hex_digit (byte.toNat / 16) (by omega)
      have low := digit_value_hex_digit (byte.toNat % 16) (Nat.mod_lt _ (by decide))
      change fromhex (hexDigit (byte.toNat / 16) :: hexDigit (byte.toNat % 16) :: hex rest) = _
      rw [fromhex_pair _ _ _ _ _ high low, ih]
      have whole : 16 * (byte.toNat / 16) + byte.toNat % 16 = byte.toNat := Nat.div_add_mod byte.toNat 16
      simp [whole, bind, Except.bind, pure, Except.pure]

theorem address_digits_chars (address : Str) (c : CodePoint) (member : c ∈ addressDigits address)
    (digit : (digitValue c).isSome) : c ∈ hexDigits := by
  have notUpper := lower_not_upper address c (removeprefix_mem _ _ c member)
  rw [digit_value_isSome] at digit
  rw [mem_hex_digits]
  omega

theorem normalize_ok_iff (address normal : Str) : normalizeIotaAddress address = .ok normal ↔
    (∀ c ∈ addressDigits address, c ∈ hexDigits) ∧ (addressDigits address).length ≤ 64 ∧
      normal = str "0x" ++ zfill (addressDigits address) 64 := by
  have width : iotaAddressLength * 2 = 64 := rfl
  simp only [normalizeIotaAddress, width]
  by_cases digits : ∀ c ∈ addressDigits address, c ∈ hexDigits
  · rw [if_neg (not_not.mpr digits)]
    by_cases long : (addressDigits address).length > 64
    · rw [if_pos long]
      exact ⟨fun ok => (by cases ok), fun ⟨_, short, _⟩ => absurd short (by omega)⟩
    · rw [if_neg long]
      refine ⟨fun ok => ⟨digits, by omega, (Except.ok.inj ok).symm⟩, fun ⟨_, _, same⟩ => by rw [same]⟩
  · rw [if_pos digits]
    exact ⟨fun ok => (by cases ok), fun ⟨valid, _⟩ => absurd valid digits⟩

-- An address the normalizer takes fills its slot, and the slot's hex is the
-- normalized text.
theorem address_bytes_of_normalize (address normal : Str) (valid : normalizeIotaAddress address = .ok normal) :
    ∃ bytes, addressBytes address = .ok bytes ∧ bytes.length = 32 ∧ normal = str "0x" ++ hex bytes := by
  obtain ⟨digits, short, normalEq⟩ := (normalize_ok_iff address normal).mp valid
  have padded := zfill_hex (addressDigits address) 64 digits
  have length : (zfill (addressDigits address) 64).length = 2 * 32 := by
    rw [padded, List.length_append, List.length_replicate]
    omega
  have paddedDigits : ∀ c ∈ zfill (addressDigits address) 64, c ∈ hexDigits := by
    intro c member
    rw [padded, List.mem_append] at member
    rcases member with zero | digit
    · rw [(List.mem_replicate.mp zero).2]
      exact zero_mem_hex_digits
    · exact digits c digit
  obtain ⟨bytes, decoded, encoded⟩ := hex_of_fromhex 32 _ length paddedDigits
  refine ⟨bytes, decoded, ?_, by rw [normalEq, encoded]⟩
  have total := length_hex bytes
  rw [encoded, length] at total
  omega

-- The strings that serialize_pure_address takes and normalize_iota_address
-- does not: white space is skipped and the length is never checked.
def AddressSlip (address : Str) : Prop :=
  HexPairs (zfill (addressDigits address) 64) ∧
    (64 < (addressDigits address).length ∨ ∃ c ∈ addressDigits address, isAsciiSpace c = true)

theorem address_bytes_iff (address : Str) : (∃ bytes, addressBytes address = .ok bytes) ↔
    (∃ normal, normalizeIotaAddress address = .ok normal) ∨ AddressSlip address := by
  refine ⟨?_, ?_⟩
  · intro ⟨bytes, decoded⟩
    have pairs := hex_pairs_of_fromhex _ bytes decoded
    by_cases spaced : ∃ c ∈ addressDigits address, isAsciiSpace c = true
    · exact Or.inr ⟨pairs, Or.inr spaced⟩
    · by_cases long : 64 < (addressDigits address).length
      · exact Or.inr ⟨pairs, Or.inl long⟩
      · have digits : ∀ c ∈ addressDigits address, c ∈ hexDigits := by
          intro c member
          rcases hex_pairs_chars _ pairs c (mem_zfill _ 64 c member) with digit | space
          · exact address_digits_chars address c member digit
          · exact absurd ⟨c, member, space⟩ spaced
        exact Or.inl ⟨_, (normalize_ok_iff address _).mpr ⟨digits, by omega, rfl⟩⟩
  · rintro (⟨normal, valid⟩ | ⟨pairs, _⟩)
    · obtain ⟨bytes, decoded, _⟩ := address_bytes_of_normalize address normal valid
      exact ⟨bytes, decoded⟩
    · exact fromhex_of_hex_pairs _ pairs

theorem address_slip_not_normal (address normal : Str) (slip : AddressSlip address) :
    normalizeIotaAddress address ≠ .ok normal := by
  intro valid
  obtain ⟨digits, short, _⟩ := (normalize_ok_iff address normal).mp valid
  rcases slip.2 with long | ⟨c, member, space⟩
  · omega
  · have digit := (mem_hex_digits c).mp (digits c member)
    simp only [isAsciiSpace, Bool.or_eq_true, beq_iff_eq, Bool.and_eq_true, decide_eq_true_eq] at space
    omega

def AddressParsersAgree (address : Str) : Prop :=
  ((∃ bytes, serializePureAddress address = .ok bytes) ↔ ∃ normal, normalizeIotaAddress address = .ok normal) ∧
    ∀ bytes normal, serializePureAddress address = .ok bytes → normalizeIotaAddress address = .ok normal →
      bytes.length = 32 ∧ normal = str "0x" ++ hex bytes

theorem parsers_agree_iff (address : Str) : AddressParsersAgree address ↔ ¬ AddressSlip address := by
  refine ⟨?_, ?_⟩
  · intro ⟨same, _⟩ slip
    obtain ⟨normal, valid⟩ := same.mp ((address_bytes_iff address).mpr (Or.inr slip))
    exact address_slip_not_normal address normal slip valid
  · intro noSlip
    refine ⟨?_, ?_⟩
    · rw [serializePureAddress, address_bytes_iff, or_iff_left noSlip]
    · intro bytes normal serialized valid
      obtain ⟨bytes', decoded, length, normalEq⟩ := address_bytes_of_normalize address normal valid
      have same : bytes' = bytes := Except.ok.inj (decoded.symm.trans serialized)
      rw [← same]
      exact ⟨length, normalEq⟩

theorem length_address_bytes (address : Str) (bytes : Bytes) (noSlip : ¬ AddressSlip address)
    (decoded : addressBytes address = .ok bytes) : bytes.length = 32 := by
  obtain ⟨normal, valid⟩ := ((parsers_agree_iff address).mpr noSlip).1.mp ⟨bytes, decoded⟩
  exact (((parsers_agree_iff address).mpr noSlip).2 bytes normal decoded valid).1

end PyIota
