import PyIota.TypeTagEncoding

set_option autoImplicit false

namespace PyIota

theorem lower_hex_digits (text : Str) (digits : ∀ c ∈ text, c ∈ hexDigits) : lower text = text := by
  induction text with
  | nil => rfl
  | cons c rest ih =>
      rw [List.forall_mem_cons] at digits
      have kept : lowerChar c = [c] := by
        have table : ∀ digit ∈ hexDigits, lowerChar digit = [digit] := by decide +kernel
        exact table c digits.1
      have tail := ih digits.2
      unfold lower at tail ⊢
      rw [List.flatMap_cons, kept, tail]
      rfl

theorem hex_address_normal (data : Bytes) (sized : data.length = 32) :
    normalizeIotaAddress (str "0x" ++ hex data) = .ok (str "0x" ++ hex data) ∧
      addressBytes (str "0x" ++ hex data) = .ok data := by
  have digits : addressDigits (str "0x" ++ hex data) = hex data := by
    have marked : lower (str "0x") = str "0x" := by decide +kernel
    have lowered : lower (str "0x" ++ hex data) = str "0x" ++ hex data := by
      rw [lower, List.flatMap_append, ← lower, ← lower, marked, lower_hex_digits _ (hex_chars data)]
    have starts : startswith (str "0x" ++ hex data) (str "0x") := List.prefix_append _ _
    rw [addressDigits, lowered, removeprefix, if_pos starts, List.drop_left]
  have length : (hex data).length = 64 := by
    rw [length_hex, sized]
  have padded : zfill (hex data) 64 = hex data := by
    rw [zfill_hex _ _ (hex_chars data), length]
    rfl
  refine ⟨?_, ?_⟩
  · rw [normalize_ok_iff, digits, padded]
    exact ⟨hex_chars data, le_of_eq length, rfl⟩
  · rw [addressBytes, digits, show addressLength * 2 = 64 from rfl, padded]
    exact fromhex_hex data

theorem normal_address (address normal : Str) (valid : normalizeIotaAddress address = .ok normal) :
    normalizeIotaAddress normal = .ok normal ∧ normal.length = 66 ∧
      ∃ data, data.length = 32 ∧ addressBytes address = .ok data ∧ addressBytes normal = .ok data := by
  obtain ⟨data, decoded, sized, rfl⟩ := address_bytes_of_normalize address normal valid
  obtain ⟨same, bytes⟩ := hex_address_normal data sized
  refine ⟨same, ?_, data, sized, decoded, bytes⟩
  rw [List.length_append, length_hex, sized]
  rfl

-- Every account has one normal address, and normalizing any other that names it
-- gives this one.
theorem normal_addresses_canonical :
    (∀ address normal, normalizeIotaAddress address = .ok normal →
      normalizeIotaAddress normal = .ok normal ∧ normal.length = 66 ∧
        ∃ data, data.length = 32 ∧ addressBytes address = .ok data ∧ addressBytes normal = .ok data) ∧
    (∀ address other normal otherNormal, normalizeIotaAddress address = .ok normal →
      normalizeIotaAddress other = .ok otherNormal →
        (normal = otherNormal ↔ addressBytes address = addressBytes other)) ∧
    ∀ data : Bytes, data.length = 32 → ∃ normal, normalizeIotaAddress normal = .ok normal ∧ addressBytes normal = .ok data := by
  refine ⟨normal_address, ?_, ?_⟩
  · intro address other normal otherNormal valid otherValid
    obtain ⟨data, decoded, _, rfl⟩ := address_bytes_of_normalize address normal valid
    obtain ⟨otherData, otherDecoded, _, rfl⟩ := address_bytes_of_normalize other otherNormal otherValid
    rw [decoded, otherDecoded]
    refine ⟨?_, ?_⟩
    · intro same
      have texts : hex data = hex otherData := List.append_cancel_left same
      rw [← fromhex_hex data, ← fromhex_hex otherData, texts]
    · intro same
      rw [Except.ok.inj same]
  · intro data sized
    exact ⟨_, hex_address_normal data sized⟩

end PyIota
