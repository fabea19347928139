import PyIota.Address

set_option autoImplicit false

namespace PyIota

-- What the text of an address says, whoever reads it: 32 bytes in hex digits of
-- either case, with or without the prefix and with any number of the leading
-- zeros left out.
def NamesAddress (text : Str) (address : Bytes) : Prop :=
  address.length = 32 ∧ ∃ pre digits, (pre = [] ∨ pre = str "0x" ∨ pre = str "0X") ∧
    text = pre ++ digits ∧ ∃ zeros, hex address = List.replicate zeros (cp '0') ++ lower digits

theorem hex_chars (bytes : Bytes) : ∀ c ∈ hex bytes, c ∈ hexDigits := by
  have table : ∀ v : Fin 16, hexDigit v.val ∈ hexDigits := by decide +kernel
  intro c member
  obtain ⟨byte, _, inPair⟩ := List.mem_flatMap.mp member
  have bound := byte.toNat_lt
  simp only [List.mem_cons, List.not_mem_nil, or_false] at inPair
  rcases inPair with rfl | rfl
  · exact table ⟨byte.toNat / 16, by omega⟩
  · exact table ⟨byte.toNat % 16, by omega⟩

theorem address_digits_named (pre digits : Str) (prefixed : pre = [] ∨ pre = str "0x" ∨ pre = str "0X")
    (valid : ∀ c ∈ lower digits, c ∈ hexDigits) : addressDigits (pre ++ digits) = lower digits := by
  have parts : lower (pre ++ digits) = lower pre ++ lower digits := List.flatMap_append
  rw [addressDigits, parts]
  have cut : removeprefix (str "0x" ++ lower digits) (str "0x") = lower digits := by
    rw [ removeprefix, if_pos ⟨lower digits, rfl⟩, List.drop_left]
  rcases prefixed with rfl | rfl | rfl
  · have noPrefix : ¬ startswith (lower digits) (str "0x") := by
      intro ⟨tail, tailEq⟩
      have member : cp 'x' ∈ lower digits := by
        rw [← tailEq]
        exact List.mem_append_left _ (by decide)
      exact absurd (valid _ member) (by decide)
    change removeprefix (lower digits) (str "0x") = _
    rw [ removeprefix, if_neg noPrefix]
  · exact cut
  · exact cut

theorem named_address (text : Str) (address : Bytes) (named : NamesAddress text address) :
    normalizeIotaAddress text = .ok (str "0x" ++ hex address) ∧ addressBytes text = .ok address := by
  obtain ⟨length, pre, digits, prefixed, rfl, zeros, hexEq⟩ := named
  have valid : ∀ c ∈ lower digits, c ∈ hexDigits := by
    intro c member
    apply hex_chars address
    rw [hexEq]
    exact List.mem_append_right _ member
  have digitsEq := address_digits_named pre digits prefixed valid
  have total : zeros + (lower digits).length = 64 := by
    have lengths := congrArg List.length hexEq
    rw [length_hex, List.length_append, List.length_replicate] at lengths
    omega
  have padded : zfill (addressDigits (pre ++ digits)) 64 = hex address := by
    rw [digitsEq, zfill_hex _ 64 valid, hexEq, show 64 - (lower digits).length = zeros by omega]
  refine ⟨?_, ?_⟩
  · rw [normalize_ok_iff, padded, digitsEq]
    exact ⟨valid, by omega, rfl⟩
  · change fromhex (zfill (addressDigits (pre ++ digits)) 64) = .ok address
    rw [padded, fromhex_hex]

theorem lower_cons (c : CodePoint) (text : Str) : lower (c :: text) = lowerChar c ++ lower text := rfl

theorem lower_char_zero (c : CodePoint) (rest tail : Str) (first : lowerChar c ++ rest = cp '0' :: tail) :
    c = cp '0' ∧ rest = tail := by
  unfold lowerChar at first
  split at first
  · obtain ⟨head, _⟩ := List.cons.inj first
    have value := congrArg Fin.val head
    change c.val + 0x20 = 0x30 at value
    omega
  · split at first
    · exact absurd (List.cons.inj first).1 (by decide)
    · split at first
      · exact absurd (List.cons.inj first).1 (by decide)
      · exact List.cons.inj first

theorem lower_char_x (c : CodePoint) (rest tail : Str) (first : lowerChar c ++ rest = cp 'x' :: tail) :
    (c = cp 'x' ∨ c = cp 'X') ∧ rest = tail := by
  unfold lowerChar at first
  split at first
  · obtain ⟨head, tails⟩ := List.cons.inj first
    have value := congrArg Fin.val head
    change c.val + 0x20 = 0x78 at value
    exact ⟨Or.inr (Fin.ext (by change c.val = 0x58; omega)), tails⟩
  · split at first
    · exact absurd (List.cons.inj first).1 (by decide)
    · split at first
      · exact absurd (List.cons.inj first).1 (by decide)
      · exact ⟨Or.inl (List.cons.inj first).1, (List.cons.inj first).2⟩

theorem lower_zero_x (text tail : Str) (starts : lower text = str "0x" ++ tail) :
    ∃ pre digits, (pre = str "0x" ∨ pre = str "0X") ∧ text = pre ++ digits ∧ lower digits = tail := by
  cases text with
  | nil => exact absurd starts (by simp [lower, str])
  | cons first rest =>
      rw [lower_cons] at starts
      obtain ⟨rfl, restEq⟩ := lower_char_zero first _ _ starts
      cases rest with
      | nil => exact absurd restEq (by simp [lower])
      | cons second digits =>
          rw [lower_cons] at restEq
          obtain ⟨rfl | rfl, digitsEq⟩ := lower_char_x second _ _ restEq
          · exact ⟨str "0x", digits, Or.inl rfl, rfl, digitsEq⟩
          · exact ⟨str "0X", digits, Or.inr rfl, rfl, digitsEq⟩

theorem normal_address_named (text normal : Str) (valid : normalizeIotaAddress text = .ok normal) :
    ∃ address, NamesAddress text address := by
  obtain ⟨address, decoded, length, normalEq⟩ := address_bytes_of_normalize text normal valid
  obtain ⟨digitsValid, _, normalText⟩ := (normalize_ok_iff text normal).mp valid
  have hexEq : hex address = List.replicate (64 - (addressDigits text).length) (cp '0') ++ addressDigits text := by
    rw [← zfill_hex _ 64 digitsValid]
    exact List.append_cancel_left (normalEq.symm.trans normalText)
  refine ⟨address, length, ?_⟩
  by_cases starts : startswith (lower text) (str "0x")
  · obtain ⟨tail, tailEq⟩ := starts
    obtain ⟨pre, digits, prefixed, textEq, digitsEq⟩ := lower_zero_x text tail tailEq.symm
    have cut : addressDigits text = lower digits := by
      rw [addressDigits, removeprefix, if_pos ⟨tail, tailEq⟩, ← tailEq, List.drop_left, digitsEq]
    exact ⟨pre, digits, Or.inr prefixed, textEq, _, by rw [← cut]; exact hexEq⟩
  · have cut : addressDigits text = lower text := by rw [addressDigits, removeprefix, if_neg starts]
    exact ⟨[], text, Or.inl rfl, rfl, _, by rw [← cut]; exact hexEq⟩

theorem clean_address_iff (text : Str) (address : Bytes) (noSlip : ¬ AddressSlip text) :
    addressBytes text = .ok address ↔ NamesAddress text address := by
  refine ⟨?_, fun named => (named_address text address named).2⟩
  intro decoded
  obtain ⟨normal, valid⟩ := ((parsers_agree_iff text).mpr noSlip).1.mp ⟨address, decoded⟩
  obtain ⟨other, named⟩ := normal_address_named text normal valid
  obtain rfl := Except.ok.inj ((named_address text other named).2.symm.trans decoded)
  exact named

noncomputable def addressOf (text : Str) : Option Bytes :=
  open Classical in if named : ∃ address, NamesAddress text address then some named.choose else none

theorem address_of_iff (text : Str) (address : Bytes) : addressOf text = some address ↔ NamesAddress text address := by
  by_cases named : ∃ address, NamesAddress text address
  · rw [addressOf, dif_pos named, Option.some.injEq]
    refine ⟨?_, ?_⟩
    · rintro rfl
      exact named.choose_spec
    · intro other
      have chosen := (named_address text named.choose named.choose_spec).2
      exact Except.ok.inj (chosen.symm.trans (named_address text address other).2)
  · rw [addressOf, dif_neg named]
    refine ⟨?_, fun other => absurd ⟨address, other⟩ named⟩
    intro found
    cases found

end PyIota
