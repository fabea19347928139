import PyIota.TypeTagEncoding

set_option autoImplicit false

namespace PyIota

inductive Taken : Str → Prop where
  | primitive (type : Primitive) : Taken type.name
  | vector (element : Str) (inner : Taken element) : Taken (str "vector<" ++ (element ++ [cp '>']))
  | struct (text addressStr module name : Str) (other : primitives.lookup text = none)
      (notVector : ¬ VectorShaped text) (parts : splitColons (structBase text) = [addressStr, module, name])
      (address : HexPairs (zfill (addressDigits addressStr) 64)) (moduleValid : encodable module)
      (nameValid : encodable name) (each : ∀ param ∈ structParams text, Taken param) : Taken text

-- The '<' the parser split at is not closed by the last character, which it
-- drops unseen, or nothing stands in the last parameter, which it skips.
def ParamsSlip (text : Str) : Prop :=
  0 ≤ findSplitPos 0 0 text ∧ (text.getLast? ≠ some (cp '>') ∨
    strip ((Nesting.pieces angleMarks 0 [] (structTypeParamsStr text)).getLastD []) = [])

def StructSlip (text addressStr module name : Str) : Prop :=
  addressStr = [] ∨ AddressSlip addressStr ∨ ¬ Identifier module ∨ ¬ Identifier name ∨ ParamsSlip text

-- A string the parser takes through a slip of its own or of a part it takes.
inductive Slip : Str → Prop where
  | vector (element : Str) (inner : Slip element) : Slip (str "vector<" ++ (element ++ [cp '>']))
  | struct (text addressStr module name : Str) (taken : Taken text) (other : primitives.lookup text = none)
      (notVector : ¬ VectorShaped text) (parts : splitColons (structBase text) = [addressStr, module, name])
      (slip : StructSlip text addressStr module name) : Slip text
  | param (text param : Str) (taken : Taken text) (other : primitives.lookup text = none)
      (notVector : ¬ VectorShaped text) (member : param ∈ structParams text) (slip : Slip param) : Slip text

-- An address somewhere in a type the parser takes does not fill its 32 bytes.
inductive UnslottedType : Str → Prop where
  | vector (element : Str) (inner : UnslottedType element) : UnslottedType (str "vector<" ++ (element ++ [cp '>']))
  | struct (text addressStr module name : Str) (address : Bytes) (taken : Taken text)
      (other : primitives.lookup text = none) (notVector : ¬ VectorShaped text)
      (parts : splitColons (structBase text) = [addressStr, module, name])
      (decoded : addressBytes addressStr = .ok address) (unsized : address.length ≠ 32) : UnslottedType text
  | param (text param : Str) (taken : Taken text) (other : primitives.lookup text = none)
      (notVector : ¬ VectorShaped text) (member : param ∈ structParams text) (inner : UnslottedType param) :
      UnslottedType text

theorem encode_str_ok_iff (text : Str) : (∃ data, encodeStr text = .ok data) ↔ encodable text := by
  refine ⟨?_, ?_⟩
  · intro ⟨data, encoded⟩
    obtain ⟨utf8, utf8Eq, _⟩ := encode_str_ok text data encoded
    by_contra surrogate
    rw [encodeUtf8, if_neg surrogate] at utf8Eq
    cases utf8Eq
  · exact encode_str_total text

theorem struct_tag_accepted_iff (text addressStr module name : Str)
    (parts : splitColons (structBase text) = [addressStr, module, name]) :
    (∃ data, serializeStructTag text = .ok data) ↔
      HexPairs (zfill (addressDigits addressStr) 64) ∧ encodable module ∧ encodable name ∧
        ∀ param ∈ structParams text, ∃ data, serializeTypeTag param = .ok data := by
  rw [serialize_struct_tag_eq text addressStr module name parts, ← encode_str_ok_iff module, ← encode_str_ok_iff name,
    ← Fallible.map_m_total]
  simp only [Fallible.bind_ok]
  refine ⟨?_, ?_⟩
  · intro ⟨data, address, addressEq, moduleData, moduleEq, nameData, nameEq, params, paramsEq, _⟩
    exact ⟨hex_pairs_of_fromhex _ address addressEq, ⟨moduleData, moduleEq⟩, ⟨nameData, nameEq⟩, params, paramsEq⟩
  · intro ⟨pairs, ⟨moduleData, moduleEq⟩, ⟨nameData, nameEq⟩, params, paramsEq⟩
    obtain ⟨address, addressEq⟩ := fromhex_of_hex_pairs _ pairs
    exact ⟨_, address, addressEq, moduleData, moduleEq, nameData, nameEq, params, paramsEq, rfl⟩

theorem struct_type_accepted_iff (text : Str) (other : primitives.lookup text = none)
    (notVector : ¬ VectorShaped text) :
    (∃ data, serializeTypeTag text = .ok data) ↔ ∃ data, serializeStructTag text = .ok data := by
  rw [serialize_type_tag_struct text other notVector, Fallible.map_total]

theorem vector_type_accepted_iff (element : Str) :
    (∃ data, serializeTypeTag (str "vector<" ++ (element ++ [cp '>'])) = .ok data) ↔
      ∃ data, serializeTypeTag element = .ok data := by
  rw [serialize_type_tag_vector _ (lookup_of_mark _ (Or.inr (List.mem_append_left _ (by decide))))
    (vector_shaped element), vector_inner, Fallible.map_total]

theorem accepted_of_taken (text : Str) (taken : Taken text) : ∃ data, serializeTypeTag text = .ok data := by
  induction taken with
  | primitive type =>
      obtain ⟨kind, found, _⟩ := lookup_primitive type
      exact ⟨_, serialize_type_tag_primitive _ kind found⟩
  | vector element _ ih => exact (vector_type_accepted_iff element).mpr ih
  | struct text addressStr module name other notVector parts address moduleValid nameValid _ ih =>
      rw [struct_type_accepted_iff text other notVector, struct_tag_accepted_iff text addressStr module name parts]
      exact ⟨address, moduleValid, nameValid, ih⟩

theorem three_parts_of_accepted (text : Str) (data : Bytes) (accepted : serializeStructTag text = .ok data) :
    ∃ addressStr module name, splitColons (structBase text) = [addressStr, module, name] := by
  by_contra none
  rw [serialize_struct_tag_invalid text (fun addressStr module name parts =>
    none ⟨addressStr, module, name, parts⟩)] at accepted
  cases accepted

theorem taken_of_accepted (text : Str) (accepted : ∃ data, serializeTypeTag text = .ok data) : Taken text := by
  induction size : text.length using Nat.strong_induction_on generalizing text with
  | _ length ih =>
      cases found : primitives.lookup text with
      | some kind =>
          obtain ⟨type, rfl⟩ := primitive_of_lookup text kind found
          exact .primitive type
      | none =>
          by_cases shaped : VectorShaped text
          · have shorter := length_vector_inner_lt text shaped
            rw [vector_of_shaped text shaped] at accepted ⊢
            exact .vector _ (ih _ (by omega) _ ((vector_type_accepted_iff _).mp accepted) rfl)
          · obtain ⟨data, dataEq⟩ := (struct_type_accepted_iff text found shaped).mp accepted
            obtain ⟨addressStr, module, name, parts⟩ := three_parts_of_accepted text data dataEq
            obtain ⟨address, moduleValid, nameValid, each⟩ :=
              (struct_tag_accepted_iff text addressStr module name parts).mp ⟨data, dataEq⟩
            refine .struct text addressStr module name found shaped parts address moduleValid nameValid ?_
            intro param member
            have shorter := length_struct_params_lt text param member
            exact ih _ (by omega) param (each param member) rfl

theorem slip_taken (text : Str) (slip : Slip text) : Taken text := by
  induction slip with
  | vector element _ ih => exact .vector element ih
  | struct text addressStr module name taken _ _ _ _ => exact taken
  | param text param taken _ _ _ _ _ => exact taken

theorem unslotted_type_slip (text : Str) (unslotted : UnslottedType text) : Slip text := by
  induction unslotted with
  | vector element _ ih => exact .vector element ih
  | struct text addressStr module name address taken other notVector parts decoded unsized =>
      have slip : AddressSlip addressStr := by
        by_contra noSlip
        exact unsized (length_address_bytes addressStr address noSlip decoded)
      exact .struct text addressStr module name taken other notVector parts (Or.inr (Or.inl slip))
  | param text param taken other notVector member _ ih => exact .param text param taken other notVector member ih

theorem no_struct_slip (base : StructName) (params : List SpacedText)
    (each : ∀ param ∈ params, MoveType param.core) :
    ¬ StructSlip (base.text ++ typeArguments params) base.address base.module base.name := by
  rintro (empty | addressSlip | moduleSlip | nameSlip | ⟨split, paramsSlip⟩)
  · exact base.addressNonempty empty
  · obtain ⟨normal, valid⟩ := base.addressNormal
    exact address_slip_not_normal base.address normal addressSlip valid
  · exact moduleSlip base.moduleValid
  · exact nameSlip base.nameValid
  · by_cases none : params = []
    · rw [typeArguments, if_pos none, List.append_nil, find_split_pos_plain 0 0 base.text base.plain] at split
      omega
    · have tight : ∀ param ∈ params, Tight param.core := fun param member => move_type_tight _ (each param member)
      obtain ⟨_, innerEq⟩ := struct_base_open base.text
        (Nesting.join angleMarks (params.map SpacedText.text)) (cp '>')
        (by simpa using find_split_pos_open 0 0 base.text _ base.plain rfl)
      rw [typeArguments, if_neg none] at paramsSlip
      rcases paramsSlip with unclosed | blank
      · rw [← List.cons_append, ← List.append_assoc, List.getLast?_concat] at unclosed
        exact unclosed rfl
      · rw [innerEq, Nesting.pieces_join angleMarks _ (by simpa using none) (by
          intro part member
          obtain ⟨param, inParams, rfl⟩ := List.mem_map.mp member
          exact spaced_passes param (move_type_passes _ (each param inParams)))] at blank
        obtain ⟨front, last, rfl⟩ : ∃ front last, params = front ++ [last] :=
          ⟨params.dropLast, params.getLast none, (List.dropLast_append_getLast none).symm⟩
        rw [List.map_append, List.map_singleton, List.getLastD_concat, strip_spaced last (tight last (by simp))] at blank
        exact (tight last (by simp)).1 blank

theorem move_type_no_slip (text : Str) (type : MoveType text) : ¬ Slip text := by
  induction type with
  | primitive type =>
      intro slip
      obtain ⟨kind, found, _⟩ := lookup_primitive type
      generalize same : type.name = text at slip found
      cases slip with
      | vector element inner =>
          rw [lookup_of_mark _ (Or.inr (List.mem_append_left _ (by decide)))] at found
          cases found
      | struct _ _ _ _ _ other => exact absurd (found.symm.trans other) (by simp)
      | param _ _ _ other => exact absurd (found.symm.trans other) (by simp)
  | vector element _ ih =>
      intro slip
      generalize same : str "vector<" ++ (element ++ [cp '>']) = text at slip
      cases slip with
      | vector inner innerSlip =>
          have inners : element = inner := by rw [← vector_inner element, same, vector_inner]
          rw [inners] at ih
          exact ih innerSlip
      | struct _ _ _ _ _ _ notVector =>
          rw [← same] at notVector
          exact notVector (vector_shaped element)
      | param _ _ _ _ notVector =>
          rw [← same] at notVector
          exact notVector (vector_shaped element)
  | struct base params each ih =>
      intro slip
      obtain ⟨baseEq, paramsEq⟩ := struct_reading base params each
      generalize same : base.text ++ typeArguments params = text at slip
      cases slip with
      | vector element inner =>
          exact struct_not_vector base (typeArguments params) (by rw [same]; exact vector_shaped element)
      | struct _ addressStr module name _ _ _ parts slip =>
          rw [← same, baseEq, struct_parts] at parts
          obtain ⟨rfl, rfl, rfl⟩ : base.address = addressStr ∧ base.module = module ∧ base.name = name := by
            simpa using parts
          rw [← same] at slip
          exact no_struct_slip base params each slip
      | param _ param _ _ _ member slip =>
          rw [← same, paramsEq] at member
          obtain ⟨spaced, inParams, rfl⟩ := List.mem_map.mp member
          exact ih spaced inParams slip

theorem move_type_slotted (text : Str) (type : MoveType text) : ¬ UnslottedType text := fun unslotted =>
  move_type_no_slip text type (unslotted_type_slip text unslotted)

def joinColons : List Str → Str
  | [] => []
  | [piece] => piece
  | piece :: rest => piece ++ (str "::" ++ joinColons rest)

theorem split_colons_from_ne_nil (current text : Str) : splitColonsFrom current text ≠ [] := by
  fun_induction splitColonsFrom current text <;> simp_all

theorem join_split_colons_from (current text : Str) : joinColons (splitColonsFrom current text) = current ++ text := by
  fun_induction splitColonsFrom current text with
  | case1 => simp [joinColons]
  | case2 => rfl
  | case3 current c d rest colons ih =>
      obtain ⟨rfl, rfl⟩ := colons
      obtain ⟨next, tail, more⟩ := List.exists_cons_of_ne_nil (split_colons_from_ne_nil [] rest)
      rw [more] at ih ⊢
      rw [joinColons, ih]
      · rfl
      · simp
  | case4 current c d rest _ ih => simpa using ih

theorem struct_text_of_parts (text addressStr module name : Str)
    (parts : splitColons text = [addressStr, module, name]) : text = structText addressStr module name := by
  have joined := join_split_colons_from [] text
  rw [show splitColonsFrom [] text = [addressStr, module, name] from parts] at joined
  exact joined.symm

theorem find_split_pos_at (depth : Int) (i pos : Nat) (text : Str) (found : findSplitPos depth i text = pos) :
    ∃ left right, text = left ++ cp '<' :: right ∧ i + left.length = pos := by
  fun_induction findSplitPos depth i text with
  | case1 => omega
  | case2 depth i ch rest hit => exact ⟨[], rest, by rw [hit.1]; rfl, by simpa using found⟩
  | case3 depth i rest _ ih =>
      obtain ⟨left, right, rfl, length⟩ := ih found
      exact ⟨cp '<' :: left, right, rfl, by simp only [List.length_cons]; omega⟩
  | case4 depth i rest _ _ ih =>
      obtain ⟨left, right, rfl, length⟩ := ih found
      exact ⟨cp '>' :: left, right, rfl, by simp only [List.length_cons]; omega⟩
  | case5 depth i ch rest _ _ _ ih =>
      obtain ⟨left, right, rfl, length⟩ := ih found
      exact ⟨ch :: left, right, rfl, by simp only [List.length_cons]; omega⟩

theorem drop_while_head (text : Str) (c : CodePoint) (head : (text.dropWhile isSpace).head? = some c) :
    isSpace c = false := by
  have stopped := List.head?_dropWhile_not isSpace text
  rw [head] at stopped
  simpa using stopped

theorem spaced_of (text : Str) : ∃ param : SpacedText, param.text = text ∧ param.core = strip text := by
  let body := text.dropWhile isSpace
  have blank (s : Str) : ∀ c ∈ s.takeWhile isSpace, isSpace c = true := fun c member => List.mem_takeWhile_imp member
  refine ⟨⟨text.takeWhile isSpace, strip text, (body.reverse.takeWhile isSpace).reverse, blank text, ?_⟩, ?_, rfl⟩
  · intro c member
    exact blank body.reverse c (List.mem_reverse.mp member)
  · have back : strip text ++ (body.reverse.takeWhile isSpace).reverse = body := by
      rw [strip, ← List.reverse_append, List.takeWhile_append_dropWhile, List.reverse_reverse]
    rw [SpacedText.text, back, List.takeWhile_append_dropWhile]

theorem strip_tight_of_ne_nil (text : Str) (nonempty : strip text ≠ []) : Tight (strip text) := by
  refine ⟨nonempty, ?_, ?_⟩
  · intro c head
    obtain ⟨param, paramText, core⟩ := spaced_of text
    have front : strip text <+: text.dropWhile isSpace := by
      rw [strip, ← List.reverse_suffix, List.reverse_reverse]
      exact List.dropWhile_suffix isSpace
    obtain ⟨after, afterEq⟩ := front
    apply drop_while_head text c
    rw [← afterEq, List.head?_append_of_ne_nil _ nonempty]
    exact head
  · intro c last
    rw [strip, List.getLast?_reverse] at last
    exact drop_while_head _ c last

theorem strip_strip (text : Str) : strip (strip text) = strip text := by
  by_cases nonempty : strip text = []
  · rw [nonempty]
    rfl
  · exact strip_tight _ (strip_tight_of_ne_nil text nonempty)

theorem keep_pieces_of_last (pieces : List Str) (nonempty : pieces ≠ []) (kept : strip (pieces.getLastD []) ≠ []) :
    keepPieces pieces = pieces.map strip := by
  obtain ⟨front, last, rfl⟩ : ∃ front last, pieces = front ++ [last] :=
    ⟨pieces.dropLast, pieces.getLast nonempty, (List.dropLast_append_getLast nonempty).symm⟩
  rw [keepPieces, if_neg kept, List.dropLast_concat, List.getLastD_concat, List.map_append]
  rfl

-- Split at a '<' that the last character closes.
theorem closed_split (text : Str) (pos : Nat) (posEq : findSplitPos 0 0 text = pos)
    (closed : text.getLast? = some (cp '>')) : ∃ left inner, text = left ++ cp '<' :: (inner ++ [cp '>']) ∧
      structBase text = left ∧ structTypeParamsStr text = inner := by
  obtain ⟨left, right, rfl, length⟩ := find_split_pos_at 0 0 pos text posEq
  rw [Nat.zero_add] at length
  have rightNonempty : right ≠ [] := by
    intro empty
    rw [empty, List.getLast?_concat] at closed
    exact absurd closed (by decide)
  obtain ⟨inner, last, rfl⟩ : ∃ inner last, right = inner ++ [last] :=
    ⟨right.dropLast, right.getLast rightNonempty, (List.dropLast_append_getLast rightNonempty).symm⟩
  obtain ⟨leftEq, innerEq⟩ := struct_base_open left inner last (by rw [posEq, length])
  have lastEq : last = cp '>' := by
    rw [← List.cons_append, ← List.append_assoc, List.getLast?_concat] at closed
    exact Option.some.inj closed
  subst lastEq
  exact ⟨left, inner, rfl, leftEq, innerEq⟩

theorem spaced_pieces (inner : Str) : ∃ params : List SpacedText, params ≠ [] ∧
    Nesting.join angleMarks (params.map SpacedText.text) = inner ∧
      params.map SpacedText.core = (Nesting.pieces angleMarks 0 [] inner).map strip := by
  choose spaced spacedText spacedCore using spaced_of
  have texts : SpacedText.text ∘ spaced = id := funext spacedText
  have cores : SpacedText.core ∘ spaced = strip := funext spacedCore
  refine ⟨(Nesting.pieces angleMarks 0 [] inner).map spaced, ?_, ?_, ?_⟩
  · simpa using Nesting.pieces_ne_nil angleMarks 0 [] inner
  · rw [List.map_map, texts, List.map_id]
    exact Nesting.join_pieces angleMarks 0 [] inner
  · rw [List.map_map, cores]

theorem struct_params_of_last (text : Str)
    (kept : strip ((Nesting.pieces angleMarks 0 [] (structTypeParamsStr text)).getLastD []) ≠ []) :
    structParams text = (Nesting.pieces angleMarks 0 [] (structTypeParamsStr text)).map strip := by
  have nonempty := Nesting.pieces_ne_nil angleMarks 0 [] (structTypeParamsStr text)
  have present : structTypeParamsStr text ≠ [] := by
    intro empty
    rw [empty] at kept
    exact kept rfl
  rw [structParams, if_pos present, split_type_params_eq, keep_pieces_of_last _ nonempty kept, List.map_map]
  exact List.map_congr_left (fun piece _ => strip_strip piece)

-- Without a slip at its own level a struct type is what the grammar puts
-- together from the pieces the parser cut out.
theorem struct_type_of_no_slip (text addressStr module name : Str)
    (parts : splitColons (structBase text) = [addressStr, module, name])
    (address : HexPairs (zfill (addressDigits addressStr) 64))
    (each : ∀ param ∈ structParams text, MoveType param)
    (noSlip : ¬ StructSlip text addressStr module name) : MoveType text := by
  simp only [StructSlip, ParamsSlip, not_or, not_not] at noSlip
  obtain ⟨addressNonempty, noAddressSlip, moduleValid, nameValid, noParamsSlip⟩ := noSlip
  have normal : ∃ normal, normalizeIotaAddress addressStr = .ok normal :=
    ((address_bytes_iff addressStr).mp (fromhex_of_hex_pairs _ address)).resolve_right noAddressSlip
  let base : StructName := ⟨addressStr, module, name, addressNonempty, normal, moduleValid, nameValid⟩
  have baseText : structBase text = base.text := struct_text_of_parts _ _ _ _ parts
  rcases find_split_pos_range 0 0 text with unsplit | ⟨nonneg, _⟩
  · have whole : text = base.text ++ typeArguments [] := by
      rw [← baseText, structBase, unsplit]
      simp [typeArguments]
    rw [whole]
    exact .struct base [] (by simp)
  · obtain ⟨pos, posEq⟩ := Int.eq_ofNat_of_zero_le (by simpa using nonneg : 0 ≤ findSplitPos 0 0 text)
    obtain ⟨closed, kept⟩ : text.getLast? = some (cp '>') ∧
        strip ((Nesting.pieces angleMarks 0 [] (structTypeParamsStr text)).getLastD []) ≠ [] := by
      simpa [posEq] using noParamsSlip
    obtain ⟨left, inner, textEq, leftEq, innerEq⟩ := closed_split text pos posEq closed
    obtain ⟨params, nonempty, joined, cores⟩ := spaced_pieces inner
    have paramsEq := struct_params_of_last text kept
    rw [innerEq, ← cores] at paramsEq
    have whole : text = base.text ++ typeArguments params := by
      rw [typeArguments, if_neg (by simpa using nonempty), joined, ← baseText, leftEq, textEq]
    rw [whole]
    apply MoveType.struct base params
    intro param member
    apply each
    rw [paramsEq]
    exact List.mem_map_of_mem member

theorem move_type_of_no_slip (text : Str) (taken : Taken text) (noSlip : ¬ Slip text) : MoveType text := by
  induction taken with
  | primitive type => exact .primitive type
  | vector element _ ih => exact .vector element (ih (fun slip => noSlip (.vector element slip)))
  | struct text addressStr module name other notVector parts address moduleValid nameValid each ih =>
      have taken : Taken text :=
        .struct text addressStr module name other notVector parts address moduleValid nameValid each
      refine struct_type_of_no_slip text addressStr module name parts address ?_ ?_
      · intro param member
        exact ih param member (fun slip => noSlip (.param text param taken other notVector member slip))
      · intro slip
        exact noSlip (.struct text addressStr module name taken other notVector parts slip)

theorem type_tag_within_grammar_iff (text : Str) :
    ((∃ data, serializeTypeTag text = .ok data) → MoveType text) ↔ ¬ Slip text := by
  refine ⟨?_, ?_⟩
  · intro within slip
    exact move_type_no_slip text (within (accepted_of_taken text (slip_taken text slip))) slip
  · intro noSlip accepted
    exact move_type_of_no_slip text (taken_of_accepted text accepted) noSlip

-- The missing '>' costs the inner name its last letter: it is encoded as
-- Coin<0x2::iota::IOT>.
def unclosedType : Str := str "0x2::coin::Coin<0x2::iota::IOTA"

theorem short_address_pairs : HexPairs (zfill (addressDigits (str "0x2")) 64) := by
  have named : NamesAddress (str "0x2") (List.replicate 31 0 ++ [2]) :=
    ⟨rfl, str "0x", str "2", by decide, rfl, 63, by decide +kernel⟩
  exact hex_pairs_of_fromhex _ _ (named_address _ _ named).2

theorem iot_type_taken : Taken (str "0x2::iota::IOT") :=
  .struct _ (str "0x2") (str "iota") (str "IOT") (lookup_of_mark _ (by decide +kernel)) (by decide +kernel)
    (by decide +kernel) short_address_pairs (by decide +kernel) (by decide +kernel) (by
      rw [show structParams (str "0x2::iota::IOT") = [] by decide +kernel]
      simp)

theorem unclosed_type_taken : Taken unclosedType :=
  .struct _ (str "0x2") (str "coin") (str "Coin") (lookup_of_mark _ (by decide +kernel)) (by decide +kernel)
    (by decide +kernel) short_address_pairs (by decide +kernel) (by decide +kernel) (by
      rw [show structParams unclosedType = [str "0x2::iota::IOT"] by decide +kernel, List.forall_mem_singleton]
      exact iot_type_taken)

theorem unclosed_type_accepted :
    (∃ data, serializeTypeTag unclosedType = .ok data) ∧ ¬ MoveType unclosedType := by
  refine ⟨accepted_of_taken _ unclosed_type_taken, fun type => move_type_no_slip _ type ?_⟩
  have slip : StructSlip unclosedType (str "0x2") (str "coin") (str "Coin") :=
    Or.inr (Or.inr (Or.inr (Or.inr ⟨by decide +kernel, Or.inl (by decide +kernel)⟩)))
  exact .struct _ _ _ _ unclosed_type_taken (lookup_of_mark _ (by decide +kernel)) (by decide +kernel)
    (by decide +kernel) slip

end PyIota
