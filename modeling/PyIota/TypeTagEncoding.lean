import PyIota.MoveType

set_option autoImplicit false

namespace PyIota

theorem spelled_struct_name (address : Bytes) (addressStr module name : Str)
    (addressValid : SpellsAddress address addressStr) (moduleValid : Identifier module)
    (nameValid : Identifier name) : ∃ base : StructName, base.text = structText addressStr module name ∧
      base.address = addressStr ∧ base.module = module ∧ base.name = name := by
  have normal := (named_address addressStr address addressValid.2).1
  exact ⟨⟨addressStr, module, name, addressValid.1, ⟨_, normal⟩, moduleValid, nameValid⟩, rfl, rfl, rfl, rfl⟩

theorem spelling_is_move_type (tag : TypeTag) (text : Str) (spelled : Spells tag text) : MoveType text := by
  induction spelled with
  | primitive type => exact .primitive type
  | vector element text _ ih => exact .vector text ih
  | struct address addressStr module name params addressValid moduleValid nameValid _ ih =>
      obtain ⟨base, textEq, _⟩ := spelled_struct_name address addressStr module name addressValid moduleValid nameValid
      rw [← textEq]
      refine .struct base (params.map Prod.snd) ?_
      intro param member
      obtain ⟨pair, inParams, rfl⟩ := List.mem_map.mp member
      exact ih pair inParams

theorem move_type_spelled (text : Str) (type : MoveType text) : ∃ tag, Spells tag text := by
  induction type with
  | primitive type => exact ⟨_, .primitive type⟩
  | vector element _ ih =>
      obtain ⟨tag, spelled⟩ := ih
      exact ⟨_, .vector tag element spelled⟩
  | struct base params _ ih =>
      obtain ⟨normal, valid⟩ := base.addressNormal
      obtain ⟨address, named⟩ := normal_address_named base.address normal valid
      choose tags spelled using ih
      let pairs := params.attach.map fun param => (tags param.val param.property, param.val)
      have texts : pairs.map Prod.snd = params := by
        rw [List.map_map]
        exact List.attach_map_subtype_val params
      refine ⟨.struct address base.module base.name (pairs.map Prod.fst), ?_⟩
      have whole := Spells.struct address base.address base.module base.name pairs
        ⟨base.addressNonempty, named⟩ base.moduleValid
        base.nameValid (by
          intro pair member
          obtain ⟨param, _, rfl⟩ := List.mem_map.mp member
          exact spelled param.val param.property)
      rw [texts] at whole
      exact whole

-- A spelled struct type is read back piece by piece.
theorem spelled_struct_reading (address : Bytes) (addressStr module name : Str) (params : List (TypeTag × SpacedText))
    (addressValid : SpellsAddress address addressStr) (moduleValid : Identifier module) (nameValid : Identifier name)
    (each : ∀ param ∈ params, Spells param.1 param.2.core) :
    ∃ text, text = structText addressStr module name ++ typeArguments (params.map Prod.snd) ∧
      primitives.lookup text = none ∧ ¬ VectorShaped text ∧
      splitColons (structBase text) = [addressStr, module, name] ∧
      structParams text = params.map fun param => param.2.core := by
  obtain ⟨base, textEq, addressEq, moduleEq, nameEq⟩ :=
    spelled_struct_name address addressStr module name addressValid moduleValid nameValid
  have types : ∀ param ∈ params.map Prod.snd, MoveType param.core := by
    intro param member
    obtain ⟨pair, inParams, rfl⟩ := List.mem_map.mp member
    exact spelling_is_move_type pair.1 pair.2.core (each pair inParams)
  obtain ⟨baseEq, paramsEq⟩ := struct_reading base (params.map Prod.snd) types
  refine ⟨base.text ++ typeArguments (params.map Prod.snd), by rw [textEq], struct_not_primitive base _,
    struct_not_vector base _, ?_, ?_⟩
  · rw [baseEq, struct_parts, addressEq, moduleEq, nameEq]
  · rw [paramsEq, List.map_map]
    rfl

theorem primitive_name_injective (left right : Primitive) (same : left.name = right.name) : left = right := by
  revert same
  cases left <;> cases right <;> decide

theorem spelled_params_unique (params others : List (TypeTag × SpacedText))
    (same : (params.map fun param => param.2.core) = others.map fun param => param.2.core)
    (unique : ∀ param ∈ params, ∀ tag, Spells tag param.2.core → tag = param.1)
    (each : ∀ other ∈ others, Spells other.1 other.2.core) : others.map Prod.fst = params.map Prod.fst := by
  induction params generalizing others with
  | nil =>
      have empty : others = [] := by simpa using same.symm
      rw [empty]
  | cons param params ih =>
      cases others with
      | nil => cases same
      | cons other others =>
          obtain ⟨(core : param.2.core = other.2.core), rest⟩ := List.cons.inj same
          have head : other.1 = param.1 := by
            apply unique param List.mem_cons_self
            rw [core]
            exact each other List.mem_cons_self
          have tail := ih others rest (fun p member => unique p (List.mem_cons_of_mem _ member))
            (fun o member => each o (List.mem_cons_of_mem _ member))
          rw [List.map_cons, List.map_cons, head, tail]

-- The grammar is unambiguous: a text spells one type at most.
theorem spells_unique (tag other : TypeTag) (text : Str) (spelled : Spells tag text) (alike : Spells other text) :
    other = tag := by
  induction spelled generalizing other with
  | primitive type =>
      obtain ⟨kind, found, _⟩ := lookup_primitive type
      generalize same : type.name = text at alike found
      cases alike with
      | primitive second => rw [primitive_name_injective type second same]
      | vector element inner spelled =>
          rw [lookup_of_mark _ (Or.inr (List.mem_append_left _ (by decide)))] at found
          cases found
      | struct address addressStr module name params addressValid moduleValid nameValid each =>
          obtain ⟨_, rfl, other, _⟩ :=
            spelled_struct_reading address addressStr module name params addressValid moduleValid nameValid each
          exact absurd (found.symm.trans other) (by simp)
  | vector element text _ ih =>
      generalize same : str "vector<" ++ (text ++ [cp '>']) = whole at alike
      cases alike with
      | primitive second =>
          obtain ⟨kind, found, _⟩ := lookup_primitive second
          rw [← same, lookup_of_mark _ (Or.inr (List.mem_append_left _ (by decide)))] at found
          cases found
      | vector second inner spelled =>
          have inners : text = inner := by rw [← vector_inner text, same, vector_inner]
          rw [ih second (by rw [inners]; exact spelled)]
      | struct address addressStr module name params addressValid moduleValid nameValid each =>
          obtain ⟨_, rfl, _, notVector, _⟩ :=
            spelled_struct_reading address addressStr module name params addressValid moduleValid nameValid each
          rw [← same] at notVector
          exact absurd (vector_shaped text) notVector
  | struct address addressStr module name params addressValid moduleValid nameValid each ih =>
      obtain ⟨whole, wholeEq, lookup, notVector, parts, paramsEq⟩ :=
        spelled_struct_reading address addressStr module name params addressValid moduleValid nameValid each
      rw [← wholeEq] at alike
      clear wholeEq
      cases alike with
      | primitive second =>
          obtain ⟨kind, found, _⟩ := lookup_primitive second
          exact absurd (found.symm.trans lookup) (by simp)
      | vector second inner spelled => exact absurd (vector_shaped inner) notVector
      | struct secondAddress secondAddressStr secondModule secondName others secondValid secondModuleValid
          secondNameValid secondEach =>
          obtain ⟨_, rfl, _, _, secondParts, secondParamsEq⟩ := spelled_struct_reading secondAddress secondAddressStr
            secondModule secondName others secondValid secondModuleValid secondNameValid secondEach
          obtain ⟨rfl, rfl, rfl⟩ : addressStr = secondAddressStr ∧ module = secondModule ∧ name = secondName := by
            simpa using parts.symm.trans secondParts
          have addresses : address = secondAddress := Except.ok.inj
            ((named_address addressStr address addressValid.2).2.symm.trans
              (named_address addressStr secondAddress secondValid.2).2)
          have tags := spelled_params_unique params others (paramsEq.symm.trans secondParamsEq)
            (fun param member tag spelled => ih param member tag spelled) secondEach
          rw [addresses, tags]

theorem map_m_encode_all (texts : List Str) (tags : List TypeTag)
    (each : List.Forall₂ (fun text tag => serializeTypeTag text = tag.encode) texts tags) :
    (do
      let pieces ← texts.mapM serializeTypeTag
      pure pieces.flatten) = TypeTag.encodeAll tags := by
  induction each with
  | nil => rfl
  | cons head _ ih =>
      rw [List.mapM_cons, TypeTag.encodeAll, head, ← ih]
      simp only [bind_assoc, pure_bind, List.flatten_cons]

mutual

def TypeTag.Encodable : TypeTag → Prop
  | .primitive _ => True
  | .vector element => element.Encodable
  | .struct _ module name params => encodable module ∧ encodable name ∧ TypeTag.AllEncodable params

def TypeTag.AllEncodable : List TypeTag → Prop
  | [] => True
  | tag :: rest => tag.Encodable ∧ TypeTag.AllEncodable rest

end

theorem encode_str_total (text : Str) (valid : encodable text) : ∃ data, encodeStr text = .ok data :=
  ⟨_, by rw [encodeStr, encodeUtf8, if_pos valid]; rfl⟩

mutual

theorem encode_total (tag : TypeTag) (valid : tag.Encodable) : ∃ data, tag.encode = .ok data := by
  cases tag with
  | primitive type => exact ⟨_, rfl⟩
  | vector element =>
      obtain ⟨data, dataEq⟩ := encode_total element valid
      exact ⟨6 :: data, by rw [TypeTag.encode, dataEq]; rfl⟩
  | struct address module name params =>
      obtain ⟨moduleData, moduleEq⟩ := encode_str_total module valid.1
      obtain ⟨nameData, nameEq⟩ := encode_str_total name valid.2.1
      obtain ⟨paramsData, paramsEq⟩ := encode_all_total params valid.2.2
      exact ⟨_, by rw [TypeTag.encode, moduleEq, nameEq, paramsEq]; rfl⟩

theorem encode_all_total (tags : List TypeTag) (valid : TypeTag.AllEncodable tags) :
    ∃ data, TypeTag.encodeAll tags = .ok data := by
  cases tags with
  | nil => exact ⟨[], rfl⟩
  | cons tag rest =>
      obtain ⟨tagData, tagEq⟩ := encode_total tag valid.1
      obtain ⟨restData, restEq⟩ := encode_all_total rest valid.2
      exact ⟨tagData ++ restData, by rw [TypeTag.encodeAll, tagEq, restEq]; rfl⟩

end

theorem serialize_primitive (type : Primitive) :
    serializeTypeTag type.name = (TypeTag.primitive type).encode := by
  obtain ⟨kind, found, index⟩ := lookup_primitive type
  have small : type.variant.toNat < 0x80 := by cases type <;> decide
  rw [serialize_type_tag_primitive _ kind found, index, Leb128.encode_small _ small, UInt8.ofNat_toNat]
  rfl

theorem serialize_vector (element : Str) (tag : TypeTag) (inner : serializeTypeTag element = tag.encode) :
    serializeTypeTag (str "vector<" ++ (element ++ [cp '>'])) = (TypeTag.vector tag).encode := by
  rw [serialize_type_tag_vector _ (lookup_of_mark _ (Or.inr (List.mem_append_left _ (by decide))))
    (vector_shaped element), vector_inner, inner, TypeTag.encode]
  cases tag.encode <;> rfl

-- A struct type is written from the pieces the parser cuts out of it.
theorem serialize_struct (text addressStr module name : Str) (address : Bytes) (tags : List TypeTag)
    (other : primitives.lookup text = none) (notVector : ¬ VectorShaped text)
    (parts : splitColons (structBase text) = [addressStr, module, name]) (decoded : addressBytes addressStr = .ok address)
    (params : List.Forall₂ (fun param tag => serializeTypeTag param = tag.encode) (structParams text) tags) :
    serializeTypeTag text = (TypeTag.struct address module name tags).encode := by
  rw [serialize_type_tag_struct _ other notVector, serialize_struct_tag_eq _ addressStr module name parts, decoded,
    TypeTag.encode, ← map_m_encode_all _ tags params, params.length_eq]
  cases encodeStr module with
  | error error => rfl
  | ok moduleData =>
      cases encodeStr name with
      | error error => rfl
      | ok nameData =>
          change Except.map _ (do
            let pieces ← (structParams text).mapM serializeTypeTag
            pure _) = _
          cases (structParams text).mapM serializeTypeTag <;> rfl

theorem serialize_spelling (tag : TypeTag) (text : Str) (spelled : Spells tag text) :
    serializeTypeTag text = tag.encode := by
  induction spelled with
  | primitive type => exact serialize_primitive type
  | vector element text _ ih => exact serialize_vector text element ih
  | struct address addressStr module name params addressValid moduleValid nameValid each ih =>
      obtain ⟨whole, wholeEq, lookup, notVector, parts, paramsEq⟩ :=
        spelled_struct_reading address addressStr module name params addressValid moduleValid nameValid each
      rw [← wholeEq]
      apply serialize_struct whole addressStr module name address _ lookup notVector parts
      · exact (named_address addressStr address addressValid.2).2
      · rw [paramsEq, List.forall₂_map_left_iff, List.forall₂_map_right_iff, List.forall₂_same]
        exact ih

theorem serialize_type_tag_spelling (tag : TypeTag) (text : Str) (spelled : Spells tag text) :
    serializeTypeTag text = tag.encode ∧ (tag.Encodable → ∃ data, serializeTypeTag text = .ok data) := by
  have encoded := serialize_spelling tag text spelled
  refine ⟨encoded, fun valid => ?_⟩
  rw [encoded]
  exact encode_total tag valid

def coinType : TypeTag :=
  .vector (.struct (List.replicate 31 0 ++ [2]) (str "coin") (str "Coin") [.primitive .u8])

theorem coin_type_spelled : Spells coinType (str "vector<0X02::coin::Coin< u8 >>") :=
  .vector _ (str "0X02::coin::Coin< u8 >")
    (.struct _ (str "0X02") (str "coin") (str "Coin")
      [(.primitive .u8, ⟨str " ", str "u8", str " ", by decide, by decide⟩)]
      ⟨by decide, rfl, str "0X", str "02", by decide, rfl, 62, by decide +kernel⟩
      ⟨by decide, by decide +kernel⟩ ⟨by decide, by decide +kernel⟩
      (fun param member => by
        rw [List.mem_singleton.mp member]
        exact .primitive .u8))

theorem serialize_type_tag_coin :
    serializeTypeTag (str "vector<0X02::coin::Coin< u8 >>") = coinType.encode ∧
      (coinType.Encodable → ∃ data, serializeTypeTag (str "vector<0X02::coin::Coin< u8 >>") = .ok data) :=
  serialize_type_tag_spelling coinType _ coin_type_spelled

end PyIota
