import PyIota.AddressNames
import PyIota.TypeTag

set_option autoImplicit false

namespace PyIota

-- The Move types a tag can name, and their encoding: the language the type
-- strings are read in.
inductive Primitive where
  | bool
  | u8
  | u16
  | u32
  | u64
  | u128
  | u256
  | address
  | signer
deriving DecidableEq

def Primitive.name : Primitive → Str
  | .bool => str "bool"
  | .u8 => str "u8"
  | .u16 => str "u16"
  | .u32 => str "u32"
  | .u64 => str "u64"
  | .u128 => str "u128"
  | .u256 => str "u256"
  | .address => str "address"
  | .signer => str "signer"

def Primitive.variant : Primitive → UInt8
  | .bool => 0
  | .u8 => 1
  | .u64 => 2
  | .u128 => 3
  | .address => 4
  | .signer => 5
  | .u16 => 8
  | .u32 => 9
  | .u256 => 10

inductive TypeTag where
  | primitive (type : Primitive)
  | vector (element : TypeTag)
  | struct (address : Bytes) (module name : Str) (params : List TypeTag)

-- Only an identifier with a lone surrogate in it has no encoding.
mutual

def TypeTag.encode : TypeTag → Except PyError Bytes
  | .primitive type => .ok [type.variant]
  | .vector element => do
      let elementData ← element.encode
      pure (6 :: elementData)
  | .struct address module name params => do
      let moduleData ← encodeStr module
      let nameData ← encodeStr name
      let paramsData ← TypeTag.encodeAll params
      pure (7 :: (address ++ (moduleData ++ (nameData ++ (Leb128.encode params.length ++ paramsData)))))

def TypeTag.encodeAll : List TypeTag → Except PyError Bytes
  | [] => .ok []
  | tag :: rest => do
      let tagData ← tag.encode
      let restData ← TypeTag.encodeAll rest
      pure (tagData ++ restData)

end

-- What a module or struct name is made of: nothing the parser cuts or strips.
def Clear (c : CodePoint) : Prop :=
  c ≠ cp '<' ∧ c ≠ cp '>' ∧ c ≠ cp ',' ∧ c ≠ cp ':' ∧ isSpace c = false

instance (c : CodePoint) : Decidable (Clear c) := inferInstanceAs (Decidable (_ ∧ _))

def Identifier (text : Str) : Prop := text ≠ [] ∧ ∀ c ∈ text, Clear c

def structText (address module name : Str) : Str :=
  address ++ (str "::" ++ (module ++ (str "::" ++ name)))

structure StructName where
  address : Str
  module : Str
  name : Str
  addressNonempty : address ≠ []
  addressNormal : ∃ normal, normalizeIotaAddress address = .ok normal
  moduleValid : Identifier module
  nameValid : Identifier name

def StructName.text (base : StructName) : Str := structText base.address base.module base.name

structure SpacedText where
  before : Str
  core : Str
  after : Str
  beforeBlank : ∀ c ∈ before, isSpace c = true
  afterBlank : ∀ c ∈ after, isSpace c = true

def SpacedText.text (param : SpacedText) : Str := param.before ++ (param.core ++ param.after)

def typeArguments (params : List SpacedText) : Str :=
  if params = [] then []
  else cp '<' :: (Nesting.join angleMarks (params.map SpacedText.text) ++ [cp '>'])

inductive MoveType : Str → Prop where
  | primitive (type : Primitive) : MoveType type.name
  | vector (element : Str) (inner : MoveType element) : MoveType (str "vector<" ++ (element ++ [cp '>']))
  | struct (base : StructName) (params : List SpacedText) (each : ∀ param ∈ params, MoveType param.core) :
      MoveType (base.text ++ typeArguments params)

def SpellsAddress (address : Bytes) (text : Str) : Prop := text ≠ [] ∧ NamesAddress text address

inductive Spells : TypeTag → Str → Prop where
  | primitive (type : Primitive) : Spells (.primitive type) type.name
  | vector (element : TypeTag) (text : Str) (inner : Spells element text) :
      Spells (.vector element) (str "vector<" ++ (text ++ [cp '>']))
  | struct (address : Bytes) (addressStr module name : Str) (params : List (TypeTag × SpacedText))
      (addressValid : SpellsAddress address addressStr) (moduleValid : Identifier module)
      (nameValid : Identifier name) (each : ∀ param ∈ params, Spells param.1 param.2.core) :
      Spells (.struct address module name (params.map Prod.fst))
        (structText addressStr module name ++ typeArguments (params.map Prod.snd))

theorem lookup_primitive (type : Primitive) :
    ∃ kind, primitives.lookup type.name = some kind ∧ kind.index = type.variant.toNat := by
  cases type with
  | bool => exact ⟨.bool, by decide +kernel, rfl⟩
  | u8 => exact ⟨.u8, by decide +kernel, rfl⟩
  | u16 => exact ⟨.u16, by decide +kernel, rfl⟩
  | u32 => exact ⟨.u32, by decide +kernel, rfl⟩
  | u64 => exact ⟨.u64, by decide +kernel, rfl⟩
  | u128 => exact ⟨.u128, by decide +kernel, rfl⟩
  | u256 => exact ⟨.u256, by decide +kernel, rfl⟩
  | address => exact ⟨.address, by decide +kernel, rfl⟩
  | signer => exact ⟨.signer, by decide +kernel, rfl⟩

theorem primitive_identifier (type : Primitive) : Identifier type.name := by
  cases type <;> exact ⟨by decide, by decide +kernel⟩

theorem primitive_of_lookup (text : Str) (kind : TypeTagKind) (found : primitives.lookup text = some kind) :
    ∃ type : Primitive, text = type.name := by
  obtain ⟨before, after, listed, _⟩ := List.lookup_eq_some_iff.mp found
  have member : (text, kind) ∈ primitives := by
    rw [listed]
    exact List.mem_append_right _ List.mem_cons_self
  simp only [primitives, List.mem_cons, Prod.mk.injEq, List.not_mem_nil, or_false] at member
  rcases member with ⟨rfl, _⟩ | ⟨rfl, _⟩ | ⟨rfl, _⟩ | ⟨rfl, _⟩ | ⟨rfl, _⟩ | ⟨rfl, _⟩ | ⟨rfl, _⟩ | ⟨rfl, _⟩ | ⟨rfl, _⟩
  · exact ⟨.bool, rfl⟩
  · exact ⟨.u8, rfl⟩
  · exact ⟨.u16, rfl⟩
  · exact ⟨.u32, rfl⟩
  · exact ⟨.u64, rfl⟩
  · exact ⟨.u128, rfl⟩
  · exact ⟨.u256, rfl⟩
  · exact ⟨.address, rfl⟩
  · exact ⟨.signer, rfl⟩

theorem lookup_of_mark (text : Str) (mark : cp ':' ∈ text ∨ cp '<' ∈ text) : primitives.lookup text = none := by
  have absent : ∀ entry ∈ primitives, ¬ (cp ':' ∈ entry.1 ∨ cp '<' ∈ entry.1) := by decide +kernel
  rw [List.lookup_eq_none_iff]
  intro entry member
  rw [bne_iff_ne]
  rintro rfl
  exact absent entry member mark

theorem split_colons_from_piece (current left right : Str) (plain : ∀ c ∈ left, c ≠ cp ':') :
    splitColonsFrom current (left ++ (str "::" ++ right)) = (current ++ left) :: splitColonsFrom [] right := by
  induction left generalizing current with
  | nil =>
      change splitColonsFrom current (cp ':' :: cp ':' :: right) = _
      rw [splitColonsFrom, if_pos ⟨rfl, rfl⟩, List.append_nil]
  | cons c left ih =>
      have notColon := plain c List.mem_cons_self
      have tail := ih (current ++ [c]) (fun x member => plain x (List.mem_cons_of_mem _ member))
      obtain ⟨d, rest, more⟩ : ∃ d rest, left ++ (str "::" ++ right) = d :: rest := by
        cases left with
        | nil => exact ⟨cp ':', cp ':' :: right, rfl⟩
        | cons d left => exact ⟨d, left ++ (str "::" ++ right), rfl⟩
      rw [List.cons_append, more, splitColonsFrom, if_neg (fun colons => notColon colons.1), ← more, tail]
      simp

theorem split_colons_from_last (current last : Str) (plain : ∀ c ∈ last, c ≠ cp ':') :
    splitColonsFrom current last = [current ++ last] := by
  fun_induction splitColonsFrom current last with
  | case1 => simp
  | case2 => rfl
  | case3 current c d rest colons => exact absurd colons.1 (plain c List.mem_cons_self)
  | case4 current c d rest _ ih =>
      rw [ih (fun x member => plain x (List.mem_cons_of_mem _ member))]
      simp

theorem split_colons_struct (address module name : Str) (addressPlain : ∀ c ∈ address, c ≠ cp ':')
    (modulePlain : ∀ c ∈ module, c ≠ cp ':') (namePlain : ∀ c ∈ name, c ≠ cp ':') :
    splitColons (structText address module name) = [address, module, name] := by
  rw [splitColons, structText, split_colons_from_piece [] address _ addressPlain,
    split_colons_from_piece [] module _ modulePlain, split_colons_from_last [] name namePlain]
  rfl

theorem lower_char_unclear (c : CodePoint) (unclear : ¬ Clear c) : lowerChar c = [c] := by
  have notUpper : ¬ (0x41 ≤ c.val ∧ c.val ≤ 0x5A) ∧ c.val ≠ 0x130 ∧ c.val ≠ 0x212A := by
    simp only [Clear, isSpace, cp, ne_eq, Fin.ext_iff, Bool.or_eq_false_iff, Bool.and_eq_false_iff,
      decide_eq_false_iff_not, beq_eq_false_iff_ne] at unclear
    refine ⟨?_, ?_, ?_⟩ <;> (simp only [Char.reduceToNat] at unclear; omega)
  rw [lowerChar, dif_neg notUpper.1, if_neg notUpper.2.1, if_neg notUpper.2.2]

theorem normal_address_chars (address normal : Str) (valid : normalizeIotaAddress address = .ok normal) :
    ∀ c ∈ lower address, c ∈ str "0x" ∨ c ∈ hexDigits := by
  obtain ⟨digits, _, _⟩ := (normalize_ok_iff address normal).mp valid
  intro c member
  unfold addressDigits removeprefix at digits
  split at digits
  · rename_i starts
    obtain ⟨tail, tailEq⟩ := starts
    rw [← tailEq, List.drop_left] at digits
    rw [← tailEq, List.mem_append] at member
    exact member.imp id (digits c)
  · exact Or.inr (digits c member)

theorem hex_digit_clear (c : CodePoint) (digit : c ∈ hexDigits) : Clear c := by
  have range := (mem_hex_digits c).mp digit
  simp only [Clear, isSpace, cp, ne_eq, Fin.ext_iff, Bool.or_eq_false_iff, Bool.and_eq_false_iff,
    decide_eq_false_iff_not, beq_eq_false_iff_ne, Char.reduceToNat]
  omega

theorem normal_address_clear (address normal : Str) (valid : normalizeIotaAddress address = .ok normal) :
    ∀ c ∈ address, Clear c := by
  intro c member
  by_contra unclear
  have inLower : c ∈ lower address := by
    rw [lower, List.mem_flatMap]
    exact ⟨c, member, by rw [lower_char_unclear c unclear]; exact List.mem_singleton_self c⟩
  rcases normal_address_chars address normal valid c inLower with inPrefix | inDigits
  · have symbol : c = cp '0' ∨ c = cp 'x' := by simpa [str] using inPrefix
    rcases symbol with rfl | rfl
    · exact unclear (by decide)
    · exact unclear (by decide)
  · exact unclear (hex_digit_clear c inDigits)

def Tight (text : Str) : Prop :=
  text ≠ [] ∧ (∀ c, text.head? = some c → isSpace c = false) ∧ ∀ c, text.getLast? = some c → isSpace c = false

theorem drop_while_blank (before rest : Str) (blank : ∀ c ∈ before, isSpace c = true)
    (stops : ∀ c, rest.head? = some c → isSpace c = false) : (before ++ rest).dropWhile isSpace = rest := by
  rw [List.dropWhile_append_of_pos blank]
  cases rest with
  | nil => rfl
  | cons c rest => exact List.dropWhile_cons_of_neg (by simp [stops c rfl])

theorem strip_spaced (param : SpacedText) (tight : Tight param.core) : strip param.text = param.core := by
  obtain ⟨nonempty, first, last⟩ := tight
  have front : (param.text).dropWhile isSpace = param.core ++ param.after := by
    refine drop_while_blank param.before _ param.beforeBlank ?_
    intro c head
    rw [List.head?_append_of_ne_nil _ nonempty] at head
    exact first c head
  have back : (param.core ++ param.after).reverse.dropWhile isSpace = param.core.reverse := by
    rw [List.reverse_append]
    refine drop_while_blank param.after.reverse _ ?_ ?_
    · intro c member
      exact param.afterBlank c (List.mem_reverse.mp member)
    · intro c head
      rw [List.head?_reverse] at head
      exact last c head
  rw [strip, front, back, List.reverse_reverse]

theorem strip_tight (text : Str) (tight : Tight text) : strip text = text := by
  have spaced := strip_spaced ⟨[], text, [], by simp, by simp⟩ tight
  simpa [SpacedText.text] using spaced

theorem StructName.address_clear (base : StructName) : ∀ c ∈ base.address, Clear c := by
  obtain ⟨normal, valid⟩ := base.addressNormal
  exact normal_address_clear base.address normal valid

theorem StructName.mem_text (base : StructName) (c : CodePoint) (member : c ∈ base.text) :
    Clear c ∨ c = cp ':' := by
  have colons : ∀ d ∈ str "::", d = cp ':' := by decide
  simp only [StructName.text, structText, List.mem_append] at member
  rcases member with inAddress | colon | inModule | colon | inName
  · exact Or.inl (base.address_clear c inAddress)
  · exact Or.inr (colons c colon)
  · exact Or.inl (base.moduleValid.2 c inModule)
  · exact Or.inr (colons c colon)
  · exact Or.inl (base.nameValid.2 c inName)

theorem StructName.plain (base : StructName) : Nesting.Plain angleMarks base.text := by
  intro c member
  rcases base.mem_text c member with clear | rfl
  · exact ⟨clear.1, clear.2.1, clear.2.2.1⟩
  · exact ⟨by decide, by decide, by decide⟩

theorem StructName.head (base : StructName) (rest : Str) :
    ∃ c tail, Clear c ∧ c ∈ base.address ∧ base.text ++ rest = c :: tail := by
  obtain ⟨c, tail, addressEq⟩ := List.exists_cons_of_ne_nil base.addressNonempty
  have member : c ∈ base.address := by simp [addressEq]
  have whole : base.text ++ rest = c :: (tail ++ (str "::" ++ (base.module ++ (str "::" ++ base.name))) ++ rest) := by
    rw [StructName.text, structText, addressEq]
    rfl
  exact ⟨c, _, base.address_clear c member, member, whole⟩

theorem move_type_tight (text : Str) (type : MoveType text) : Tight text := by
  cases type with
  | primitive type =>
      obtain ⟨nonempty, clear⟩ := primitive_identifier type
      exact ⟨nonempty, fun c head => (clear c (List.mem_of_head? head)).2.2.2.2,
        fun c last => (clear c (List.mem_of_getLast? last)).2.2.2.2⟩
  | vector element inner =>
      refine ⟨by simp [str], ?_, ?_⟩
      · intro c head
        cases head
        decide
      · intro c last
        rw [List.getLast?_append_of_ne_nil _ (by simp), List.getLast?_concat] at last
        cases last
        decide
  | struct base params each =>
      obtain ⟨first, tail, clear, _, whole⟩ := base.head (typeArguments params)
      refine ⟨by simp [whole], ?_, ?_⟩
      · intro c head
        rw [whole] at head
        cases head
        exact clear.2.2.2.2
      · intro c last
        by_cases none : params = []
        · rw [typeArguments, if_pos none, List.append_nil, StructName.text, structText,
            ← List.append_assoc, ← List.append_assoc, ← List.append_assoc,
            List.getLast?_append_of_ne_nil _ base.nameValid.1] at last
          exact (base.nameValid.2 c (List.mem_of_getLast? last)).2.2.2.2
        · rw [typeArguments, if_neg none, List.getLast?_append_of_ne_nil _ (by simp),
            ← List.cons_append, List.getLast?_concat] at last
          cases last
          decide

theorem blank_plain (text : Str) (blank : ∀ c ∈ text, isSpace c = true) : Nesting.Plain angleMarks text := by
  intro c member
  have space := blank c member
  refine ⟨?_, ?_, ?_⟩
  · rintro rfl
    exact absurd space (by decide)
  · rintro rfl
    exact absurd space (by decide)
  · rintro rfl
    exact absurd space (by decide)

theorem spaced_passes (param : SpacedText) (core : Nesting.Passes angleMarks 0 param.core) :
    Nesting.Passes angleMarks 0 param.text :=
  Nesting.passes_append _ _ _ _ (Nesting.passes_plain _ _ _ (blank_plain _ param.beforeBlank))
    (Nesting.passes_append _ _ _ _ core (Nesting.passes_plain _ _ _ (blank_plain _ param.afterBlank)))

theorem move_type_passes (text : Str) (type : MoveType text) : Nesting.Passes angleMarks 0 text := by
  induction type with
  | primitive type =>
      refine Nesting.passes_plain _ _ _ ?_
      intro c member
      obtain ⟨notOpening, notClosing, notSeparator, _⟩ := (primitive_identifier type).2 c member
      exact ⟨notOpening, notClosing, notSeparator⟩
  | vector element _ ih =>
      change Nesting.Passes angleMarks 0 (str "vector" ++ cp '<' :: (element ++ [cp '>']))
      refine Nesting.passes_append _ _ _ _ (Nesting.passes_plain _ _ _ ?_) (Nesting.passes_wrap _ 0 element ?_)
      · unfold Nesting.Plain
        decide +kernel
      · exact Nesting.passes_mono _ 0 (0 + 1) _ (by decide) ih
  | struct base params _ ih =>
      refine Nesting.passes_append _ _ _ _ (Nesting.passes_plain _ _ _ base.plain) ?_
      unfold typeArguments
      split
      · exact Nesting.passes_nil _ _
      · refine Nesting.passes_wrap angleMarks 0 _ (Nesting.passes_join _ _ (by decide) _ ?_)
        intro part member
        obtain ⟨param, inParams, rfl⟩ := List.mem_map.mp member
        exact Nesting.passes_mono _ 0 (0 + 1) _ (by decide) (spaced_passes param (ih param inParams))

theorem find_split_pos_open (depth : Int) (i : Nat) (left right : Str) (plain : Nesting.Plain angleMarks left)
    (outside : depth = 0) : findSplitPos depth i (left ++ cp '<' :: right) = i + left.length := by
  subst outside
  induction left generalizing i with
  | nil =>
      rw [List.nil_append, findSplitPos, if_pos ⟨rfl, rfl⟩]
      simp
  | cons c left ih =>
      obtain ⟨(notOpening : c ≠ cp '<'), (notClosing : c ≠ cp '>'), _⟩ := plain c List.mem_cons_self
      rw [List.cons_append, findSplitPos, if_neg (fun h => notOpening h.1), if_neg notOpening, if_neg notClosing,
        ih (i + 1) (fun x member => plain x (List.mem_cons_of_mem _ member))]
      simp only [List.length_cons]
      omega

theorem find_split_pos_plain (depth : Int) (i : Nat) (text : Str) (plain : Nesting.Plain angleMarks text) :
    findSplitPos depth i text = -1 := by
  induction text generalizing i with
  | nil => rfl
  | cons c text ih =>
      obtain ⟨(notOpening : c ≠ cp '<'), (notClosing : c ≠ cp '>'), _⟩ := plain c List.mem_cons_self
      rw [findSplitPos, if_neg (fun h => notOpening h.1), if_neg notOpening, if_neg notClosing,
        ih (i + 1) (fun x member => plain x (List.mem_cons_of_mem _ member))]

theorem struct_base_plain (text : Str) (plain : Nesting.Plain angleMarks text) :
    structBase text = text ∧ structParams text = [] := by
  have noSplit : structTypeParamsStr text = [] := by simp [structTypeParamsStr, find_split_pos_plain 0 0 text plain]
  exact ⟨by simp [structBase, find_split_pos_plain 0 0 text plain], by simp [structParams, noSplit]⟩

theorem struct_base_open (base inner : Str) (last : CodePoint)
    (found : findSplitPos 0 0 (base ++ cp '<' :: (inner ++ [last])) = (base.length : Int)) :
    structBase (base ++ cp '<' :: (inner ++ [last])) = base ∧
      structTypeParamsStr (base ++ cp '<' :: (inner ++ [last])) = inner := by
  refine ⟨?_, ?_⟩
  · simp only [structBase, found, Int.natCast_nonneg, if_true]
    rw [slice_front _ _ (by rw [List.length_append]; omega), List.take_left]
  · have cut := slice_drop_last (base ++ cp '<' :: (inner ++ [last])) (base.length + 1)
    have whole : base ++ cp '<' :: (inner ++ [last]) = (base ++ [cp '<'] ++ inner) ++ [last] := by simp
    push_cast at cut
    simp only [structTypeParamsStr, found, Int.natCast_nonneg, if_true]
    rw [cut, whole, List.dropLast_concat]
    exact List.drop_left' (by simp)

theorem keep_pieces_tight (params : List SpacedText) (nonempty : params ≠ [])
    (tight : ∀ param ∈ params, Tight param.core) :
    keepPieces (params.map SpacedText.text) = params.map SpacedText.core := by
  induction params with
  | nil => exact absurd rfl nonempty
  | cons param params ih =>
      have stripped := strip_spaced param (tight param List.mem_cons_self)
      have kept := (tight param List.mem_cons_self).1
      by_cases last : params = []
      · subst last
        simp [keepPieces, stripped, kept]
      · rw [List.map_cons, keep_pieces_cons _ _ (by simpa using last), stripped,
          ih last (fun p member => tight p (List.mem_cons_of_mem _ member))]
        rfl

theorem join_ne_nil (params : List SpacedText) (nonempty : params ≠ [])
    (tight : ∀ param ∈ params, Tight param.core) :
    Nesting.join angleMarks (params.map SpacedText.text) ≠ [] := by
  cases params with
  | nil => exact absurd rfl nonempty
  | cons param params =>
      have kept := (tight param List.mem_cons_self).1
      cases params with
      | nil => simp [Nesting.join, SpacedText.text, kept]
      | cons next params => simp [Nesting.join]

-- How the parser reads a struct type of the grammar: it cuts it where the
-- grammar put it together.
theorem struct_reading (base : StructName) (params : List SpacedText)
    (each : ∀ param ∈ params, MoveType param.core) :
    structBase (base.text ++ typeArguments params) = base.text ∧
      structParams (base.text ++ typeArguments params) = params.map SpacedText.core := by
  by_cases none : params = []
  · subst none
    simpa [typeArguments] using struct_base_plain base.text base.plain
  · have tight : ∀ param ∈ params, Tight param.core := fun param member => move_type_tight _ (each param member)
    obtain ⟨baseEq, innerEq⟩ := struct_base_open base.text
      (Nesting.join angleMarks (params.map SpacedText.text)) (cp '>')
      (by simpa using find_split_pos_open 0 0 base.text _ base.plain rfl)
    rw [typeArguments, if_neg none]
    refine ⟨baseEq, ?_⟩
    have cut : splitTypeParams (Nesting.join angleMarks (params.map SpacedText.text)) =
        params.map SpacedText.core := by
      rw [split_type_params_eq, Nesting.pieces_join angleMarks _ (by simpa using none), keep_pieces_tight params none tight]
      intro part member
      obtain ⟨param, inParams, rfl⟩ := List.mem_map.mp member
      exact spaced_passes param (move_type_passes _ (each param inParams))
    rw [structParams, innerEq, if_pos (join_ne_nil params none tight), cut, List.map_map]
    refine List.map_congr_left (fun param member => strip_tight _ (tight param member))

theorem struct_not_vector (base : StructName) (rest : Str) : ¬ VectorShaped (base.text ++ rest) := by
  intro ⟨⟨tail, tailEq⟩, _⟩
  obtain ⟨c, after, _, inAddress, whole⟩ := base.head rest
  have first : c = cp 'v' := by
    have heads := congrArg List.head? (tailEq.trans whole)
    exact (Option.some.inj heads).symm
  obtain ⟨normal, valid⟩ := base.addressNormal
  have inLower : cp 'v' ∈ lower base.address := by
    rw [lower, List.mem_flatMap]
    exact ⟨c, inAddress, by rw [first]; decide⟩
  rcases normal_address_chars base.address normal valid _ inLower with inPrefix | inDigits
  · exact absurd inPrefix (by decide)
  · exact absurd inDigits (by decide)

theorem struct_not_primitive (base : StructName) (rest : Str) : primitives.lookup (base.text ++ rest) = none := by
  refine lookup_of_mark _ (Or.inl (List.mem_append_left _ ?_))
  rw [StructName.text, structText]
  exact List.mem_append_right _ (List.mem_append_left _ (by decide))

theorem struct_parts (base : StructName) : splitColons base.text = [base.address, base.module, base.name] :=
  split_colons_struct _ _ _ (fun c member => (base.address_clear c member).2.2.2.1)
    (fun c member => (base.moduleValid.2 c member).2.2.2.1) (fun c member => (base.nameValid.2 c member).2.2.2.1)

end PyIota
