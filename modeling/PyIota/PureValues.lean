import PyIota.AddressNames
import PyIota.BcsItem
import PyIota.BcsWire
import PyIota.Transaction

set_option autoImplicit false

namespace PyIota

open Emitter Cursor Wire

inductive PureType where
  | u8
  | u16
  | u32
  | u64
  | u128
  | u256
  | bool
  | string
  | address
  | bytes

def PureType.all : List PureType := [.u8, .u16, .u32, .u64, .u128, .u256, .bool, .string, .address, .bytes]

def PureType.name : PureType → Str
  | .u8 => str "u8"
  | .u16 => str "u16"
  | .u32 => str "u32"
  | .u64 => str "u64"
  | .u128 => str "u128"
  | .u256 => str "u256"
  | .bool => str "bool"
  | .string => str "string"
  | .address => str "address"
  | .bytes => str "bytes"

def PureType.serializer : PureType → PyValue → Except PyError Bytes
  | .u8 => onInt serializePureU8
  | .u16 => onInt serializePureU16
  | .u32 => onInt serializePureU32
  | .u64 => onInt serializePureU64
  | .u128 => onInt serializePureU128
  | .u256 => onInt serializePureU256
  | .bool => onTruth serializePureBool
  | .string => onString serializePureString
  | .address => onAddress serializePureAddress
  | .bytes => onBytes serializePureBytes

def PureType.shape : PureType → Shape
  | .u8 => .u8
  | .u16 => .u16
  | .u32 => .u32
  | .u64 => .u64
  | .u128 => .u128
  | .u256 => .u256
  | .bool => .bool
  | .string => .str
  | .address => .fixedBytes 32
  | .bytes => .bytes

def integerOf : PyValue → Option Int
  | .int value => some value
  | .bool value => some (if value then 1 else 0)
  | _ => none

def truthOf : PyValue → Bool
  | .int value => value ≠ 0
  | .bool value => value
  | .str value => value ≠ []
  | .bytes data => data ≠ []
  | _ => false

def textOf : PyValue → Option Str
  | .str value => some value
  | _ => none

def dataOf : PyValue → Option Bytes
  | .bytes data => some data
  | .str [] => some []
  | _ => none

-- What the caller's value is as a value of the type.
noncomputable def PureType.item (value : PyValue) : PureType → Option Item
  | .u8 => (integerOf value).map Item.u8
  | .u16 => (integerOf value).map Item.u16
  | .u32 => (integerOf value).map Item.u32
  | .u64 => (integerOf value).map Item.u64
  | .u128 => (integerOf value).map Item.u128
  | .u256 => (integerOf value).map Item.u256
  | .bool => some (Item.bool (truthOf value))
  | .string => (textOf value).map Item.str
  | .address => (textOf value).bind fun text => (addressOf text).map Item.fixedBytes
  | .bytes => (dataOf value).map Item.bytes

-- The type a call of pure() stands for: the one named, or the one detected.
def pureType (value : PyValue) (typeHint : Option Str) : Option PureType :=
  match typeHint with
  | some hint => PureType.all.find? fun type => hint == type.name
  | none =>
      match value with
      | .bool _ => some .bool
      | .int _ => some .u64
      | .str text => some (if startswith text (str "0x") then .address else .string)
      | .bytes _ => some .bytes
      | _ => none

def Known : PyValue → Prop
  | .foreign _ _ => False
  | _ => True

theorem finish_item (item : Item) : finish item.write = item.encoding := by
  rw [finish, item_write_eq, emitted_write]

theorem on_int_ok (wrap : Int → Item) (value : PyValue) (data : Bytes) :
    onInt (fun number => finish (wrap number).write) value = .ok data ↔
      ∃ item, (integerOf value).map wrap = some item ∧ item.encoding = .ok data := by
  cases value with
  | int number => simp [onInt, integerOf, finish_item]
  | bool truth => simp [onInt, integerOf, finish_item]
  | _ => simp [onInt, integerOf]

theorem on_truth_ok (value : PyValue) (data : Bytes) : onTruth serializePureBool value = .ok data ↔
    (Item.bool (truthOf value)).encoding = .ok data := by
  rw [← finish_item]
  cases value <;> rfl

theorem on_string_ok (value : PyValue) (data : Bytes) : onString serializePureString value = .ok data ↔
    ∃ item, (textOf value).map Item.str = some item ∧ item.encoding = .ok data := by
  cases value with
  | str text =>
      have whole : serializePureString text = (Item.str text).encoding := finish_item (.str text)
      simp [onString, textOf, whole]
  | _ => simp [onString, textOf]

-- Where an address is asked for, the text is none that the parser slips on.
def SlipFree (type : PureType) (value : PyValue) : Prop :=
  match type, value with
  | .address, .str text => ¬ AddressSlip text
  | _, _ => True

theorem on_address_ok (value : PyValue) (data : Bytes) (slipFree : SlipFree .address value) :
    onAddress serializePureAddress value = .ok data ↔
      ∃ item, (textOf value).bind (fun text => (addressOf text).map Item.fixedBytes) = some item ∧
        item.encoding = .ok data := by
  cases value with
  | str text =>
      have named := (clean_address_iff text data slipFree).trans (address_of_iff text data).symm
      rw [onAddress, serializePureAddress, named]
      simp [textOf, Item.encoding]
  | _ => simp [onAddress, textOf]

theorem on_bytes_ok (value : PyValue) (data : Bytes) : onBytes serializePureBytes value = .ok data ↔
    ∃ item, (dataOf value).map Item.bytes = some item ∧ item.encoding = .ok data := by
  have whole (found : Bytes) : serializePureBytes found = (Item.bytes found).encoding := finish_item (.bytes found)
  cases value with
  | bytes found => simp [onBytes, dataOf, whole]
  | str text => cases text <;> simp [onBytes, dataOf, whole]
  | _ => simp [onBytes, dataOf]

theorem serializer_ok (type : PureType) (value : PyValue) (data : Bytes) (slipFree : SlipFree type value) :
    type.serializer value = .ok data ↔ ∃ item, type.item value = some item ∧ item.encoding = .ok data := by
  cases type with
  | u8 => exact on_int_ok .u8 value data
  | u16 => exact on_int_ok .u16 value data
  | u32 => exact on_int_ok .u32 value data
  | u64 => exact on_int_ok .u64 value data
  | u128 => exact on_int_ok .u128 value data
  | u256 => exact on_int_ok .u256 value data
  | bool =>
      have truth := on_truth_ok value data
      simp only [PureType.serializer, PureType.item, truth, Option.some.injEq, exists_eq_left']
  | string => exact on_string_ok value data
  | address => exact on_address_ok value data slipFree
  | bytes => exact on_bytes_ok value data

theorem lookup_named {β : Type} (types : List PureType) (value : PureType → β) (hint : Str) :
    (types.map fun type => (type.name, value type)).lookup hint =
      (types.find? fun type => hint == type.name).map value := by
  induction types with
  | nil => rfl
  | cons type types ih =>
      rw [List.map_cons, List.lookup_cons, List.find?_cons]
      cases hint == type.name with
      | true => rfl
      | false => exact ih

theorem serializers_named : serializers = PureType.all.map fun type => (type.name, type.serializer) := rfl

theorem serialize_pure_ok (value : PyValue) (typeHint : Option Str) (data : Bytes) (known : Known value) :
    serializePure value typeHint = .ok data ↔
      ∃ type, pureType value typeHint = some type ∧ type.serializer value = .ok data := by
  cases typeHint with
  | some hint =>
      simp only [serializePure, pureType, serializers_named, lookup_named]
      cases PureType.all.find? fun type => hint == type.name with
      | none => simp
      | some type => cases value <;> simp_all [Known]
  | none =>
      cases value with
      | str text => by_cases prefixed : startswith text (str "0x") <;> simp [serializePure, pureType, prefixed,
          PureType.serializer, onString, onAddress]
      | foreign typeName answer => exact known.elim
      | _ => simp [serializePure, pureType, PureType.serializer, onInt, onTruth, onBytes]

theorem item_shape (type : PureType) (value : PyValue) (item : Item) (made : type.item value = some item) :
    item.shape = type.shape := by
  cases type with
  | bool =>
      cases made
      rfl
  | address =>
      obtain ⟨text, _, decoded⟩ := Option.bind_eq_some_iff.mp made
      obtain ⟨data, found, rfl⟩ := Option.map_eq_some_iff.mp decoded
      obtain ⟨sized, _⟩ := (address_of_iff text data).mp found
      simp only [Item.shape, PureType.shape, sized, Nat.cast_ofNat]
  | _ =>
      obtain ⟨_, _, rfl⟩ := Option.map_eq_some_iff.mp made
      rfl

theorem item_below (type : PureType) (value : PyValue) (item : Item) (data : Bytes)
    (made : type.item value = some item) (encoded : item.encoding = .ok data) (short : data.length < 2 ^ 64) :
    item.Below64 := by
  cases type with
  | string =>
      obtain ⟨text, _, rfl⟩ := Option.map_eq_some_iff.mp made
      intro content utf8
      obtain ⟨same, sameUtf8, rfl⟩ := encode_str_ok text data encoded
      obtain rfl := Except.ok.inj (sameUtf8.symm.trans utf8)
      rw [encodeBytes, List.length_append] at short
      exact Nat.lt_of_le_of_lt (Nat.le_add_left _ _) short
  | bytes =>
      obtain ⟨content, _, rfl⟩ := Option.map_eq_some_iff.mp made
      rw [← Except.ok.inj encoded, encodeBytes, List.length_append] at short
      exact Nat.lt_of_le_of_lt (Nat.le_add_left _ _) short
  | bool =>
      cases made
      trivial
  | address =>
      obtain ⟨_, _, decoded⟩ := Option.bind_eq_some_iff.mp made
      obtain ⟨_, _, rfl⟩ := Option.map_eq_some_iff.mp decoded
      trivial
  | _ =>
      obtain ⟨_, _, rfl⟩ := Option.map_eq_some_iff.mp made
      trivial

theorem serializer_reads (type : PureType) (value : PyValue) (data : Bytes) (slipFree : SlipFree type value)
    (serialized : type.serializer value = .ok data) (short : data.length < 2 ^ 64) :
    ∃ item, type.item value = some item ∧ Reads type.shape.read data item := by
  obtain ⟨item, made, encoded⟩ := (serializer_ok type value data slipFree).mp serialized
  have reads := item_reads item data (item_below type value item data made encoded short) encoded
  rw [item_shape type value item made] at reads
  exact ⟨item, made, reads⟩

theorem pure_ok_iff (tx next : Transaction) (value : PyValue) (typeHint : Option Str) (arg : Argument) :
    (Transaction.pure value typeHint).run tx = .ok arg next ↔ ∃ data, serializePure value typeHint = .ok data ∧
      arg = inputArg tx.inputs.length ∧ next = tx.extend [pureInput data] [] := by
  rw [pure_run]
  cases serializePure value typeHint with
  | ok data => simp [eq_comm]
  | error error => simp

theorem serialize_pure_item (value : PyValue) (typeHint : Option Str) (data : Bytes) (known : Known value)
    (slipFree : ∀ type, pureType value typeHint = some type → SlipFree type value) :
    serializePure value typeHint = .ok data ↔
      ∃ type item, pureType value typeHint = some type ∧ type.item value = some item ∧ item.encoding = .ok data := by
  rw [serialize_pure_ok value typeHint data known]
  refine ⟨?_, ?_⟩
  · rintro ⟨type, named, serialized⟩
    obtain ⟨item, made, encoded⟩ := (serializer_ok type value data (slipFree type named)).mp serialized
    exact ⟨type, item, named, made, encoded⟩
  · rintro ⟨type, item, named, made, encoded⟩
    exact ⟨type, named, (serializer_ok type value data (slipFree type named)).mpr ⟨item, made, encoded⟩⟩

-- The bytes that stand for the value where a call takes it. A value of a type of
-- its own answers for itself.
noncomputable def contentsOf (value : PyValue) (typeHint : Option Str) : Option Bytes :=
  (pureType value typeHint).bind fun type =>
    match value, typeHint with
    | .foreign _ answer, some hint => (answer hint).toOption
    | _, _ => (type.item value).bind fun item => item.encoding.toOption

theorem to_option_iff {α : Type} (result : Except PyError α) (value : α) :
    result.toOption = some value ↔ result = .ok value := by
  cases result <;> simp [Except.toOption]

theorem contents_of_foreign (typeName hint : Str) (answer : Str → Except PyError Bytes) (data : Bytes) :
    serializePure (.foreign typeName answer) (some hint) = .ok data ↔
      contentsOf (.foreign typeName answer) (some hint) = some data := by
  simp only [serializePure, contentsOf, pureType, serializers_named, lookup_named]
  cases PureType.all.find? fun type => hint == type.name with
  | none => simp
  | some type => simp [to_option_iff]

theorem contents_of_iff (value : PyValue) (typeHint : Option Str) (data : Bytes)
    (slipFree : ∀ type, pureType value typeHint = some type → SlipFree type value) :
    serializePure value typeHint = .ok data ↔ contentsOf value typeHint = some data := by
  by_cases known : Known value
  · rw [serialize_pure_item value typeHint data known slipFree]
    have contents : contentsOf value typeHint = (pureType value typeHint).bind fun type =>
        (type.item value).bind fun item => item.encoding.toOption := by
      cases value with
      | foreign typeName answer => exact known.elim
      | _ => rfl
    rw [contents]
    simp only [Option.bind_eq_some_iff, to_option_iff]
    refine ⟨?_, ?_⟩
    · rintro ⟨type, item, named, made, encoded⟩
      exact ⟨type, named, item, made, encoded⟩
    · rintro ⟨type, named, item, made, encoded⟩
      exact ⟨type, item, named, made, encoded⟩
  · cases value with
    | foreign typeName answer =>
        cases typeHint with
        | none => simp [serializePure, contentsOf, pureType]
        | some hint => exact contents_of_foreign typeName hint answer data
    | _ => exact absurd trivial known

-- pure() succeeds just for the values of the type that have an encoding, and the
-- input it registers reads back as the value, wherever its bytes stand.
theorem pure_round_trip (tx : Transaction) (value : PyValue) (typeHint : Option Str) (known : Known value)
    (slipFree : ∀ type, pureType value typeHint = some type → SlipFree type value) :
    ((∃ arg next, (Transaction.pure value typeHint).run tx = .ok arg next) ↔
      ∃ type item, pureType value typeHint = some type ∧ type.item value = some item ∧ item.Fits) ∧
    ∀ arg next, (Transaction.pure value typeHint).run tx = .ok arg next →
      ∃ data, arg = { kind := .input, index := tx.inputs.length } ∧
        next = { tx with inputs := tx.inputs ++ [{ kind := .pure, pureData := data }] } ∧
        (data.length < 2 ^ 64 → ∃ type item, pureType value typeHint = some type ∧ type.item value = some item ∧
          Reads type.shape.read data item) := by
  refine ⟨⟨?_, ?_⟩, ?_⟩
  · rintro ⟨arg, next, run⟩
    obtain ⟨data, serialized, _⟩ := (pure_ok_iff tx next value typeHint arg).mp run
    obtain ⟨type, item, named, made, encoded⟩ := (serialize_pure_item value typeHint data known slipFree).mp serialized
    exact ⟨type, item, named, made, (item_encodes item).mp ⟨data, encoded⟩⟩
  · rintro ⟨type, item, named, made, fits⟩
    obtain ⟨data, encoded⟩ := (item_encodes item).mpr fits
    have serialized := (serialize_pure_item value typeHint data known slipFree).mpr ⟨type, item, named, made, encoded⟩
    exact ⟨_, _, (pure_ok_iff tx _ value typeHint _).mpr ⟨data, serialized, rfl, rfl⟩⟩
  · intro arg next run
    obtain ⟨data, serialized, rfl, rfl⟩ := (pure_ok_iff tx next value typeHint arg).mp run
    refine ⟨data, rfl, by simp [Transaction.extend, pureInput], ?_⟩
    intro short
    obtain ⟨type, named, encoded⟩ := (serialize_pure_ok value typeHint data known).mp serialized
    obtain ⟨item, made, reads⟩ := serializer_reads type value data (slipFree type named) encoded short
    exact ⟨type, item, named, made, reads⟩

theorem address_of_one : addressOf (str "0x1") = some (List.replicate 31 0 ++ [1]) :=
  (address_of_iff _ _).mpr ⟨rfl, str "0x", str "1", by decide, rfl, 63, by decide +kernel⟩

theorem detected_address_round_trip :
    (Transaction.pure (.str (str "0x1")) none).run {} = .ok { kind := .input, index := 0 }
      { inputs := [{ kind := .pure, pureData := List.replicate 31 0 ++ [1] }] } ∧
    PureType.item (.str (str "0x1")) .address = some (.fixedBytes (List.replicate 31 0 ++ [1])) ∧
    ((∃ arg next, (Transaction.pure (.str (str "0x1")) none).run {} = .ok arg next) ↔
      ∃ type item, pureType (.str (str "0x1")) none = some type ∧ type.item (.str (str "0x1")) = some item ∧
        item.Fits) ∧
    ∀ arg next, (Transaction.pure (.str (str "0x1")) none).run {} = .ok arg next →
      ∃ data, arg = { kind := .input, index := 0 } ∧ next = { inputs := [{ kind := .pure, pureData := data }] } ∧
        (data.length < 2 ^ 64 → ∃ type item, pureType (.str (str "0x1")) none = some type ∧
          type.item (.str (str "0x1")) = some item ∧ Reads type.shape.read data item) := by
  have item : PureType.item (.str (str "0x1")) .address = some (.fixedBytes (List.replicate 31 0 ++ [1])) := by
    change (addressOf (str "0x1")).map Item.fixedBytes = _
    rw [address_of_one]
    rfl
  refine ⟨rfl, item, pure_round_trip {} (.str (str "0x1")) none trivial ?_⟩
  intro type named
  cases named
  intro slip
  exact absurd slip.2 (by decide)

end PyIota
