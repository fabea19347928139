import PyIota.BcsItem
import PyIota.BcsTypes
import PyIota.TypeTagSlip

set_option autoImplicit false

namespace PyIota

open Cursor

-- What a transaction says, with only the fields its kinds use.
inductive ArgumentValue where
  | gasCoin
  | input (index : Int)
  | result (index : Int)
  | nestedResult (index nested : Int)

inductive CallArgValue where
  | pure (data : Bytes)
  | immOrOwnedObject (ref : BcsObjectRef)
  | sharedObject (ref : SharedObjectRef)
  | receiving (ref : BcsObjectRef)

inductive CommandValue where
  | moveCall (package : Bytes) (module function : Str) (typeArguments : List TypeTag) (arguments : List ArgumentValue)
  | transferObjects (objects : List ArgumentValue) (recipient : ArgumentValue)
  | splitCoins (coin : ArgumentValue) (amounts : List ArgumentValue)
  | mergeCoins (destination : ArgumentValue) (sources : List ArgumentValue)
  | publish (modules dependencies : List Bytes)

@[ext] structure TransactionValue where
  inputs : List CallArgValue
  commands : List CommandValue
  sender : Bytes
  gas : GasPayment
  expirationEpoch : Option Int

def Argument.value (arg : Argument) : ArgumentValue :=
  match arg.kind with
  | .gasCoin => .gasCoin
  | .input => .input arg.index
  | .result => .result arg.index
  | .nestedResult => .nestedResult arg.index arg.nestedIndex

def CallArg.value (arg : CallArg) : Option CallArgValue :=
  match arg.kind with
  | .pure => some (.pure arg.pureData)
  | .object =>
      match arg.objectKind with
      | .immOrOwnedObject => arg.objectRef.map .immOrOwnedObject
      | .sharedObject => arg.sharedRef.map .sharedObject
      | .receiving => arg.objectRef.map .receiving

-- Type arguments are compared by the type they denote.
inductive Command.Denotes (cmd : Command) : CommandValue → Prop where
  | moveCall (mc : ProgrammableMoveCall) (types : List TypeTag) (kind : cmd.kind = .moveCall)
      (hasCall : cmd.moveCall = some mc)
      (spelled : List.Forall₂ (fun text tag => Spells tag text) mc.typeArguments types) :
      cmd.Denotes (.moveCall mc.package mc.module mc.function types (mc.arguments.map Argument.value))
  | transferObjects (objects : List Argument) (recipient : Argument) (kind : cmd.kind = .transferObjects)
      (hasObjects : cmd.transferObjects = some objects) (hasRecipient : cmd.transferRecipient = some recipient) :
      cmd.Denotes (.transferObjects (objects.map Argument.value) recipient.value)
  | splitCoins (coin : Argument) (amounts : List Argument) (kind : cmd.kind = .splitCoins)
      (hasCoin : cmd.splitCoin = some coin) (hasAmounts : cmd.splitAmounts = some amounts) :
      cmd.Denotes (.splitCoins coin.value (amounts.map Argument.value))
  | mergeCoins (destination : Argument) (sources : List Argument) (kind : cmd.kind = .mergeCoins)
      (hasDestination : cmd.mergeDestination = some destination) (hasSources : cmd.mergeSources = some sources) :
      cmd.Denotes (.mergeCoins destination.value (sources.map Argument.value))
  | publish (modules dependencies : List Bytes) (kind : cmd.kind = .publish)
      (hasModules : cmd.publishModules = some modules)
      (hasDependencies : cmd.publishDependencies = some dependencies) :
      cmd.Denotes (.publish modules dependencies)

structure TransactionData.Denotes (tx : TransactionData) (value : TransactionValue) : Prop where
  inputs : List.Forall₂ (fun arg argValue => arg.value = some argValue) tx.kind.inputs value.inputs
  commands : List.Forall₂ Command.Denotes tx.kind.commands value.commands
  sender : tx.sender = value.sender
  gas : tx.gas = value.gas
  expirationEpoch : tx.expirationEpoch = value.expirationEpoch

def CallArg.Sized (arg : CallArg) : Prop :=
  (∀ ref, arg.objectRef = some ref → ref.objectId.length = 32) ∧
    ∀ ref, arg.sharedRef = some ref → ref.objectId.length = 32

-- The kinds with a layout of their own, with the fields their kind needs.
def Command.HasLayout (types : Str → Prop) (cmd : Command) : Prop :=
  match cmd.kind with
  | .moveCall => ∃ mc, cmd.moveCall = some mc ∧ mc.package.length = 32 ∧ ∀ text ∈ mc.typeArguments, types text
  | .transferObjects => cmd.transferObjects.isSome ∧ cmd.transferRecipient.isSome
  | .splitCoins => cmd.splitCoin.isSome ∧ cmd.splitAmounts.isSome
  | .mergeCoins => cmd.mergeDestination.isSome ∧ cmd.mergeSources.isSome
  | .publish => cmd.publishModules.isSome ∧
      ∃ dependencies, cmd.publishDependencies = some dependencies ∧ ∀ dependency ∈ dependencies, dependency.length = 32
  | .makeMoveVec => False
  | .upgrade => False

structure TransactionData.HasLayout (types : Str → Prop) (tx : TransactionData) : Prop where
  inputs : ∀ arg ∈ tx.kind.inputs, arg.Sized
  commands : ∀ cmd ∈ tx.kind.commands, cmd.HasLayout types
  sender : tx.sender.length = 32
  owner : tx.gas.owner.length = 32
  payment : ∀ ref ∈ tx.gas.payment, ref.objectId.length = 32

def TransactionData.WellFormed (tx : TransactionData) : Prop := tx.HasLayout MoveType

-- The layout alone: a type argument may be spelled badly, as long as its addresses fit.
def TransactionData.Slotted (tx : TransactionData) : Prop := tx.HasLayout fun text => ¬ UnslottedType text

theorem command_slotted (cmd : Command) (layout : cmd.HasLayout MoveType) :
    cmd.HasLayout fun text => ¬ UnslottedType text := by
  unfold Command.HasLayout at layout ⊢
  cases kind : cmd.kind with
  | moveCall =>
      rw [kind] at layout
      obtain ⟨mc, present, sized, types⟩ := layout
      exact ⟨mc, present, sized, fun text member => move_type_slotted text (types text member)⟩
  | _ => rwa [kind] at layout

theorem well_formed_slotted (tx : TransactionData) (valid : tx.WellFormed) : tx.Slotted where
  inputs := valid.inputs
  commands := fun cmd member => command_slotted cmd (valid.commands cmd member)
  sender := valid.sender
  owner := valid.owner
  payment := valid.payment

-- A decoder for the documented layout, made of the reader's primitives only.
def unknownVariant {α : Type} : Reader α := throw (.serializationError (str "Unknown variant"))

def readVector {α : Type} (readItem : Reader α) : Reader (List α) := do
  let length ← readVectorLength
  times length readItem

def readArgument : Reader ArgumentValue := do
  let variant ← readVariantIndex
  match variant with
  | 0 => pure .gasCoin
  | 1 => do
      let index ← readU16
      pure (.input index)
  | 2 => do
      let index ← readU16
      pure (.result index)
  | 3 => do
      let index ← readU16
      let nested ← readU16
      pure (.nestedResult index nested)
  | _ => unknownVariant

def readObjectRef : Reader BcsObjectRef := do
  let objectId ← readFixedBytes 32
  let version ← readU64
  let digest ← readBytes
  pure ⟨objectId, version, digest⟩

def readSharedRef : Reader SharedObjectRef := do
  let objectId ← readFixedBytes 32
  let initialSharedVersion ← readU64
  let mutable ← readBool
  pure ⟨objectId, initialSharedVersion, mutable⟩

def readObjectArg : Reader CallArgValue := do
  let variant ← readVariantIndex
  match variant with
  | 0 => do
      let ref ← readObjectRef
      pure (.immOrOwnedObject ref)
  | 1 => do
      let ref ← readSharedRef
      pure (.sharedObject ref)
  | 2 => do
      let ref ← readObjectRef
      pure (.receiving ref)
  | _ => unknownVariant

def readCallArg : Reader CallArgValue := do
  let variant ← readVariantIndex
  match variant with
  | 0 => do
      let data ← readBytes
      pure (.pure data)
  | 1 => readObjectArg
  | _ => unknownVariant

def primitiveOfVariant : Nat → Option Primitive
  | 0 => some .bool
  | 1 => some .u8
  | 2 => some .u64
  | 3 => some .u128
  | 4 => some .address
  | 5 => some .signer
  | 8 => some .u16
  | 9 => some .u32
  | 10 => some .u256
  | _ => none

-- Every level of a type tag takes at least its own tag byte, so no tag is
-- nested deeper than the data is long.
def readTypeTagFuel : Nat → Reader TypeTag
  | 0 => unknownVariant
  | fuel + 1 => do
      let variant ← readVariantIndex
      match variant with
      | 6 => do
          let element ← readTypeTagFuel fuel
          pure (.vector element)
      | 7 => do
          let address ← readFixedBytes 32
          let module ← readStr
          let name ← readStr
          let params ← readVector (readTypeTagFuel fuel)
          pure (.struct address module name params)
      | other =>
          match primitiveOfVariant other with
          | some type => pure (.primitive type)
          | none => unknownVariant

def readTypeTag : Reader TypeTag := do
  let reader ← get
  readTypeTagFuel (reader.data.length + 1)

def readCommand : Reader CommandValue := do
  let variant ← readVariantIndex
  match variant with
  | 0 => do
      let package ← readFixedBytes 32
      let module ← readStr
      let function ← readStr
      let typeArguments ← readVector readTypeTag
      let arguments ← readVector readArgument
      pure (.moveCall package module function typeArguments arguments)
  | 1 => do
      let objects ← readVector readArgument
      let recipient ← readArgument
      pure (.transferObjects objects recipient)
  | 2 => do
      let coin ← readArgument
      let amounts ← readVector readArgument
      pure (.splitCoins coin amounts)
  | 3 => do
      let destination ← readArgument
      let sources ← readVector readArgument
      pure (.mergeCoins destination sources)
  | 4 => do
      let modules ← readVector readBytes
      let dependencies ← readVector (readFixedBytes 32)
      pure (.publish modules dependencies)
  | _ => unknownVariant

def readGasPayment : Reader GasPayment := do
  let payment ← readVector readObjectRef
  let owner ← readFixedBytes 32
  let price ← readU64
  let budget ← readU64
  pure ⟨payment, owner, price, budget⟩

def readExpiration : Reader (Option Int) := do
  let variant ← readVariantIndex
  match variant with
  | 0 => pure none
  | 1 => do
      let epoch ← readU64
      pure (some epoch)
  | _ => unknownVariant

def readTransactionKind : Reader (List CallArgValue × List CommandValue) := do
  let variant ← readVariantIndex
  match variant with
  | 0 => do
      let inputs ← readVector readCallArg
      let commands ← readVector readCommand
      pure (inputs, commands)
  | _ => unknownVariant

def readTransactionData : Reader TransactionValue := do
  let variant ← readVariantIndex
  match variant with
  | 0 => do
      let kind ← readTransactionKind
      let sender ← readFixedBytes 32
      let gas ← readGasPayment
      let expirationEpoch ← readExpiration
      pure ⟨kind.1, kind.2, sender, gas, expirationEpoch⟩
  | _ => unknownVariant

end PyIota
