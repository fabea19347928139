import PyIota.TypeTag

set_option autoImplicit false

namespace PyIota

open Emitter

inductive ArgumentKind where
  | gasCoin
  | input
  | result
  | nestedResult
deriving DecidableEq

def ArgumentKind.index : ArgumentKind → Nat
  | .gasCoin => 0
  | .input => 1
  | .result => 2
  | .nestedResult => 3

structure Argument where
  kind : ArgumentKind
  index : Int := 0
  nestedIndex : Int := 0
deriving DecidableEq

def Argument.serialize (arg : Argument) : Except PyError Bytes := finish do
  writeVariantIndex arg.kind.index
  match arg.kind with
  | .gasCoin => pure ()
  | .input => writeU16 arg.index
  | .result => writeU16 arg.index
  | .nestedResult => do
      writeU16 arg.index
      writeU16 arg.nestedIndex

def gasCoin : Argument := { kind := .gasCoin }
def inputArg (index : Int) : Argument := { kind := .input, index := index }
def resultArg (index : Int) : Argument := { kind := .result, index := index }
def nestedResultArg (index nested : Int) : Argument := { kind := .nestedResult, index := index, nestedIndex := nested }

inductive CallArgKind where
  | pure
  | object

def CallArgKind.index : CallArgKind → Nat
  | .pure => 0
  | .object => 1

inductive ObjectArgKind where
  | immOrOwnedObject
  | sharedObject
  | receiving

def ObjectArgKind.index : ObjectArgKind → Nat
  | .immOrOwnedObject => 0
  | .sharedObject => 1
  | .receiving => 2

structure BcsObjectRef where
  objectId : Bytes
  version : Int
  digest : Bytes

def BcsObjectRef.serialize (ref : BcsObjectRef) : Except PyError Bytes := finish do
  writeFixedBytes ref.objectId
  writeU64 ref.version
  writeBytes ref.digest

structure SharedObjectRef where
  objectId : Bytes
  initialSharedVersion : Int
  mutable : Bool

def SharedObjectRef.serialize (ref : SharedObjectRef) : Except PyError Bytes := finish do
  writeFixedBytes ref.objectId
  writeU64 ref.initialSharedVersion
  writeBool ref.mutable

structure CallArg where
  kind : CallArgKind
  pureData : Bytes := []
  objectKind : ObjectArgKind := .immOrOwnedObject
  objectRef : Option BcsObjectRef := none
  sharedRef : Option SharedObjectRef := none

def assertSome {α : Type} : Option α → Writer α
  | some value => pure value
  | none => throw (.builtin .assertionError)

def CallArg.writeContents (arg : CallArg) : Writer Unit :=
  match arg.kind with
  | .pure => writeBytes arg.pureData
  | .object => do
      writeVariantIndex arg.objectKind.index
      match arg.objectKind with
      | .immOrOwnedObject => do
          let ref ← assertSome arg.objectRef
          writeSerialized ref.serialize
      | .sharedObject => do
          let ref ← assertSome arg.sharedRef
          writeSerialized ref.serialize
      | .receiving => do
          let ref ← assertSome arg.objectRef
          writeSerialized ref.serialize

def CallArg.serialize (arg : CallArg) : Except PyError Bytes := finish do
  writeVariantIndex arg.kind.index
  arg.writeContents

inductive CommandKind where
  | moveCall
  | transferObjects
  | splitCoins
  | mergeCoins
  | publish
  | makeMoveVec
  | upgrade

def CommandKind.index : CommandKind → Nat
  | .moveCall => 0
  | .transferObjects => 1
  | .splitCoins => 2
  | .mergeCoins => 3
  | .publish => 4
  | .makeMoveVec => 5
  | .upgrade => 6

structure ProgrammableMoveCall where
  package : Bytes
  module : Str
  function : Str
  typeArguments : List Str
  arguments : List Argument

structure Command where
  kind : CommandKind
  moveCall : Option ProgrammableMoveCall := none
  transferObjects : Option (List Argument) := none
  transferRecipient : Option Argument := none
  splitCoin : Option Argument := none
  splitAmounts : Option (List Argument) := none
  mergeDestination : Option Argument := none
  mergeSources : Option (List Argument) := none
  publishModules : Option (List Bytes) := none
  publishDependencies : Option (List Bytes) := none

def writeVector {α : Type} (items : List α) (writeItem : α → Writer Unit) : Writer Unit := do
  writeVectorLength items.length
  items.forM writeItem

def writeArgument (arg : Argument) : Writer Unit := writeSerialized arg.serialize

def Command.writeMoveCall (cmd : Command) : Writer Unit := do
  let mc ← assertSome cmd.moveCall
  writeFixedBytes mc.package
  writeStr mc.module
  writeStr mc.function
  writeVector mc.typeArguments fun typeArg => writeSerialized (serializeTypeTag typeArg)
  writeVector mc.arguments writeArgument

def Command.writeTransferObjects (cmd : Command) : Writer Unit := do
  let objects ← assertSome cmd.transferObjects
  let recipient ← assertSome cmd.transferRecipient
  writeVector objects writeArgument
  writeArgument recipient

def Command.writeSplitCoins (cmd : Command) : Writer Unit := do
  let coin ← assertSome cmd.splitCoin
  let amounts ← assertSome cmd.splitAmounts
  writeArgument coin
  writeVector amounts writeArgument

def Command.writeMergeCoins (cmd : Command) : Writer Unit := do
  let destination ← assertSome cmd.mergeDestination
  let sources ← assertSome cmd.mergeSources
  writeArgument destination
  writeVector sources writeArgument

def Command.writePublish (cmd : Command) : Writer Unit := do
  let modules ← assertSome cmd.publishModules
  let dependencies ← assertSome cmd.publishDependencies
  writeVector modules writeBytes
  writeVector dependencies writeFixedBytes

-- MAKE_MOVE_VEC and UPGRADE have no branch: only their tag is written.
def Command.writeContents (cmd : Command) : Writer Unit :=
  match cmd.kind with
  | .moveCall => cmd.writeMoveCall
  | .transferObjects => cmd.writeTransferObjects
  | .splitCoins => cmd.writeSplitCoins
  | .mergeCoins => cmd.writeMergeCoins
  | .publish => cmd.writePublish
  | .makeMoveVec => pure ()
  | .upgrade => pure ()

def Command.serialize (cmd : Command) : Except PyError Bytes := finish do
  writeVariantIndex cmd.kind.index
  cmd.writeContents

inductive TransactionExpiration where
  | none
  | epoch

def TransactionExpiration.index : TransactionExpiration → Nat
  | .none => 0
  | .epoch => 1

structure GasPayment where
  payment : List BcsObjectRef
  owner : Bytes
  price : Int
  budget : Int

def GasPayment.serialize (gas : GasPayment) : Except PyError Bytes := finish do
  writeVector gas.payment fun ref => writeSerialized ref.serialize
  writeFixedBytes gas.owner
  writeU64 gas.price
  writeU64 gas.budget

structure ProgrammableTransaction where
  inputs : List CallArg
  commands : List Command

def ProgrammableTransaction.serialize (ptb : ProgrammableTransaction) : Except PyError Bytes := finish do
  writeVector ptb.inputs fun inp => writeSerialized inp.serialize
  writeVector ptb.commands fun cmd => writeSerialized cmd.serialize

inductive TransactionKindVariant where
  | programmableTransaction

def TransactionKindVariant.index : TransactionKindVariant → Nat
  | .programmableTransaction => 0

structure TransactionData where
  kind : ProgrammableTransaction
  sender : Bytes
  gas : GasPayment
  expirationEpoch : Option Int := none

def writeExpiration (expirationEpoch : Option Int) : Writer Unit :=
  match expirationEpoch with
  | none => writeVariantIndex TransactionExpiration.none.index
  | some epoch => do
      writeVariantIndex TransactionExpiration.epoch.index
      writeU64 epoch

def TransactionData.serialize (tx : TransactionData) : Except PyError Bytes := finish do
  writeVariantIndex 0
  writeVariantIndex TransactionKindVariant.programmableTransaction.index
  writeSerialized tx.kind.serialize
  writeFixedBytes tx.sender
  writeSerialized tx.gas.serialize
  writeExpiration tx.expirationEpoch

def serializePureU8 (value : Int) : Except PyError Bytes := finish (writeU8 value)
def serializePureU16 (value : Int) : Except PyError Bytes := finish (writeU16 value)
def serializePureU32 (value : Int) : Except PyError Bytes := finish (writeU32 value)
def serializePureU64 (value : Int) : Except PyError Bytes := finish (writeU64 value)
def serializePureU128 (value : Int) : Except PyError Bytes := finish (writeU128 value)
def serializePureU256 (value : Int) : Except PyError Bytes := finish (writeU256 value)
def serializePureBool (value : Bool) : Except PyError Bytes := finish (writeBool value)
def serializePureString (value : Str) : Except PyError Bytes := finish (writeStr value)
def serializePureBytes (data : Bytes) : Except PyError Bytes := finish (writeBytes data)

end PyIota
