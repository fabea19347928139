import PyIota.BcsTypes

set_option autoImplicit false

namespace PyIota

open Emitter Fallible

section

variable {α : Type}

end

-- The optional fields a kind needs are the ones its serialize() asserts.
def CallArg.Complete (arg : CallArg) : Prop :=
  match arg.kind with
  | .pure => True
  | .object =>
      match arg.objectKind with
      | .immOrOwnedObject => arg.objectRef.isSome
      | .sharedObject => arg.sharedRef.isSome
      | .receiving => arg.objectRef.isSome

def Command.Complete (cmd : Command) : Prop :=
  match cmd.kind with
  | .moveCall => cmd.moveCall.isSome
  | .transferObjects => cmd.transferObjects.isSome ∧ cmd.transferRecipient.isSome
  | .splitCoins => cmd.splitCoin.isSome ∧ cmd.splitAmounts.isSome
  | .mergeCoins => cmd.mergeDestination.isSome ∧ cmd.mergeSources.isSome
  | .publish => cmd.publishModules.isSome ∧ cmd.publishDependencies.isSome
  | .makeMoveVec => True
  | .upgrade => True

end PyIota
