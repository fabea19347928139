import PyIota.AddressSlots
import PyIota.BuilderAtomicity
import PyIota.TransactionValue

set_option autoImplicit false

namespace PyIota

open Coroutine

-- The strings for fixed slots and types that the layout can carry: the recorded
-- slips of the address and type parsers are not in use.
def Call.Clean : Call → Prop
  | .object objectId _ _ _ _ => ¬ AddressSlip objectId
  | .moveCall target _ typeArguments =>
      (∀ packageStr module function, splitColons target = [packageStr, module, function] → ¬ AddressSlip packageStr) ∧
        ∀ text ∈ typeArguments.getD [], MoveType text
  | _ => True

structure Transaction.HasLayout (types : Str → Prop) (tx : Transaction) : Prop where
  inputs : ∀ arg ∈ tx.inputs, arg.Sized
  commands : ∀ cmd ∈ tx.commands, cmd.HasLayout types

def Transaction.WellFormed (tx : Transaction) : Prop := tx.HasLayout MoveType

def Command.Slots (types : Str → Prop) (cmd : Command) : Prop :=
  cmd.kind = .moveCall → ∀ mc, cmd.moveCall = some mc → mc.package.length = 32 ∧ ∀ text ∈ mc.typeArguments, types text

-- Every fixed slot of the lists a build writes has its 32 bytes.
structure Transaction.Slotted (tx : Transaction) : Prop where
  inputs : ∀ arg ∈ tx.inputs, arg.Sized
  commands : ∀ cmd ∈ tx.commands, cmd.Slots fun text => ¬ UnslottedType text

-- Nothing but its slots can keep a command from having a layout.
def Command.Shaped (cmd : Command) : Prop := ∀ types, cmd.Slots types → cmd.HasLayout types

theorem pure_input_sized (added : List CallArg) (allPure : AllPure added) : ∀ arg ∈ added, arg.Sized := by
  intro arg member
  obtain ⟨data, rfl⟩ := allPure arg member
  refine ⟨?_, ?_⟩
  · intro ref present
    cases present
  · intro ref present
    cases present

theorem object_input_sized (objectId : Str) (version : Option Int) (digest : Option Str)
    (initialSharedVersion : Option Int) (mutable : Bool) (callArg : CallArg) (noSlip : ¬ AddressSlip objectId)
    (made : objectInput objectId version digest initialSharedVersion mutable = .ok callArg) : callArg.Sized := by
  unfold objectInput at made
  split at made
  · obtain ⟨objBytes, decoded, same⟩ := (Fallible.bind_ok _ _ _).mp made
    cases same
    refine ⟨?_, ?_⟩
    · intro ref present
      cases present
    · intro ref present
      cases present
      exact length_address_bytes objectId objBytes noSlip decoded
  · split at made
    · obtain ⟨objBytes, decoded, rest⟩ := (Fallible.bind_ok _ _ _).mp made
      obtain ⟨digestBytes, _, same⟩ := (Fallible.bind_ok _ _ _).mp rest
      cases same
      refine ⟨?_, ?_⟩
      · intro ref present
        cases present
        exact length_address_bytes objectId objBytes noSlip decoded
      · intro ref present
        cases present
    · cases made

theorem clean_input_sized (inputs : List CallArg) (commands : List Command) (before index : Nat) (call : Call)
    (callArg : CallArg) (clean : call.Clean)
    (reads : call.Denotes inputs commands before (.argument (inputArg index)))
    (found : inputs[index]? = some callArg) : callArg.Sized := by
  generalize handleEq : Ref.argument (inputArg index) = handle at reads
  cases reads with
  | pure value typeHint other data _ _ otherFound =>
      obtain rfl := input_index_inj index other handleEq
      obtain rfl := Option.some.inj (found.symm.trans otherFound)
      exact pure_input_sized [pureInput data] (fun arg member => ⟨data, List.mem_singleton.mp member⟩) _
        (List.mem_singleton_self _)
  | object objectId version digest initialSharedVersion mutable other otherArg _ made otherFound =>
      obtain rfl := input_index_inj index other handleEq
      obtain rfl := Option.some.inj (found.symm.trans otherFound)
      exact object_input_sized objectId version digest initialSharedVersion mutable callArg clean made
  | transferObjects => cases handleEq
  | splitCoins => cases handleEq
  | mergeCoins => cases handleEq
  | moveCall => cases handleEq

theorem denoted_command_shaped (inputs : List CallArg) (commands : List Command) (before index : Nat) (call : Call)
    (cmd : Command) (reads : call.Denotes inputs commands before (.result ⟨index⟩)) (found : commands[index]? = some cmd) :
    cmd.Shaped ∧ (call.Clean → cmd.Slots MoveType) := by
  generalize handleEq : Ref.result ⟨(index : Int)⟩ = handle at reads
  cases reads with
  | pure => cases handleEq
  | object => cases handleEq
  | transferObjects objects recipient other args recipientArg _ _ otherFound =>
      obtain rfl := result_index_inj index other handleEq
      obtain rfl := Option.some.inj (found.symm.trans otherFound)
      refine ⟨fun _ _ => ⟨rfl, rfl⟩, ?_⟩
      intro _ kind
      cases kind
  | splitCoins coin amounts other coinArg amountArgs _ _ otherFound =>
      obtain rfl := result_index_inj index other handleEq
      obtain rfl := Option.some.inj (found.symm.trans otherFound)
      refine ⟨fun _ _ => ⟨rfl, rfl⟩, ?_⟩
      intro _ kind
      cases kind
  | mergeCoins destination sources other destinationArg sourceArgs _ _ otherFound =>
      obtain rfl := result_index_inj index other handleEq
      obtain rfl := Option.some.inj (found.symm.trans otherFound)
      refine ⟨fun _ _ => ⟨rfl, rfl⟩, ?_⟩
      intro _ kind
      cases kind
  | moveCall target arguments typeArguments other packageStr module function package args parts decoded _ _ otherFound =>
      obtain rfl := result_index_inj index other handleEq
      obtain rfl := Option.some.inj (found.symm.trans otherFound)
      refine ⟨fun types slots => ⟨_, rfl, slots rfl _ rfl⟩, ?_⟩
      intro clean _ mc present
      cases present
      exact ⟨length_address_bytes packageStr package (clean.1 packageStr module function parts) decoded, clean.2⟩

theorem after_well_formed (tx : Transaction) (call : Call) (valid : tx.WellFormed)
    (clean : ∀ handle next, call.run.run tx = .ok handle next → call.Clean) : (tx.after call).WellFormed := by
  have outcome := call_outcome tx call
  unfold Transaction.after
  cases run : call.run.run tx with
  | error error next =>
      rw [run] at outcome
      obtain ⟨added, rfl, allPure, _⟩ := outcome
      refine ⟨List.forall_mem_append.mpr ⟨valid.inputs, pure_input_sized added allPure⟩, ?_⟩
      simp only [extend_commands, List.append_nil]
      exact valid.commands
  | ok handle next =>
      have callClean := clean handle next run
      rw [run] at outcome
      obtain ⟨_, added, made, rfl, denotes, shape⟩ := outcome
      rcases shape with ⟨allPure, cmd, rfl, rfl⟩ | ⟨rfl, callArg, rfl, rfl⟩
      · obtain ⟨shaped, slots⟩ := denoted_command_shaped _ _ _ _ call cmd denotes List.getElem?_concat_length
        have formed := shaped MoveType (slots callClean)
        exact ⟨List.forall_mem_append.mpr ⟨valid.inputs, pure_input_sized added allPure⟩,
          List.forall_mem_append.mpr ⟨valid.commands, List.forall_mem_singleton.mpr formed⟩⟩
      · have sized := clean_input_sized _ _ _ _ call callArg callClean denotes List.getElem?_concat_length
        refine ⟨List.forall_mem_append.mpr ⟨valid.inputs, List.forall_mem_singleton.mpr sized⟩, ?_⟩
        simp only [extend_commands, List.append_nil]
        exact valid.commands

-- The strings the build itself decodes into fixed slots.
structure CleanSettings (models : Models) (node : Node) (world : World Transaction Request)
    (signer : Option Ed25519Keypair) : Prop where
  sender : ∀ sender, senderOrSigner world.state.sender signer = some sender → ¬ AddressSlip sender
  explicit : ∀ coins, world.state.gasPayment = some coins → ∀ c ∈ coins, ∀ objectId,
    c.getItem (str "objectId") = .ok (.str objectId) → ¬ AddressSlip objectId
  selected : world.state.gasPayment = none → ∀ sender price afterPrice obj,
    senderOrSigner world.state.sender signer = some sender →
      (Transaction.gasPriceOrReferenceSync node).run world = .ok price afterPrice →
        SelectsObject models node afterPrice sender obj → ¬ AddressSlip obj.objectId

section

variable (models : Models) (node : Node) (world final : World Transaction Request) (signer : Option Ed25519Keypair)

theorem gas_coin_id_sized (c : Json) (ref : BcsObjectRef) (made : GasCoinRef c ref)
    (clean : ∀ objectId, c.getItem (str "objectId") = .ok (.str objectId) → ¬ AddressSlip objectId) :
    ref.objectId.length = 32 := by
  obtain ⟨value, item, decoded⟩ := made.objectId
  cases value with
  | str text => exact length_address_bytes text ref.objectId (clean text item) decoded
  | _ => cases decoded

theorem clean_payment_sized (sender : Str) (refs : List BcsObjectRef) (afterPrice : World Transaction Request)
    (price : Int) (clean : CleanSettings models node world signer)
    (chosen : senderOrSigner world.state.sender signer = some sender)
    (priceRun : (Transaction.gasPriceOrReferenceSync node).run world = .ok price afterPrice)
    (kept : afterPrice.state = world.state)
    (run : (Transaction.resolveGasPaymentSync models node sender).run afterPrice = .ok refs final) :
    ∀ ref ∈ refs, ref.objectId.length = 32 := by
  cases payment : afterPrice.state.gasPayment with
  | some coins =>
      have matched := explicit_gas_payment_ok models node afterPrice final sender coins refs payment run
      rw [kept] at payment
      intro ref member
      obtain ⟨index, within, refEq⟩ := List.mem_iff_getElem.mp member
      have inCoins : index < coins.length := by
        rw [matched.length_eq]
        exact within
      have made : GasCoinRef coins[index] refs[index] := matched.get inCoins within
      rw [refEq] at made
      exact gas_coin_id_sized _ ref made (clean.explicit coins payment _ (List.getElem_mem inCoins))
  | none =>
      obtain ⟨coins, afterCoins, firstCoin, rest, obj, ref, coinsRun, data, objectRun, rfl, decoded, _⟩ :=
        selected_gas_payment_ok models node afterPrice final sender refs payment run
      rw [kept] at payment
      have noSlip := clean.selected payment sender price afterPrice obj chosen priceRun
        ⟨coins, afterCoins, firstCoin, rest, final, coinsRun, data, objectRun⟩
      rw [List.forall_mem_singleton]
      exact length_address_bytes obj.objectId ref.objectId noSlip decoded

theorem built_layout (types : Str → Prop) (txData : TransactionData) (layout : world.state.HasLayout types)
    (settings : CleanSettings models node world signer)
    (run : (Transaction.transactionDataSync models node signer).run world = .ok txData final) :
    txData.HasLayout types := by
  obtain ⟨sender, afterPrice, chosen, senderEq, owner, priceRun, _, kept, paymentRun, kind⟩ :=
    transaction_data_sync_ok models node world final signer txData run
  have senderSized := length_address_bytes sender txData.sender (settings.sender sender chosen) senderEq
  refine ⟨?_, ?_, senderSized, ?_, ?_⟩
  · rw [kind]
    exact layout.inputs
  · rw [kind]
    exact layout.commands
  · rw [owner]
    exact senderSized
  · exact clean_payment_sized models node world final signer sender txData.gas.payment afterPrice _ settings chosen
      priceRun kept paymentRun

end

end PyIota
