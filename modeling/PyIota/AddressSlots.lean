import PyIota.Build

set_option autoImplicit false

namespace PyIota

open Coroutine

section

variable (models : Models) (node : Node) (world : World Transaction Request)

-- What either build method makes of the builder, short of serializing it.
def Builds (signer : Option Ed25519Keypair) (txData : TransactionData) : Prop :=
  ∃ final, (Transaction.transactionDataSync models node signer).run world = .ok txData final ∨
    drive node ((Transaction.transactionData models signer).start world.state) world.sent = .ok txData final

def ResolvesGas (sender : Str) (refs : List BcsObjectRef) : Prop :=
  ∃ final, (Transaction.resolveGasPaymentSync models node sender).run world = .ok refs final ∨
    drive node ((Transaction.resolveGasPayment models sender).start world.state) world.sent = .ok refs final

-- The object a node answered for the coin that was selected.
def SelectsObject (sender : Str) (obj : ObjectData) : Prop :=
  ∃ coins afterCoins firstCoin rest final,
    (SyncIotaClient.getCoins models node sender iotaCoinType .null .null).run world = .ok coins afterCoins ∧
      coins.data = firstCoin :: rest ∧
      (SyncIotaClient.getObject models node firstCoin.coinObjectId {}).run afterCoins = .ok obj final

end

section

variable (models : Models) (node : Node) (signer : Option Ed25519Keypair)

-- What either build method returns to a caller whose client has sent these requests.
def BuildReturns (tx : Transaction) (sent : List Request) (bytes : Bytes) : Prop :=
  ∃ final, (Transaction.buildSync models node signer).run ⟨tx, sent⟩ = .ok bytes final ∨
    drive node ((Transaction.build models signer).start tx) sent = .ok bytes final

theorem build_returns_data (tx : Transaction) (sent : List Request) (bytes : Bytes) :
    BuildReturns models node signer tx sent bytes ↔ ∃ txData final,
      (Transaction.transactionDataSync models node signer).run ⟨tx, sent⟩ = .ok txData final ∧
        txData.serialize = .ok bytes := by
  simp only [BuildReturns, build_mirrors models node signer tx sent, or_self]
  refine ⟨?_, ?_⟩
  · intro returned
    obtain ⟨final, run⟩ := returned
    obtain ⟨txData, middle, dataRun, rest⟩ := (direct_bind_ok _ _ _ _ _).mp run
    exact ⟨txData, middle, dataRun, ((direct_check_ok _ _ _ _).mp rest).1⟩
  · intro built
    obtain ⟨txData, final, dataRun, serialized⟩ := built
    exact ⟨final, (direct_bind_ok _ _ _ _ _).mpr ⟨txData, final, dataRun,
      (direct_check_ok _ _ _ _).mpr ⟨serialized, rfl⟩⟩⟩

end

-- The places where an address string ends up in a fixed slot, and what the code
-- puts there when the call returns.
inductive FillsSlot (models : Models) : Str → Bytes → Prop where
  | shared (tx next : Transaction) (objectId : Str) (version : Option Int) (digest : Option Str) (sharedVersion : Int)
      (mutable : Bool) (arg : Argument) (callArg : CallArg) (ref : SharedObjectRef)
      (run : (Transaction.object objectId version digest (some sharedVersion) mutable).run tx = .ok arg next)
      (added : next.inputs = tx.inputs ++ [callArg]) (stored : callArg.sharedRef = some ref) :
      FillsSlot models objectId ref.objectId
  | owned (tx next : Transaction) (objectId : Str) (version : Option Int) (digest : Option Str) (mutable : Bool)
      (arg : Argument) (callArg : CallArg) (ref : BcsObjectRef)
      (run : (Transaction.object objectId version digest none mutable).run tx = .ok arg next)
      (added : next.inputs = tx.inputs ++ [callArg]) (stored : callArg.objectRef = some ref) :
      FillsSlot models objectId ref.objectId
  | package (tx next : Transaction) (target packageStr module function : Str) (arguments : Option (List Ref))
      (typeArguments : Option (List Str)) (result : TransactionResult) (cmd : Command) (mc : ProgrammableMoveCall)
      (parts : splitColons target = [packageStr, module, function])
      (run : (Transaction.moveCall target arguments typeArguments).run tx = .ok result next)
      (added : next.commands = tx.commands ++ [cmd]) (stored : cmd.moveCall = some mc) :
      FillsSlot models packageStr mc.package
  | sender (node : Node) (world : World Transaction Request) (signer : Option Ed25519Keypair) (sender : Str)
      (txData : TransactionData) (chosen : senderOrSigner world.state.sender signer = some sender)
      (builds : Builds models node world signer txData) : FillsSlot models sender txData.sender
  | gasOwner (node : Node) (world : World Transaction Request) (signer : Option Ed25519Keypair) (sender : Str)
      (txData : TransactionData) (chosen : senderOrSigner world.state.sender signer = some sender)
      (builds : Builds models node world signer txData) : FillsSlot models sender txData.gas.owner
  | gasCoin (node : Node) (world : World Transaction Request) (sender objectId : Str) (coins : List Json)
      (refs : List BcsObjectRef) (index : Nat) (c : Json) (ref : BcsObjectRef)
      (explicit : world.state.gasPayment = some coins) (coin : coins[index]? = some c)
      (item : c.getItem (str "objectId") = .ok (.str objectId)) (resolves : ResolvesGas models node world sender refs)
      (made : refs[index]? = some ref) : FillsSlot models objectId ref.objectId
  | gasObject (node : Node) (world : World Transaction Request) (sender : Str) (obj : ObjectData)
      (refs : List BcsObjectRef) (ref : BcsObjectRef) (unset : world.state.gasPayment = none)
      (selects : SelectsObject models node world sender obj) (resolves : ResolvesGas models node world sender refs)
      (made : ref ∈ refs) : FillsSlot models obj.objectId ref.objectId
  | structTag (typeStr addressStr module name : Str) (bytes address moduleData nameData : Bytes) (params : List Bytes)
      (parts : splitColons (structBase typeStr) = [addressStr, module, name])
      (moduleEq : encodeStr module = .ok moduleData) (nameEq : encodeStr name = .ok nameData)
      (paramsEq : (structParams typeStr).mapM serializeTypeTag = .ok params)
      (written : serializeStructTag typeStr = .ok bytes)
      (layout : bytes = address ++
        (moduleData ++ (nameData ++ (Leb128.encode (structParams typeStr).length ++ params.flatten)))) :
      FillsSlot models addressStr address

theorem builds_sync (models : Models) (node : Node) (world : World Transaction Request)
    (signer : Option Ed25519Keypair) (txData : TransactionData) (builds : Builds models node world signer txData) :
    ∃ final, (Transaction.transactionDataSync models node signer).run world = .ok txData final := by
  obtain ⟨final, run⟩ := builds
  cases run with
  | inl run => exact ⟨final, run⟩
  | inr run =>
      rw [transaction_data_mirrors models node signer world.state world.sent] at run
      exact ⟨final, run⟩

theorem resolves_gas_sync (models : Models) (node : Node) (world : World Transaction Request) (sender : Str)
    (refs : List BcsObjectRef) (resolves : ResolvesGas models node world sender refs) :
    ∃ final, (Transaction.resolveGasPaymentSync models node sender).run world = .ok refs final := by
  obtain ⟨final, run⟩ := resolves
  cases run with
  | inl run => exact ⟨final, run⟩
  | inr run =>
      rw [resolve_gas_payment_mirrors models node sender world.state world.sent] at run
      exact ⟨final, run⟩

theorem object_adds (tx next : Transaction) (objectId : Str) (version : Option Int) (digest : Option Str)
    (initialSharedVersion : Option Int) (mutable : Bool) (arg : Argument) (callArg : CallArg)
    (run : (Transaction.object objectId version digest initialSharedVersion mutable).run tx = .ok arg next)
    (added : next.inputs = tx.inputs ++ [callArg]) :
    objectInput objectId version digest initialSharedVersion mutable = .ok callArg := by
  rw [object_run] at run
  cases made : objectInput objectId version digest initialSharedVersion mutable with
  | error error =>
      rw [made] at run
      cases run
  | ok other =>
      rw [made] at run
      cases run
      have same := List.append_cancel_left added
      rw [List.singleton_inj.mp same]

theorem shared_input_id (objectId : Str) (version : Option Int) (digest : Option Str) (sharedVersion : Int)
    (mutable : Bool) (callArg : CallArg) (ref : SharedObjectRef)
    (made : objectInput objectId version digest (some sharedVersion) mutable = .ok callArg)
    (stored : callArg.sharedRef = some ref) : addressBytes objectId = .ok ref.objectId := by
  obtain ⟨objBytes, decoded, same⟩ := (Fallible.bind_ok _ _ _).mp made
  cases same
  cases stored
  exact decoded

theorem owned_input_id (objectId : Str) (version : Option Int) (digest : Option Str) (mutable : Bool)
    (callArg : CallArg) (ref : BcsObjectRef) (made : objectInput objectId version digest none mutable = .ok callArg)
    (stored : callArg.objectRef = some ref) : addressBytes objectId = .ok ref.objectId := by
  cases version with
  | none => cases made
  | some version =>
      cases digest with
      | none => cases made
      | some digest =>
          obtain ⟨objBytes, decoded, rest⟩ := (Fallible.bind_ok _ _ _).mp made
          obtain ⟨digestBytes, _, same⟩ := (Fallible.bind_ok _ _ _).mp rest
          cases same
          cases stored
          exact decoded

theorem move_call_package (tx next : Transaction) (target packageStr module function : Str)
    (arguments : Option (List Ref)) (typeArguments : Option (List Str)) (result : TransactionResult) (cmd : Command)
    (mc : ProgrammableMoveCall) (parts : splitColons target = [packageStr, module, function])
    (run : (Transaction.moveCall target arguments typeArguments).run tx = .ok result next)
    (added : next.commands = tx.commands ++ [cmd]) (stored : cmd.moveCall = some mc) :
    addressBytes packageStr = .ok mc.package := by
  rw [move_call_run] at run
  cases made : moveCallCommand target arguments typeArguments with
  | error error =>
      rw [made] at run
      cases run
  | ok other =>
      rw [made] at run
      cases run
      have same := List.singleton_inj.mp (List.append_cancel_left added)
      rw [moveCallCommand, parts] at made
      obtain ⟨package, decoded, otherEq⟩ := (Fallible.bind_ok _ _ _).mp made
      cases otherEq
      rw [← same] at stored
      cases stored
      exact decoded

theorem filled_slot_bytes (models : Models) (address : Str) (slot : Bytes) (fills : FillsSlot models address slot) :
    addressBytes address = .ok slot := by
  cases fills with
  | shared tx next _ version digest sharedVersion mutable arg callArg ref run added stored =>
      exact shared_input_id address version digest sharedVersion mutable callArg ref
        (object_adds tx next address version digest (some sharedVersion) mutable arg callArg run added) stored
  | owned tx next _ version digest mutable arg callArg ref run added stored =>
      exact owned_input_id address version digest mutable callArg ref
        (object_adds tx next address version digest none mutable arg callArg run added) stored
  | package tx next target _ module function arguments typeArguments result cmd mc parts run added stored =>
      exact move_call_package tx next target address module function arguments typeArguments result cmd mc parts run
        added stored
  | sender node world signer _ txData chosen builds =>
      obtain ⟨final, run⟩ := builds_sync models node world signer txData builds
      obtain ⟨sender, _, same, decoded, _⟩ := transaction_data_sync_ok models node world final signer txData run
      rw [Option.some.inj (chosen.symm.trans same)]
      exact decoded
  | gasOwner node world signer _ txData chosen builds =>
      obtain ⟨final, run⟩ := builds_sync models node world signer txData builds
      obtain ⟨sender, _, same, decoded, owner, _⟩ := transaction_data_sync_ok models node world final signer txData run
      rw [Option.some.inj (chosen.symm.trans same), owner]
      exact decoded
  | gasCoin node world sender _ coins refs index c ref explicit coin item resolves made =>
      obtain ⟨final, run⟩ := resolves_gas_sync models node world sender refs resolves
      have matched := explicit_gas_payment_ok models node world final sender coins refs explicit run
      obtain ⟨inCoins, coinEq⟩ := List.getElem?_eq_some_iff.mp coin
      obtain ⟨inRefs, refEq⟩ := List.getElem?_eq_some_iff.mp made
      have fields : GasCoinRef coins[index] refs[index] := matched.get inCoins inRefs
      rw [coinEq, refEq] at fields
      obtain ⟨value, valueItem, decoded⟩ := fields.objectId
      rw [item] at valueItem
      cases valueItem
      exact decoded
  | gasObject node world sender obj refs ref unset selects resolves made =>
      obtain ⟨final, run⟩ := resolves_gas_sync models node world sender refs resolves
      obtain ⟨coins, afterCoins, firstCoin, rest, answered, only, coinsRun, data, objectRun, refsEq, decoded, _⟩ :=
        selected_gas_payment_ok models node world final sender refs unset run
      obtain ⟨coins', afterCoins', firstCoin', rest', final', coinsRun', data', objectRun'⟩ := selects
      rw [coinsRun] at coinsRun'
      cases coinsRun'
      rw [data] at data'
      cases data'
      rw [objectRun] at objectRun'
      cases objectRun'
      rw [refsEq, List.mem_singleton] at made
      rw [made]
      exact decoded
  | structTag typeStr _ module name bytes _ moduleData nameData params parts moduleEq nameEq paramsEq written layout =>
      rw [serialize_struct_tag_eq typeStr address module name parts, moduleEq, nameEq, paramsEq] at written
      obtain ⟨addressData, decoded, rest⟩ := (Fallible.bind_ok _ _ _).mp written
      have same := Except.ok.inj rest
      rw [layout] at same
      rw [← List.append_cancel_right same]
      exact decoded

def AddressContract (address : Str) : Prop :=
  AddressParsersAgree address ∧ ∀ models slot, FillsSlot models address slot → slot.length = 32

theorem address_contract_iff (address : Str) : AddressContract address ↔ ¬ AddressSlip address := by
  refine ⟨?_, ?_⟩
  · intro contract
    exact (parsers_agree_iff address).mp contract.1
  · intro clean
    refine ⟨(parsers_agree_iff address).mpr clean, ?_⟩
    intro models slot fills
    exact length_address_bytes address slot clean (filled_slot_bytes models address slot fills)

def overlongAddress : Str := str "0x" ++ (List.replicate 33 (str "ab")).flatten

theorem overlong_address_accepted :
    (∃ bytes, serializePureAddress overlongAddress = .ok bytes ∧ bytes.length = 33) ∧
      normalizeIotaAddress overlongAddress = .error (.valueError (str "Address too long: " ++ overlongAddress)) ∧
      ¬ AddressContract overlongAddress := by
  have decoded : serializePureAddress overlongAddress = .ok (List.replicate 33 0xAB) := rfl
  have refused : normalizeIotaAddress overlongAddress =
      .error (.valueError (str "Address too long: " ++ overlongAddress)) := rfl
  refine ⟨⟨_, decoded, rfl⟩, refused, ?_⟩
  intro contract
  obtain ⟨normal, accepted⟩ := contract.1.1.mp ⟨_, decoded⟩
  rw [refused] at accepted
  cases accepted

end PyIota
