import PyIota.Client

set_option autoImplicit false

namespace PyIota

open Coroutine

-- address is derived from the key and reads nothing else.
structure Ed25519Keypair where
  address : Str

def defaultGasBudget : Int := 50_000_000

-- self._gas_budget or DEFAULT_GAS_BUDGET: 0 counts as not set.
def Transaction.gasBudgetOrDefault (tx : Transaction) : Int :=
  match tx.gasBudget with
  | none => defaultGasBudget
  | some budget => if budget = 0 then defaultGasBudget else budget

def senderRequired : PyError :=
  .valueError (str "Sender address required. Call set_sender() or provide a signer.")

def noCoins (sender : Str) : PyError := .valueError (str "No IOTA coins found for sender " ++ sender)

def senderOrSigner (setSender : Option Str) (signer : Option Ed25519Keypair) : Option Str :=
  if setSender.isNone ∧ signer.isSome then signer.map Ed25519Keypair.address else setSender

-- The body of the loop over an explicit payment, in both methods.
def gasCoinRef (c : Json) : Except PyError BcsObjectRef := do
  let objectId ← (← c.getItem (str "objectId")).addressBytes
  let version ← (← c.getItem (str "version")).toInt
  let digest ← (← c.getItem (str "digest")).base58Decode
  return ⟨objectId, version, digest⟩

-- An attribute is read where the source reads it, after an await as well.
def Transaction.resolveGasPayment (models : Models) (sender : Str) : AsyncMethod (List BcsObjectRef) := do
  match (← Async.read).gasPayment with
  | some gasPayment => Async.check (gasPayment.mapM gasCoinRef)
  | none => do
      let coins ← IotaClient.getCoins models sender iotaCoinType .null .null
      match coins.data with
      | [] => Async.raise (noCoins sender)
      | firstCoin :: _ => do
          let obj ← IotaClient.getObject models firstCoin.coinObjectId {}
          Async.check do
            let objectId ← addressBytes obj.objectId
            let digest ← base58Decode obj.digest
            return [BcsObjectRef.mk objectId obj.version digest]

def Transaction.gasPriceOrReference : AsyncMethod Int := do
  match (← Async.read).gasPrice with
  | some gasPrice => return gasPrice
  | none => IotaClient.getReferenceGasPrice

def Transaction.transactionData (models : Models) (signer : Option Ed25519Keypair) : AsyncMethod TransactionData := do
  match senderOrSigner (← Async.read).sender signer with
  | none => Async.raise senderRequired
  | some sender => do
      let senderBytes ← Async.check (addressBytes sender)
      let gasPrice ← Transaction.gasPriceOrReference
      let gasBudget := (← Async.read).gasBudgetOrDefault
      let gasRefs ← Transaction.resolveGasPayment models sender
      let self ← Async.read
      let ptb := ProgrammableTransaction.mk self.inputs self.commands
      let gas := GasPayment.mk gasRefs senderBytes gasPrice gasBudget
      return { kind := ptb, sender := senderBytes, gas := gas }

def Transaction.build (models : Models) (signer : Option Ed25519Keypair) : AsyncMethod Bytes := do
  let txData ← Transaction.transactionData models signer
  Async.check txData.serialize

def Transaction.resolveGasPaymentSync (models : Models) (node : Node) (sender : Str) :
    SyncMethod (List BcsObjectRef) := do
  match (← Direct.read).gasPayment with
  | some gasPayment => Direct.check (gasPayment.mapM gasCoinRef)
  | none => do
      let coins ← SyncIotaClient.getCoins models node sender iotaCoinType .null .null
      match coins.data with
      | [] => Direct.raise (noCoins sender)
      | firstCoin :: _ => do
          let obj ← SyncIotaClient.getObject models node firstCoin.coinObjectId {}
          Direct.check do
            let objectId ← addressBytes obj.objectId
            let digest ← base58Decode obj.digest
            return [BcsObjectRef.mk objectId obj.version digest]

def Transaction.gasPriceOrReferenceSync (node : Node) : SyncMethod Int := do
  match (← Direct.read).gasPrice with
  | some gasPrice => return gasPrice
  | none => SyncIotaClient.getReferenceGasPrice node

def Transaction.transactionDataSync (models : Models) (node : Node) (signer : Option Ed25519Keypair) :
    SyncMethod TransactionData := do
  match senderOrSigner (← Direct.read).sender signer with
  | none => Direct.raise senderRequired
  | some sender => do
      let senderBytes ← Direct.check (addressBytes sender)
      let gasPrice ← Transaction.gasPriceOrReferenceSync node
      let gasBudget := (← Direct.read).gasBudgetOrDefault
      let gasRefs ← Transaction.resolveGasPaymentSync models node sender
      let self ← Direct.read
      let ptb := ProgrammableTransaction.mk self.inputs self.commands
      let gas := GasPayment.mk gasRefs senderBytes gasPrice gasBudget
      return { kind := ptb, sender := senderBytes, gas := gas }

def Transaction.buildSync (models : Models) (node : Node) (signer : Option Ed25519Keypair) : SyncMethod Bytes := do
  let txData ← Transaction.transactionDataSync models node signer
  Direct.check txData.serialize

section

variable (models : Models) (node : Node)

theorem resolve_gas_payment_mirrors (sender : Str) :
    Mirrors node (Transaction.resolveGasPayment models sender)
      (Transaction.resolveGasPaymentSync models node sender) := by
  apply mirrors_bind node _ _ _ _ (mirrors_read node)
  intro self
  cases self.gasPayment with
  | some gasPayment => exact mirrors_check node _
  | none =>
      apply mirrors_bind node _ _ _ _ (coins_mirrors models node sender _ _ _)
      intro coins
      cases coins.data with
      | nil => exact mirrors_raise node _
      | cons firstCoin rest =>
          apply mirrors_bind node _ _ _ _ (object_mirrors node models.objectResponse _ _)
          intro obj
          exact mirrors_check node _

theorem gas_price_mirrors :
    Mirrors node Transaction.gasPriceOrReference (Transaction.gasPriceOrReferenceSync node) := by
  apply mirrors_bind node _ _ _ _ (mirrors_read node)
  intro self
  cases self.gasPrice with
  | some gasPrice => exact mirrors_pure node gasPrice
  | none => exact reference_gas_price_mirrors node

theorem transaction_data_mirrors (signer : Option Ed25519Keypair) :
    Mirrors node (Transaction.transactionData models signer) (Transaction.transactionDataSync models node signer) := by
  apply mirrors_bind node _ _ _ _ (mirrors_read node)
  intro self
  cases senderOrSigner self.sender signer with
  | none => exact mirrors_raise node _
  | some sender =>
      apply mirrors_bind node _ _ _ _ (mirrors_check node _)
      intro senderBytes
      apply mirrors_bind node _ _ _ _ (gas_price_mirrors node)
      intro gasPrice
      apply mirrors_bind node _ _ _ _ (mirrors_read node)
      intro self
      apply mirrors_bind node _ _ _ _ (resolve_gas_payment_mirrors models node sender)
      intro gasRefs
      apply mirrors_bind node _ _ _ _ (mirrors_read node)
      intro self
      exact mirrors_pure node _

theorem build_mirrors (signer : Option Ed25519Keypair) :
    Mirrors node (Transaction.build models signer) (Transaction.buildSync models node signer) := by
  apply mirrors_bind node _ _ _ _ (transaction_data_mirrors models node signer)
  intro txData
  exact mirrors_check node txData.serialize

theorem resolve_gas_payment_keeps_state (sender : Str) :
    KeepsState (Transaction.resolveGasPaymentSync models node sender) := by
  apply keeps_state_bind _ _ keeps_state_read
  intro self
  cases self.gasPayment with
  | some gasPayment => exact keeps_state_check _
  | none =>
      apply keeps_state_bind _ _ (coins_keeps_state models node sender _ _ _)
      intro coins
      cases coins.data with
      | nil => exact keeps_state_raise _
      | cons firstCoin rest =>
          apply keeps_state_bind _ _ (object_keeps_state models node _ _)
          intro obj
          exact keeps_state_check _

theorem gas_price_keeps_state : KeepsState (Transaction.gasPriceOrReferenceSync node) := by
  apply keeps_state_bind _ _ keeps_state_read
  intro self
  cases self.gasPrice with
  | some gasPrice => exact keeps_state_pure gasPrice
  | none => exact reference_gas_price_keeps_state node

theorem transaction_data_sync_keeps_state (signer : Option Ed25519Keypair) :
    KeepsState (Transaction.transactionDataSync models node signer) := by
  apply keeps_state_bind _ _ keeps_state_read
  intro self
  cases senderOrSigner self.sender signer with
  | none => exact keeps_state_raise _
  | some sender =>
      apply keeps_state_bind _ _ (keeps_state_check _)
      intro senderBytes
      apply keeps_state_bind _ _ (gas_price_keeps_state node)
      intro gasPrice
      apply keeps_state_bind _ _ keeps_state_read
      intro self
      apply keeps_state_bind _ _ (resolve_gas_payment_keeps_state models node sender)
      intro gasRefs
      apply keeps_state_bind _ _ keeps_state_read
      intro self
      exact keeps_state_pure _

theorem build_sync_keeps_state (signer : Option Ed25519Keypair) :
    KeepsState (Transaction.buildSync models node signer) := by
  apply keeps_state_bind _ _ (transaction_data_sync_keeps_state models node signer)
  intro txData
  exact keeps_state_check txData.serialize

end

def ended (result : Except PyError Bytes) (tx : Transaction) (sent : List Request) :
    EStateM.Result PyError (World Transaction Request) Bytes :=
  match result with
  | .ok data => .ok data ⟨tx, sent⟩
  | .error error => .error error ⟨tx, sent⟩

theorem build_agrees_with_build_sync (models : Models) (node : Node) (signer : Option Ed25519Keypair)
    (tx : Transaction) : ∃ result sent,
      drive node ((Transaction.build models signer).start tx) [] = ended result tx sent ∧
        (Transaction.buildSync models node signer).run ⟨tx, []⟩ = ended result tx sent := by
  have same := build_mirrors models node signer tx []
  have kept := build_sync_keeps_state models node signer ⟨tx, []⟩
  rw [same]
  cases run : (Transaction.buildSync models node signer).run ⟨tx, []⟩ with
  | ok data world =>
      rw [run] at kept
      obtain ⟨state, sent⟩ := world
      obtain rfl : state = tx := kept
      exact ⟨.ok data, sent, rfl, rfl⟩
  | error error world =>
      rw [run] at kept
      obtain ⟨state, sent⟩ := world
      obtain rfl : state = tx := kept
      exact ⟨.error error, sent, rfl, rfl⟩

structure GasCoinRef (c : Json) (ref : BcsObjectRef) : Prop where
  objectId : ∃ value, c.getItem (str "objectId") = .ok value ∧ value.addressBytes = .ok ref.objectId
  version : ∃ value, c.getItem (str "version") = .ok value ∧ value.toInt = .ok ref.version
  digest : ∃ value, c.getItem (str "digest") = .ok value ∧ value.base58Decode = .ok ref.digest

theorem gas_coin_ref_iff (c : Json) (ref : BcsObjectRef) : gasCoinRef c = .ok ref ↔ GasCoinRef c ref := by
  simp only [gasCoinRef, Fallible.bind_ok]
  refine ⟨?_, ?_⟩
  · intro ⟨idValue, idItem, objectId, idEq, versionValue, versionItem, version, versionEq, digestValue, digestItem,
      digest, digestEq, same⟩
    cases same
    exact ⟨⟨idValue, idItem, idEq⟩, ⟨versionValue, versionItem, versionEq⟩, ⟨digestValue, digestItem, digestEq⟩⟩
  · intro ⟨⟨idValue, idItem, idEq⟩, ⟨versionValue, versionItem, versionEq⟩, ⟨digestValue, digestItem, digestEq⟩⟩
    exact ⟨idValue, idItem, _, idEq, versionValue, versionItem, _, versionEq, digestValue, digestItem, _, digestEq, rfl⟩

section

variable (models : Models) (node : Node) (world final : World Transaction Request)

theorem explicit_gas_payment_ok (sender : Str) (coins : List Json) (refs : List BcsObjectRef)
    (explicit : world.state.gasPayment = some coins)
    (run : (Transaction.resolveGasPaymentSync models node sender).run world = .ok refs final) :
    List.Forall₂ GasCoinRef coins refs := by
  obtain ⟨self, middle, read, rest⟩ := (direct_bind_ok _ _ _ _ _).mp run
  cases read
  simp only [explicit] at rest
  have mapped := ((direct_check_ok _ _ _ _).mp rest).1
  exact (Fallible.map_m_forall _ coins refs mapped).imp fun c ref => (gas_coin_ref_iff c ref).mp

theorem selected_gas_payment_ok (sender : Str) (refs : List BcsObjectRef) (unset : world.state.gasPayment = none)
    (run : (Transaction.resolveGasPaymentSync models node sender).run world = .ok refs final) :
    ∃ coins afterCoins firstCoin rest obj ref,
      (SyncIotaClient.getCoins models node sender iotaCoinType .null .null).run world = .ok coins afterCoins ∧
        coins.data = firstCoin :: rest ∧
        (SyncIotaClient.getObject models node firstCoin.coinObjectId {}).run afterCoins = .ok obj final ∧
        refs = [ref] ∧ addressBytes obj.objectId = .ok ref.objectId ∧ ref.version = obj.version ∧
        base58Decode obj.digest = .ok ref.digest := by
  obtain ⟨self, middle, read, body⟩ := (direct_bind_ok _ _ _ _ _).mp run
  cases read
  simp only [unset] at body
  obtain ⟨coins, afterCoins, coinsRun, body⟩ := (direct_bind_ok _ _ _ _ _).mp body
  cases data : coins.data with
  | nil =>
      rw [data] at body
      cases body
  | cons firstCoin rest =>
      rw [data] at body
      obtain ⟨obj, afterObject, objectRun, body⟩ := (direct_bind_ok _ _ _ _ _).mp body
      obtain ⟨made, rfl⟩ := (direct_check_ok _ _ _ _).mp body
      obtain ⟨objectId, objectIdEq, made⟩ := (Fallible.bind_ok _ _ _).mp made
      obtain ⟨digest, digestEq, made⟩ := (Fallible.bind_ok _ _ _).mp made
      cases made
      exact ⟨coins, afterCoins, firstCoin, rest, obj, _, coinsRun, data, objectRun, rfl, objectIdEq, rfl, digestEq⟩

theorem transaction_data_sync_ok (signer : Option Ed25519Keypair) (txData : TransactionData)
    (run : (Transaction.transactionDataSync models node signer).run world = .ok txData final) :
    ∃ sender afterPrice, senderOrSigner world.state.sender signer = some sender ∧
      addressBytes sender = .ok txData.sender ∧ txData.gas.owner = txData.sender ∧
      (Transaction.gasPriceOrReferenceSync node).run world = .ok txData.gas.price afterPrice ∧
      txData.gas.budget = world.state.gasBudgetOrDefault ∧ afterPrice.state = world.state ∧
      (Transaction.resolveGasPaymentSync models node sender).run afterPrice = .ok txData.gas.payment final ∧
      txData.kind = ⟨world.state.inputs, world.state.commands⟩ := by
  obtain ⟨self, middle, read, body⟩ := (direct_bind_ok _ _ _ _ _).mp run
  cases read
  cases chosen : senderOrSigner world.state.sender signer with
  | none =>
      rw [chosen] at body
      cases body
  | some sender =>
      simp only [chosen] at body
      obtain ⟨senderBytes, _, decoded, body⟩ := (direct_bind_ok _ _ _ _ _).mp body
      obtain ⟨senderEq, same⟩ := (direct_check_ok _ _ _ _).mp decoded
      rw [same] at body
      obtain ⟨gasPrice, afterPrice, priceRun, body⟩ := (direct_bind_ok _ _ _ _ _).mp body
      have priceKept := state_kept _ _ _ _ (gas_price_keeps_state node) priceRun
      obtain ⟨self, middle, read, body⟩ := (direct_bind_ok _ _ _ _ _).mp body
      cases read
      obtain ⟨gasRefs, afterGas, gasRun, body⟩ := (direct_bind_ok _ _ _ _ _).mp body
      have gasKept := state_kept _ _ _ _ (resolve_gas_payment_keeps_state models node sender) gasRun
      obtain ⟨self, middle, read, body⟩ := (direct_bind_ok _ _ _ _ _).mp body
      cases read
      cases body
      refine ⟨sender, afterPrice, rfl, senderEq, rfl, priceRun, ?_, priceKept, gasRun, ?_⟩
      · rw [priceKept]
      · rw [gasKept, priceKept]

end

end PyIota
