import PyIota.BuildSucceeds
import PyIota.ConcurrentBuilds
import PyIota.QueryAnswers

set_option autoImplicit false

namespace PyIota

open Coroutine

def pricePlan (tx : Transaction) : List Request := if tx.gasPrice.isSome then [] else [priceRequest]

section

variable (models : Models) (node : Node)

-- The coin listed first, if the node lists one.
def firstCoin (sent : List Request) (sender : Str) : Option CoinData :=
  match reply node sent (coinsRequest sender) >>= coinPageResult models with
  | .ok page => page.data.head?
  | .error _ => none

theorem first_coin_told (pydantic : Pydantic) (plain : pydantic.Plain) (sent : List Request) (sender : Str)
    (answer : Json) (answered : reply node sent (coinsRequest sender) = .ok answer) (page : CoinPage)
    (told : IsNested TellsCoinPage answer page) : firstCoin pydantic.models node sent sender = page.data.head? := by
  obtain ⟨entries, rfl, told⟩ := told
  have read : reply node sent (coinsRequest sender) >>= coinPageResult pydantic.models = .ok page := by
    rw [answered]
    exact coin_page_told pydantic plain entries page told
  rw [firstCoin, read]

def paymentPlan (world : World Transaction Request) (sender : Str) : List Request :=
  if world.state.gasPayment.isSome then []
  else coinsRequest sender ::
    ((firstCoin models node world.sent sender).map fun coin => objectRequest coin.coinObjectId {}).toList

def buildPlan (signer : Option Ed25519Keypair) (world : World Transaction Request) : List Request :=
  match senderOrSigner world.state.sender signer with
  | none => []
  | some sender => pricePlan world.state ++
      paymentPlan models node ⟨world.state, world.sent ++ pricePlan world.state⟩ sender

theorem request_plans (method : Str) (params : List Json) (world : World Transaction Request) :
    Plans (SyncRpcTransport.request node method (some params)) world [⟨method, params⟩] :=
  plans_settled _ world _ _ (request_settles node method params world)

theorem price_plans (world : World Transaction Request) :
    Plans (Transaction.gasPriceOrReferenceSync node) world (pricePlan world.state) := by
  apply plans_read_then
  unfold pricePlan
  cases world.state.gasPrice with
  | some price => exact plans_pure price world
  | none => exact plans_then _ _ _ _ (request_plans node _ [] world) fun result => plans_check result.toInt

theorem coins_settle (world : World Transaction Request) (sender : Str) :
    Settles (SyncIotaClient.getCoins models node sender iotaCoinType .null .null) world
      (reply node world.sent (coinsRequest sender) >>= coinPageResult models)
      ⟨world.state, world.sent ++ [coinsRequest sender]⟩ :=
  asked_checked (str "iotax_getCoins") (some _) (coinPageResult models) node world

theorem object_plans (world : World Transaction Request) (objectId : Str) :
    Plans (SyncIotaClient.getObject models node objectId {}) world [objectRequest objectId {}] :=
  plans_settled _ world _ _ (object_settles node models.objectResponse objectId {} world)

theorem payment_plans (world : World Transaction Request) (sender : Str) :
    Plans (Transaction.resolveGasPaymentSync models node sender) world (paymentPlan models node world sender) := by
  apply plans_read_then
  unfold paymentPlan
  cases world.state.gasPayment with
  | some gasPayment => exact plans_check _ world
  | none =>
      apply plans_bind _ _ world [coinsRequest sender] _ (plans_settled _ world _ _ (coins_settle models node world sender))
      intro coins answered
      have first : firstCoin models node world.sent sender = coins.data.head? := by
        rw [firstCoin, settled_inj _ _ _ ((coins_settle models node world sender).symm.trans answered)]
      rw [first]
      cases coins.data with
      | nil => exact plans_raise _ _ _
      | cons coin rest =>
          apply plans_then _ _ _ _ (object_plans models node _ coin.coinObjectId)
          intro obj later
          exact plans_check _ later

theorem transaction_data_plans (signer : Option Ed25519Keypair) (world : World Transaction Request) :
    Plans (Transaction.transactionDataSync models node signer) world (buildPlan models node signer world) := by
  apply plans_read_then
  unfold buildPlan
  cases senderOrSigner world.state.sender signer with
  | none => exact plans_raise _ world []
  | some sender =>
      apply plans_bind _ _ world [] _ (plans_check _ world)
      intro senderBytes _
      rw [List.append_nil]
      apply plans_bind _ _ world (pricePlan world.state) _ (price_plans node world)
      intro gasPrice _
      apply plans_read_then
      apply plans_then _ _ _ _ (payment_plans models node _ sender)
      intro gasRefs later
      apply plans_read_then
      exact plans_pure _ later

theorem build_plans (signer : Option Ed25519Keypair) (world : World Transaction Request) :
    Plans (Transaction.buildSync models node signer) world (buildPlan models node signer world) := by
  apply plans_then _ _ _ _ (transaction_data_plans models node signer world)
  intro txData later
  exact plans_check txData.serialize later

-- Whatever the node answers, either build asks for the price, the coins and the first
-- coin's object in this order, each only where the transaction leaves it open, and
-- changes nothing; it returns only after all of it.
theorem build_sends_plan (signer : Option Ed25519Keypair) (world : World Transaction Request) :
    ∃ result requests,
      ClientsSettle (Transaction.build models signer) (Transaction.buildSync models node signer) node world result
          ⟨world.state, world.sent ++ requests⟩ ∧
        requests <+: buildPlan models node signer world ∧
        ∀ bytes, result = .ok bytes → requests = buildPlan models node signer world := by
  obtain ⟨result, requests, settles, started, complete⟩ := build_plans models node signer world
  exact ⟨result, requests, mirrored_settles _ _ node world _ result (build_mirrors models node signer) settles, started,
    complete⟩

end

section

variable (models others : Models) (node rogue : Node) (signer : Option Ed25519Keypair) (tx : Transaction)
  (sent otherSent : List Request)

theorem explicit_price_kept (txData : TransactionData) (price : Int) (final : World Transaction Request)
    (explicit : tx.gasPrice = some price)
    (run : (Transaction.transactionDataSync models node signer).run ⟨tx, sent⟩ = .ok txData final) :
    txData.gas.price = price := by
  obtain ⟨_, _, _, _, _, priceRun, _⟩ := transaction_data_sync_ok models node _ final signer txData run
  exact explicit_gas_price node _ _ price _ explicit priceRun

theorem explicit_payment_kept (txData : TransactionData) (coins : List Json) (final : World Transaction Request)
    (explicit : tx.gasPayment = some coins)
    (run : (Transaction.transactionDataSync models node signer).run ⟨tx, sent⟩ = .ok txData final) :
    coins.mapM gasCoinRef = .ok txData.gas.payment := by
  obtain ⟨sender, afterPrice, _, _, _, _, _, kept, paymentRun, _⟩ :=
    transaction_data_sync_ok models node _ final signer txData run
  obtain ⟨self, middle, read, rest⟩ := (direct_bind_ok _ _ _ _ _).mp paymentRun
  cases read
  have set_ : afterPrice.state.gasPayment = some coins := by
    rw [kept]
    exact explicit
  simp only [set_] at rest
  exact ((direct_check_ok _ _ _ _).mp rest).1

-- Two nodes can make a build differ in nothing but the gas price and the payment, and
-- only where the transaction leaves these to them; where every fixed slot has its 32
-- bytes, so do the transactions that the bytes decode to.
theorem node_settles_only_gas (bytes otherBytes : Bytes) (built : BuildReturns models node signer tx sent bytes)
    (otherBuilt : BuildReturns others rogue signer tx otherSent otherBytes) :
    ∃ address sender price payment otherPrice otherPayment,
      senderOrSigner tx.sender signer = some address ∧ addressBytes address = .ok sender ∧
      Builds models node ⟨tx, sent⟩ signer (tx.data sender price payment) ∧
      Builds others rogue ⟨tx, otherSent⟩ signer (tx.data sender otherPrice otherPayment) ∧
      (tx.data sender price payment).serialize = .ok bytes ∧
      (tx.data sender otherPrice otherPayment).serialize = .ok otherBytes ∧
      (∀ explicit, tx.gasPrice = some explicit → price = explicit ∧ otherPrice = explicit) ∧
      (tx.gasPayment.isSome → otherPayment = payment) ∧
      ((tx.data sender price payment).Slotted → (tx.data sender otherPrice otherPayment).Slotted →
        bytes.length < 2 ^ 64 → otherBytes.length < 2 ^ 64 →
          ∃ value, DecodesTo bytes value ∧ value.sender = sender ∧ value.gas = (tx.data sender price payment).gas ∧
            ((tx.data sender price payment).WellFormed → (tx.data sender price payment).Denotes value) ∧
            DecodesTo otherBytes
              { value with gas := { value.gas with price := otherPrice, payment := otherPayment } }) := by
  obtain ⟨txData, final, run, serialized⟩ := (build_returns_data models node signer tx sent bytes).mp built
  obtain ⟨otherData, otherFinal, otherRun, otherSerialized⟩ :=
    (build_returns_data others rogue signer tx otherSent otherBytes).mp otherBuilt
  obtain ⟨address, chosen, decoded, made⟩ := transaction_data_made models node _ final signer txData run
  obtain ⟨otherAddress, otherChosen, otherDecoded, otherMade⟩ :=
    transaction_data_made others rogue _ otherFinal signer otherData otherRun
  obtain rfl := Option.some.inj (chosen.symm.trans otherChosen)
  rw [Except.ok.inj (otherDecoded.symm.trans decoded)] at otherMade
  refine ⟨address, txData.sender, txData.gas.price, txData.gas.payment, otherData.gas.price, otherData.gas.payment,
    chosen, decoded, ?_, ?_, ?_, ?_, ?_, ?_, ?_⟩
  · rw [← made]
    exact ⟨final, Or.inl run⟩
  · rw [← otherMade]
    exact ⟨otherFinal, Or.inl otherRun⟩
  · rw [← made]
    exact serialized
  · rw [← otherMade]
    exact otherSerialized
  · intro price explicit
    exact ⟨explicit_price_kept models node signer tx sent txData price final explicit run,
      explicit_price_kept others rogue signer tx otherSent otherData price otherFinal explicit otherRun⟩
  · intro explicit
    obtain ⟨coins, explicit⟩ := Option.isSome_iff_exists.mp explicit
    have first := explicit_payment_kept models node signer tx sent txData coins final explicit run
    have second := explicit_payment_kept others rogue signer tx otherSent otherData coins otherFinal explicit otherRun
    exact Except.ok.inj (second.symm.trans first)
  · rw [← made, ← otherMade]
    intro slotted otherSlotted short otherShort
    obtain ⟨value, readAs, decodes⟩ := decodes_slotted txData slotted bytes serialized short
    obtain ⟨otherValue, otherReadAs, otherDecodes⟩ :=
      decodes_slotted otherData otherSlotted otherBytes otherSerialized otherShort
    obtain ⟨inputs, commands⟩ := same_kind_read txData otherData value otherValue (by rw [made, otherMade]; rfl)
      readAs otherReadAs
    refine ⟨value, decodes, readAs.sender.symm, readAs.gas.symm, readAs.denotes, ?_⟩
    have same : otherValue =
        { value with gas := { value.gas with price := otherData.gas.price, payment := otherData.gas.payment } } := by
      apply TransactionValue.ext
      · exact inputs
      · exact commands
      · rw [← otherReadAs.sender, ← readAs.sender, made, otherMade]
        rfl
      · rw [← otherReadAs.gas, ← readAs.gas, made, otherMade]
        rfl
      · rw [← otherReadAs.expirationEpoch, ← readAs.expirationEpoch, made, otherMade]
        rfl
    rw [← same]
    exact otherDecodes

end

def unpricedTransaction : Transaction :=
  Transaction.steps {} [.setSender senderOfOnes, .setGasPayment [], .setGasBudget 7]

def pricingNode (price : Int) : Node := fun _ => .ok (.dict [(str "result", .int price)])

def pricedBytes (price : UInt8) : Bytes :=
  settledBytes (List.replicate 32 1) (List.replicate 32 1) [price, 0, 0, 0, 0, 0, 0, 0] [7, 0, 0, 0, 0, 0, 0, 0]

theorem unpriced_slotted (price : Int) : (unpricedTransaction.data (List.replicate 32 1) price []).Slotted where
  inputs := by
    intro arg member
    cases (member : arg ∈ [])
  commands := by
    intro cmd member
    cases (member : cmd ∈ [])
  sender := rfl
  owner := rfl
  payment := by
    intro ref member
    cases member

theorem unpriced_payment (node : Node) (sender : Bytes) (price : Int) (payment : List BcsObjectRef)
    (builds : Builds refusingModels node ⟨unpricedTransaction, []⟩ none (unpricedTransaction.data sender price payment)) :
    [] = payment := by
  obtain ⟨final, run⟩ := builds_sync refusingModels node _ none _ builds
  have resolved := explicit_payment_kept refusingModels node none unpricedTransaction [] _ [] final rfl run
  exact Except.ok.inj resolved

theorem priced_returns (price : Int) (byte : UInt8) (sent : List Request)
    (written : writeU64 price = Emitter.append [byte, 0, 0, 0, 0, 0, 0, 0]) :
    BuildReturns refusingModels (pricingNode price) none unpricedTransaction sent (pricedBytes byte) :=
  (build_returns_data _ _ _ _ _ _).mpr ⟨_, ⟨unpricedTransaction, sent ++ [priceRequest]⟩, rfl,
    settled_transaction_serialized _ _ price 7 _ _ written rfl⟩

theorem two_prices_built : ∃ value, DecodesTo (pricedBytes 1) value ∧ value.gas.price = 1 ∧
    DecodesTo (pricedBytes 2) { value with gas := { value.gas with price := 2 } } := by
  obtain ⟨address, sender, price, payment, otherPrice, otherPayment, chosen, named, builds, _, _, _, _, samePayment,
    decoded⟩ :=
    node_settles_only_gas refusingModels refusingModels (pricingNode 1) (pricingNode 2) none unpricedTransaction [] []
      (pricedBytes 1) (pricedBytes 2) (priced_returns 1 1 [] rfl) (priced_returns 2 2 [] rfl)
  obtain rfl : senderOfOnes = address := Option.some.inj chosen
  obtain rfl : List.replicate 32 1 = sender := Except.ok.inj named
  obtain rfl := unpriced_payment _ _ price payment builds
  obtain rfl := samePayment rfl
  obtain ⟨value, decodes, _, gas, _, otherDecodes⟩ :=
    decoded (unpriced_slotted price) (unpriced_slotted otherPrice) (by decide) (by decide)
  obtain ⟨first, firstDecodes, firstGas⟩ := settled_transaction_decodes (List.replicate 32 1) (List.replicate 32 1) 1 7
    (pricedBytes 1) rfl rfl (settled_transaction_serialized _ _ 1 7 _ _ rfl rfl) (by decide)
  obtain ⟨second, secondDecodes, secondGas⟩ := settled_transaction_decodes (List.replicate 32 1) (List.replicate 32 1) 2 7
    (pricedBytes 2) rfl rfl (settled_transaction_serialized _ _ 2 7 _ _ rfl rfl) (by decide)
  obtain rfl := decodes_to_unique _ first value firstDecodes decodes
  have secondPrice := congrArg (fun made => made.gas.price) (decodes_to_unique _ second _ secondDecodes otherDecodes)
  have priceTwo : otherPrice = 2 := secondPrice.trans (congrArg GasPayment.price secondGas)
  have noPayment : value.gas.payment = [] := congrArg GasPayment.payment gas
  refine ⟨value, decodes, by rw [firstGas]; rfl, ?_⟩
  rw [priceTwo, ← noPayment] at otherDecodes
  exact otherDecodes

end PyIota
