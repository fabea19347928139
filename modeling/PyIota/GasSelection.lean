import PyIota.ClientTransactions
import PyIota.Settings

set_option autoImplicit false

namespace PyIota

open Coroutine

-- balance_int, with nothing for what int() refuses.
def CoinData.holding (coin : CoinData) : Int := (parseInt coin.balance).toOption.getD 0

def CoinData.address? (coin : CoinData) : Option Bytes := (addressBytes coin.coinObjectId).toOption

def Transaction.objectInputs (tx : Transaction) : List Bytes :=
  tx.inputs.filterMap fun arg => (arg.objectRef.map BcsObjectRef.objectId).or (arg.sharedRef.map SharedObjectRef.objectId)

def holdingOf (page : List CoinData) (objectId : Bytes) : Int :=
  ((page.find? fun coin => coin.address? = some objectId).map CoinData.holding).getD 0

section

variable (tx : Transaction) (page : List CoinData)

structure UsableCoins (chosen : List CoinData) : Prop where
  ofPage : chosen.Sublist page
  noInput : ∀ coin ∈ chosen, ∃ objectId, coin.address? = some objectId ∧ objectId ∉ tx.objectInputs
  covers : tx.gasBudgetOrDefault ≤ (chosen.map CoinData.holding).sum

structure UsablePayment (payment : List BcsObjectRef) : Prop where
  noInput : ∀ ref ∈ payment, ref.objectId ∉ tx.objectInputs
  covers : tx.gasBudgetOrDefault ≤ (payment.map fun ref => holdingOf page ref.objectId).sum

theorem single_payment_usable_iff (ref : BcsObjectRef) (firstCoin : CoinData) (rest : List CoinData)
    (same : firstCoin.address? = some ref.objectId) : UsablePayment tx (firstCoin :: rest) [ref] ↔
      ref.objectId ∉ tx.objectInputs ∧ tx.gasBudgetOrDefault ≤ firstCoin.holding := by
  have holds : holdingOf (firstCoin :: rest) ref.objectId = firstCoin.holding := by
    rw [holdingOf, List.find?_cons_of_pos (by simpa using same)]
    rfl
  refine ⟨?_, ?_⟩
  · intro ⟨noInput, covers⟩
    rw [List.map_singleton, List.sum_singleton, holds] at covers
    exact ⟨noInput ref List.mem_cons_self, covers⟩
  · intro ⟨notInput, covered⟩
    refine ⟨?_, ?_⟩
    · intro other member
      rw [List.mem_singleton.mp member]
      exact notInput
    · rw [List.map_singleton, List.sum_singleton, holds]
      exact covered

end

section

variable (models : Models) (node : Node) (world : World Transaction Request) (sender : Str)

def PageAnswered (page : CoinPage) (after : World Transaction Request) : Prop :=
  (SyncIotaClient.getCoins models node sender iotaCoinType .null .null).run world = .ok page after

def PicksUsablePayment : Prop := ∀ page after, PageAnswered models node world sender page after →
  (∃ chosen, UsableCoins world.state page.data chosen) →
    ∀ payment, ResolvesGas models node world sender payment → UsablePayment world.state page.data payment

-- The page's first coin is the payment, whatever it and the others hold and
-- whatever the inputs are.
theorem first_coin_pays (unset : world.state.gasPayment = none) (payment : List BcsObjectRef)
    (resolves : ResolvesGas models node world sender payment) :
    ∃ page after firstCoin rest obj final ref,
      PageAnswered models node world sender page after ∧ page.data = firstCoin :: rest ∧
        (SyncIotaClient.getObject models node firstCoin.coinObjectId {}).run after = .ok obj final ∧
        payment = [ref] ∧ addressBytes obj.objectId = .ok ref.objectId ∧ ref.version = obj.version ∧
        base58Decode obj.digest = .ok ref.digest ∧
        (firstCoin.address? = some ref.objectId → (UsablePayment world.state page.data payment ↔
          ref.objectId ∉ world.state.objectInputs ∧ world.state.gasBudgetOrDefault ≤ firstCoin.holding)) := by
  obtain ⟨final, run⟩ := resolves_gas_sync models node world sender payment resolves
  obtain ⟨page, after, firstCoin, rest, obj, ref, answered, data, objectRun, only, objectId, version, digest⟩ :=
    selected_gas_payment_ok models node world final sender payment unset run
  refine ⟨page, after, firstCoin, rest, obj, final, ref, answered, data, objectRun, only, objectId, version, digest, ?_⟩
  intro same
  rw [only, data]
  exact single_payment_usable_iff world.state ref firstCoin rest same

end

def rpcBody (result : Json) : Json :=
  .dict [(str "jsonrpc", .str (str "2.0")), (str "id", .int 1), (str "result", result)]

def digestOfOnes : Str := List.replicate 32 (cp '1')

def coinJson (objectId balance : Str) : Json := .dict [
  (str "coinType", .str iotaCoinType),
  (str "coinObjectId", .str objectId),
  (str "version", .str (str "42")),
  (str "digest", .str digestOfOnes),
  (str "balance", .str balance)]

-- A coin too small for any gas, and one that is large enough.
def twoCoins : Json := .dict [
  (str "data", .list [coinJson (str "0xa1") (str "5"), coinJson (str "0xb2") (str "2000000000")]),
  (str "nextCursor", .null),
  (str "hasNextPage", .bool false)]

def objectJson (objectId : Json) : Json :=
  .dict [(str "data", .dict [(str "objectId", objectId), (str "version", .int 42), (str "digest", .str digestOfOnes)])]

def twoCoinNode : Node := fun sent =>
  sent.getLast?.elim (.error .httpError) fun request =>
    if request.method = str "iotax_getCoins" then .ok (rpcBody twoCoins)
    else .ok (rpcBody (objectJson (request.params.headD .null)))

def smallCoin : CoinData := ⟨iotaCoinType, str "0xa1", 42, digestOfOnes, str "5"⟩

def largeCoin : CoinData := ⟨iotaCoinType, str "0xb2", 42, digestOfOnes, str "2000000000"⟩

def coinInputStep : Step := .call (.object (str "0xa1") (some 42) (some digestOfOnes) none true)

def coinInputWorld : World Transaction Request := afterSteps [coinInputStep] []

def smallCoinRef : BcsObjectRef := ⟨List.replicate 31 0 ++ [0xa1], 42, List.replicate 32 0⟩

theorem two_coins_answered : ∃ after, PageAnswered strictPydantic.models twoCoinNode coinInputWorld senderOfOnes
    ⟨[smallCoin, largeCoin], none, false⟩ after := ⟨_, rfl⟩

set_option maxRecDepth 4000 in
theorem small_coin_resolves :
    ResolvesGas strictPydantic.models twoCoinNode coinInputWorld senderOfOnes [smallCoinRef] := ⟨_, Or.inl rfl⟩

theorem large_coin_usable : UsableCoins coinInputWorld.state [smallCoin, largeCoin] [largeCoin] := by
  refine ⟨?_, ?_, ?_⟩
  · exact List.sublist_cons_self _ _
  · intro coin member
    rw [List.mem_singleton.mp member]
    exact ⟨List.replicate 31 0 ++ [0xb2], rfl, by decide⟩
  · decide

theorem first_coin_pays_two_coins : ∃ page after firstCoin rest obj final ref,
    PageAnswered strictPydantic.models twoCoinNode coinInputWorld senderOfOnes page after ∧
      page.data = firstCoin :: rest ∧
      (SyncIotaClient.getObject strictPydantic.models twoCoinNode firstCoin.coinObjectId {}).run after = .ok obj final ∧
      [smallCoinRef] = [ref] ∧ addressBytes obj.objectId = .ok ref.objectId ∧ ref.version = obj.version ∧
      base58Decode obj.digest = .ok ref.digest ∧
      (firstCoin.address? = some ref.objectId → (UsablePayment coinInputWorld.state page.data [smallCoinRef] ↔
        ref.objectId ∉ coinInputWorld.state.objectInputs ∧
          coinInputWorld.state.gasBudgetOrDefault ≤ firstCoin.holding)) :=
  first_coin_pays strictPydantic.models twoCoinNode coinInputWorld senderOfOnes rfl [smallCoinRef] small_coin_resolves

theorem input_coin_picked : ¬ PicksUsablePayment strictPydantic.models twoCoinNode coinInputWorld senderOfOnes := by
  intro picks
  obtain ⟨after, answered⟩ := two_coins_answered
  have usable := picks _ after answered ⟨[largeCoin], large_coin_usable⟩ [smallCoinRef] small_coin_resolves
  exact usable.noInput smallCoinRef List.mem_cons_self (by decide)

end PyIota
