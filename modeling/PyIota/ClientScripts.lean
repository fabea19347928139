import PyIota.Build
import PyIota.ClientQueries
import PyIota.WaitForTransaction

set_option autoImplicit false

namespace PyIota

open Coroutine Polling

inductive ApiCall : Type → Type where
  | getRpcApiVersion : ApiCall Json
  | getChainIdentifier : ApiCall Json
  | getReferenceGasPrice : ApiCall Int
  | getBalance (owner coinType : Str) : ApiCall Balance
  | getAllBalances (owner : Str) : ApiCall (List Balance)
  | getCoins (owner coinType : Str) (cursor limit : Json) : ApiCall CoinPage
  | getCoinMetadata (coinType : Str) : ApiCall (Option CoinMetadata)
  | getTotalSupply (coinType : Str) : ApiCall Supply
  | getObject (objectId : Str) (options : ShowOptions) : ApiCall FullObjectData
  | multiGetObjects (objectIds : List Str) (showContent showOwner showType : Bool) : ApiCall (List FullObjectData)
  | getOwnedObjects (owner : Str) (cursor limit : Json) (objectFilter : Option Entries) (options : OwnedOptions) :
      ApiCall ObjectsPage
  | executeTransactionBlock (txBytes : Str) (signatures : List Str) (options : TransactionOptions) (requestType : Str) :
      ApiCall TransactionResponse
  | signAndExecuteTransaction (signTransaction : Bytes → Except PyError Str) (txBytes : Bytes)
      (showEffects showEvents showObjectChanges showBalanceChanges : Bool) : ApiCall TransactionResponse
  | devInspectTransactionBlock (sender txBytes : Str) : ApiCall DevInspectResults
  | dryRunTransactionBlock (txBytes : Str) : ApiCall DryRunTransactionResponse
  | queryEvents (query : EventSelector) (cursor limit : Json) (descendingOrder : Bool) : ApiCall EventPage

section

variable (pydantic : Pydantic) (node : Node)

def ApiCall.async : {α : Type} → ApiCall α → AsyncMethod α
  | _, .getRpcApiVersion => IotaClient.getRpcApiVersion
  | _, .getChainIdentifier => IotaClient.getChainIdentifier
  | _, .getReferenceGasPrice => IotaClient.getReferenceGasPrice
  | _, .getBalance owner coinType => IotaClient.getBalance pydantic owner coinType
  | _, .getAllBalances owner => IotaClient.getAllBalances pydantic owner
  | _, .getCoins owner coinType cursor limit => IotaClient.getCoins pydantic.models owner coinType cursor limit
  | _, .getCoinMetadata coinType => IotaClient.getCoinMetadata pydantic coinType
  | _, .getTotalSupply coinType => IotaClient.getTotalSupply pydantic coinType
  | _, .getObject objectId options => IotaClient.getFullObject pydantic objectId options
  | _, .multiGetObjects objectIds showContent showOwner showType =>
      IotaClient.multiGetObjects pydantic objectIds showContent showOwner showType
  | _, .getOwnedObjects owner cursor limit objectFilter options =>
      IotaClient.getOwnedObjects pydantic owner cursor limit objectFilter options
  | _, .executeTransactionBlock txBytes signatures options requestType =>
      IotaClient.executeTransactionBlock pydantic txBytes signatures options requestType
  | _, .signAndExecuteTransaction signTransaction txBytes showEffects showEvents showObjectChanges showBalanceChanges =>
      IotaClient.signAndExecuteTransaction pydantic signTransaction txBytes showEffects showEvents showObjectChanges
        showBalanceChanges
  | _, .devInspectTransactionBlock sender txBytes => IotaClient.devInspectTransactionBlock pydantic sender txBytes
  | _, .dryRunTransactionBlock txBytes => IotaClient.dryRunTransactionBlock pydantic txBytes
  | _, .queryEvents query cursor limit descendingOrder => IotaClient.queryEvents pydantic query cursor limit descendingOrder

def ApiCall.sync : {α : Type} → ApiCall α → SyncMethod α
  | _, .getRpcApiVersion => SyncIotaClient.getRpcApiVersion node
  | _, .getChainIdentifier => SyncIotaClient.getChainIdentifier node
  | _, .getReferenceGasPrice => SyncIotaClient.getReferenceGasPrice node
  | _, .getBalance owner coinType => SyncIotaClient.getBalance pydantic node owner coinType
  | _, .getAllBalances owner => SyncIotaClient.getAllBalances pydantic node owner
  | _, .getCoins owner coinType cursor limit =>
      SyncIotaClient.getCoins pydantic.models node owner coinType cursor limit
  | _, .getCoinMetadata coinType => SyncIotaClient.getCoinMetadata pydantic node coinType
  | _, .getTotalSupply coinType => SyncIotaClient.getTotalSupply pydantic node coinType
  | _, .getObject objectId options => SyncIotaClient.getFullObject pydantic node objectId options
  | _, .multiGetObjects objectIds showContent showOwner showType =>
      SyncIotaClient.multiGetObjects pydantic node objectIds showContent showOwner showType
  | _, .getOwnedObjects owner cursor limit objectFilter options =>
      SyncIotaClient.getOwnedObjects pydantic node owner cursor limit objectFilter options
  | _, .executeTransactionBlock txBytes signatures options requestType =>
      SyncIotaClient.executeTransactionBlock pydantic node txBytes signatures options requestType
  | _, .signAndExecuteTransaction signTransaction txBytes showEffects showEvents showObjectChanges showBalanceChanges =>
      SyncIotaClient.signAndExecuteTransaction pydantic node signTransaction txBytes showEffects showEvents
        showObjectChanges showBalanceChanges
  | _, .devInspectTransactionBlock sender txBytes =>
      SyncIotaClient.devInspectTransactionBlock pydantic node sender txBytes
  | _, .dryRunTransactionBlock txBytes => SyncIotaClient.dryRunTransactionBlock pydantic node txBytes
  | _, .queryEvents query cursor limit descendingOrder =>
      SyncIotaClient.queryEvents pydantic node query cursor limit descendingOrder

theorem asked_mirrors {α : Type} (method : Str) (params : Option (List Json)) (decode : Json → Except PyError α) :
    Mirrors node (AsyncRpcTransport.request method params >>= fun result => Async.check (decode result))
      (SyncRpcTransport.request node method params >>= fun result => Direct.check (decode result)) := by
  apply mirrors_bind node _ _ _ _ (request_mirrors node method params)
  intro result
  exact mirrors_check node (decode result)

theorem coin_metadata_mirrors (coinType : Str) :
    Mirrors node (IotaClient.getCoinMetadata pydantic coinType) (SyncIotaClient.getCoinMetadata pydantic node coinType) := by
  apply mirrors_bind node _ _ _ _ (request_mirrors node _ _)
  intro result
  cases result with
  | null => exact mirrors_pure node none
  | _ => exact mirrors_check node _

theorem query_events_mirrors (query : EventSelector) (cursor limit : Json) (descendingOrder : Bool) :
    Mirrors node (IotaClient.queryEvents pydantic query cursor limit descendingOrder)
      (SyncIotaClient.queryEvents pydantic node query cursor limit descendingOrder) := by
  apply mirrors_bind node _ _ _ _ (mirrors_check node _)
  intro queryDict
  exact asked_mirrors node _ _ _

theorem api_call_mirrors {α : Type} (call : ApiCall α) : Mirrors node (call.async pydantic) (call.sync pydantic node) := by
  cases call with
  | getRpcApiVersion => exact asked_mirrors node _ _ _
  | getChainIdentifier => exact request_mirrors node _ _
  | getReferenceGasPrice => exact reference_gas_price_mirrors node
  | getBalance owner coinType => exact asked_mirrors node _ _ _
  | getAllBalances owner => exact asked_mirrors node _ _ _
  | getCoins owner coinType cursor limit => exact coins_mirrors pydantic.models node owner coinType cursor limit
  | getCoinMetadata coinType => exact coin_metadata_mirrors pydantic node coinType
  | getTotalSupply coinType => exact asked_mirrors node _ _ _
  | getObject objectId options => exact object_mirrors node _ objectId options
  | multiGetObjects objectIds showContent showOwner showType => exact asked_mirrors node _ _ _
  | getOwnedObjects owner cursor limit objectFilter options => exact asked_mirrors node _ _ _
  | executeTransactionBlock txBytes signatures options requestType =>
      exact execute_mirrors pydantic node txBytes signatures options requestType
  | signAndExecuteTransaction signTransaction txBytes showEffects showEvents showObjectChanges showBalanceChanges =>
      exact sign_and_execute_mirrors pydantic node signTransaction txBytes _ _ _ _
  | devInspectTransactionBlock sender txBytes => exact asked_mirrors node _ _ _
  | dryRunTransactionBlock txBytes => exact dry_run_mirrors pydantic node txBytes
  | queryEvents query cursor limit descendingOrder =>
      exact query_events_mirrors pydantic node query cursor limit descendingOrder

end

def multiRequest (objectIds : List Str) (showContent showOwner showType : Bool) : Request :=
  ⟨str "iota_multiGetObjects", [.list (objectIds.map .str), multiOptions showContent showOwner showType]⟩

def ApiCall.request : {α : Type} → ApiCall α → Except PyError Request
  | _, .getRpcApiVersion => .ok ⟨str "rpc.discover", []⟩
  | _, .getChainIdentifier => .ok ⟨str "iota_getChainIdentifier", []⟩
  | _, .getReferenceGasPrice => .ok ⟨str "iotax_getReferenceGasPrice", []⟩
  | _, .getBalance owner coinType => .ok ⟨str "iotax_getBalance", [.str owner, .str coinType]⟩
  | _, .getAllBalances owner => .ok ⟨str "iotax_getAllBalances", [.str owner]⟩
  | _, .getCoins owner coinType cursor limit => .ok ⟨str "iotax_getCoins", [.str owner, .str coinType, cursor, limit]⟩
  | _, .getCoinMetadata coinType => .ok ⟨str "iotax_getCoinMetadata", [.str coinType]⟩
  | _, .getTotalSupply coinType => .ok ⟨str "iotax_getTotalSupply", [.str coinType]⟩
  | _, .getObject objectId options => .ok (objectRequest objectId options)
  | _, .multiGetObjects objectIds showContent showOwner showType =>
      .ok (multiRequest objectIds showContent showOwner showType)
  | _, .getOwnedObjects owner cursor limit objectFilter options =>
      .ok ⟨str "iotax_getOwnedObjects", [.str owner, ownedQuery objectFilter options, cursor, limit]⟩
  | _, .executeTransactionBlock txBytes signatures options requestType =>
      .ok (executeRequest txBytes signatures options requestType)
  | _, .signAndExecuteTransaction signTransaction txBytes showEffects showEvents showObjectChanges showBalanceChanges =>
      (signTransaction txBytes).map fun signature => executeRequest (base64Encode txBytes) [signature]
        { showEffects, showEvents, showObjectChanges, showBalanceChanges } (str "WaitForLocalExecution")
  | _, .devInspectTransactionBlock sender txBytes =>
      .ok ⟨str "iota_devInspectTransactionBlock", [.str sender, .str txBytes]⟩
  | _, .dryRunTransactionBlock txBytes => .ok (dryRunRequest txBytes)
  | _, .queryEvents query cursor limit descendingOrder =>
      query.queryDict.map fun queryDict => ⟨str "iotax_queryEvents", [queryDict, cursor, limit, .bool descendingOrder]⟩

def askedResult {α : Type} (node : Node) (world : World Transaction Request) (request : Except PyError Request)
    (decode : Json → Except PyError α) : Except PyError α := do
  let request ← request
  let result ← reply node world.sent request
  decode result

def askedWorld (world : World Transaction Request) : Except PyError Request → World Transaction Request
  | .ok request => ⟨world.state, world.sent ++ [request]⟩
  | .error _ => world

-- What the call asks and how it reads the answer are settled before it starts.
def Asks {α : Type} (direct : Node → SyncMethod α) (request : Except PyError Request)
    (decode : Json → Except PyError α) : Prop :=
  ∀ node world, Settles (direct node) world (askedResult node world request decode) (askedWorld world request)

section

variable (pydantic : Pydantic)

theorem asked {α : Type} (method : Str) (params : Option (List Json)) (read : Json → SyncMethod α)
    (decode : Json → Except PyError α) (settles : ∀ result world, Settles (read result) world (decode result) world) :
    Asks (fun node => SyncRpcTransport.request node method params >>= read) (.ok ⟨method, orEmpty params⟩) decode := by
  intro node world
  have sent : Settles (SyncRpcTransport.request node method params) world
      (reply node world.sent ⟨method, orEmpty params⟩) ⟨world.state, world.sent ++ [⟨method, orEmpty params⟩]⟩ := by
    cases params with
    | none => exact request_settles node method [] world
    | some params => exact request_settles node method params world
  exact settles_bind _ _ _ _ _ _ sent fun result => settles result _

theorem asked_checked {α : Type} (method : Str) (params : Option (List Json)) (decode : Json → Except PyError α) :
    Asks (fun node => SyncRpcTransport.request node method params >>= fun result => Direct.check (decode result))
      (.ok ⟨method, orEmpty params⟩) decode :=
  asked method params _ decode fun result world => settles_check (decode result) world

theorem asked_after_check {α β : Type} (checked : Except PyError β) (direct : β → Node → SyncMethod α)
    (request : β → Request) (decode : Json → Except PyError α)
    (asks : ∀ value, Asks (direct value) (.ok (request value)) decode) :
    Asks (fun node => Direct.check checked >>= fun value => direct value node) (checked.map request) decode := by
  intro node world
  cases checked with
  | ok value => exact asks value node world
  | error error => exact settles_raise error world

theorem chain_identifier_asks : Asks (fun node => SyncIotaClient.getChainIdentifier node)
    (.ok ⟨str "iota_getChainIdentifier", []⟩) .ok := by
  intro node world
  change Settles _ world (reply node world.sent ⟨str "iota_getChainIdentifier", []⟩ >>= pure) _
  rw [bind_pure]
  exact request_settles node (str "iota_getChainIdentifier") [] world

theorem coin_metadata_asks (coinType : Str) :
    Asks (fun node => SyncIotaClient.getCoinMetadata pydantic node coinType)
      (.ok ⟨str "iotax_getCoinMetadata", [.str coinType]⟩)
      fun result => match result with
        | .null => .ok none
        | result => (construct pydantic.coinMetadata result).map some := by
  apply asked (str "iotax_getCoinMetadata") (some [.str coinType])
  intro result world
  cases result with
  | null => exact settles_pure none world
  | _ => exact settles_check _ world

theorem object_asks (objectId : Str) (options : ShowOptions) :
    Asks (fun node => SyncIotaClient.getFullObject pydantic node objectId options) (.ok (objectRequest objectId options))
      fun result => construct pydantic.objectResponse result >>= ObjectResponse.orNotFound objectId :=
  fun node world => object_settles node _ objectId options world

theorem execute_asks (txBytes : Str) (signatures : List Str) (options : TransactionOptions) (requestType : Str) :
    Asks (fun node => SyncIotaClient.executeTransactionBlock pydantic node txBytes signatures options requestType)
      (.ok (executeRequest txBytes signatures options requestType))
      fun result => construct pydantic.transactionResponse result >>= TransactionResponse.orFailure :=
  fun node world => execute_settles pydantic node txBytes signatures options requestType world

theorem api_call_asks {α : Type} (call : ApiCall α) :
    ∃ decode, Asks (fun node => call.sync pydantic node) call.request decode := by
  cases call with
  | getRpcApiVersion => exact ⟨_, asked_checked _ none _⟩
  | getChainIdentifier => exact ⟨_, chain_identifier_asks⟩
  | getReferenceGasPrice => exact ⟨_, asked_checked _ none _⟩
  | getBalance owner coinType => exact ⟨_, asked_checked _ _ _⟩
  | getAllBalances owner => exact ⟨_, asked_checked _ _ _⟩
  | getCoins owner coinType cursor limit => exact ⟨_, asked_checked _ _ _⟩
  | getCoinMetadata coinType => exact ⟨_, coin_metadata_asks pydantic coinType⟩
  | getTotalSupply coinType => exact ⟨_, asked_checked _ _ _⟩
  | getObject objectId options => exact ⟨_, object_asks pydantic objectId options⟩
  | multiGetObjects objectIds showContent showOwner showType => exact ⟨_, asked_checked _ _ _⟩
  | getOwnedObjects owner cursor limit objectFilter options => exact ⟨_, asked_checked _ _ _⟩
  | executeTransactionBlock txBytes signatures options requestType =>
      exact ⟨_, execute_asks pydantic txBytes signatures options requestType⟩
  | signAndExecuteTransaction signTransaction txBytes showEffects showEvents showObjectChanges showBalanceChanges =>
      exact ⟨_, asked_after_check (signTransaction txBytes) _ _ _ fun signature => execute_asks pydantic _ _ _ _⟩
  | devInspectTransactionBlock sender txBytes => exact ⟨_, asked_checked _ _ _⟩
  | dryRunTransactionBlock txBytes => exact ⟨_, asked_checked _ _ _⟩
  | queryEvents query cursor limit descendingOrder =>
      exact ⟨_, asked_after_check query.queryDict _ _ _ fun queryDict => asked_checked _ _ _⟩

def ClientsSettle {α : Type} (program : AsyncMethod α) (direct : SyncMethod α) (node : Node)
    (world : World Transaction Request) (result : Except PyError α) (final : World Transaction Request) : Prop :=
  Settles direct world result final ∧ drive node (program.start world.state) world.sent = settled result final

theorem mirrored_settles {α : Type} (program : AsyncMethod α) (direct : SyncMethod α) (node : Node)
    (world final : World Transaction Request) (result : Except PyError α) (mirrors : Mirrors node program direct)
    (settles : Settles direct world result final) : ClientsSettle program direct node world result final :=
  ⟨settles, (mirrors world.state world.sent).trans settles⟩

-- A call whose arguments do not pass sends nothing; any other sends its one request,
-- and the answer or the error is all that the result depends on.
theorem calls_send_one_request {α : Type} (call : ApiCall α) : ∃ decode, ∀ node world,
    ClientsSettle (call.async pydantic) (call.sync pydantic node) node world (askedResult node world call.request decode)
      (askedWorld world call.request) := by
  obtain ⟨decode, asks⟩ := api_call_asks pydantic call
  refine ⟨decode, ?_⟩
  intro node world
  exact mirrored_settles _ _ node world _ _ (api_call_mirrors pydantic node call) (asks node world)

section

variable (filter : EventFilter) (cursor limit : Json) (descendingOrder : Bool)

def FilterSettles (request : Except PyError Request) : Prop := ∀ node world,
  ClientsSettle (IotaClient.queryEvents pydantic (.filter filter) cursor limit descendingOrder)
    (SyncIotaClient.queryEvents pydantic node (.filter filter) cursor limit descendingOrder) node world
    (askedResult node world request (construct pydantic.eventPage)) (askedWorld world request)

theorem filter_settles (query : Except PyError Json) (converted : filter.toRpcFilter = query) :
    FilterSettles pydantic filter cursor limit descendingOrder (query.map fun queryDict =>
      ⟨str "iotax_queryEvents", [queryDict, cursor, limit, .bool descendingOrder]⟩) := by
  subst converted
  intro node world
  apply mirrored_settles _ _ node world _ _ (query_events_mirrors pydantic node _ cursor limit descendingOrder)
  exact asked_after_check filter.toRpcFilter _ _ _ (fun queryDict => asked_checked _ _ _) node world

-- A filter is the one variant it asks the node for, or nothing is asked at all.
theorem event_filter_exact :
    (∃ query : EventQuery, filter = query.filter ∧ (∀ other : EventQuery, other.json = query.json → other = query) ∧
      FilterSettles pydantic filter cursor limit descendingOrder
        (.ok ⟨str "iotax_queryEvents", [query.json, cursor, limit, .bool descendingOrder]⟩)) ∨
    (filter.filters = [] ∧ FilterSettles pydantic filter cursor limit descendingOrder (.error noFieldSet)) ∨
    (2 ≤ filter.filters.length ∧ FilterSettles pydantic filter cursor limit descendingOrder
      (.error (manyFieldsSet (filter.filters.map Prod.fst)))) := by
  cases converted : filter.toRpcFilter with
  | ok json =>
      have settles := filter_settles pydantic filter cursor limit descendingOrder _ converted
      obtain ⟨query, exact_, rfl⟩ := (to_rpc_filter_iff filter json).mp converted
      exact Or.inl ⟨query, exact_, fun other => query_json_inj other query, settles⟩
  | error error =>
      have settles := filter_settles pydantic filter cursor limit descendingOrder _ converted
      rcases to_rpc_filter_error filter error converted with ⟨none_, rfl⟩ | ⟨several, rfl⟩
      · exact Or.inr (Or.inl ⟨none_, settles⟩)
      · exact Or.inr (Or.inr ⟨several, settles⟩)

end

end

-- A program over one client and one transaction. What it does next may depend on
-- all that came back so far, exceptions included.
inductive Script (α : Type) : Type 1 where
  | done (result : Except PyError α)
  | method {β : Type} (body : Builder β) (next : Except PyError β → Script α)
  | build (signer : Option Ed25519Keypair) (next : Except PyError Bytes → Script α)
  | ask {β : Type} (call : ApiCall β) (next : Except PyError β → Script α)
  | wait (digest : Str) (showEffects showEvents : Bool) (timeout pollInterval : Rat) (positive : 0 < pollInterval)
      (next : Except PyError (Option TransactionResponse) → Script α)

def pollLimit (timeout pollInterval : Rat) : Nat := ⌈timeout / pollInterval⌉₊ + 1

section

variable (pydantic : Pydantic) (node : Node)

def Script.async {α : Type} : Script α → AsyncMethod α
  | .done result => Async.check result
  | .method body next => Async.attempt (Async.method body) >>= fun result => (next result).async
  | .build signer next =>
      Async.attempt (Transaction.build pydantic.models signer) >>= fun result => (next result).async
  | .ask call next => Async.attempt (call.async pydantic) >>= fun result => (next result).async
  | .wait digest showEffects showEvents timeout pollInterval _ next =>
      Async.attempt (IotaClient.waitForTransaction pydantic digest showEffects showEvents timeout pollInterval
        (pollLimit timeout pollInterval)) >>=
        fun result => (next result).async

def Script.sync {α : Type} : Script α → SyncMethod α
  | .done result => Direct.check result
  | .method body next => Direct.attempt (Direct.method body) >>= fun result => (next result).sync
  | .build signer next =>
      Direct.attempt (Transaction.buildSync pydantic.models node signer) >>= fun result => (next result).sync
  | .ask call next => Direct.attempt (call.sync pydantic node) >>= fun result => (next result).sync
  | .wait digest showEffects showEvents timeout pollInterval _ next =>
      Direct.attempt
          (SyncIotaClient.waitForTransaction pydantic node digest showEffects showEvents timeout pollInterval
        (pollLimit timeout pollInterval)) >>=
        fun result => (next result).sync

-- The limit never cuts a wait short.
theorem wait_is_over (world : World Transaction Request) (digest : Str) (showEffects showEvents : Bool)
    (timeout pollInterval : Rat) (positive : 0 < pollInterval) :
    ∃ count ending, Settles
      (SyncIotaClient.waitForTransaction pydantic node digest showEffects showEvents timeout pollInterval
        (pollLimit timeout pollInterval))
      world (waitResult digest timeout ending) (afterPolls world digest showEffects showEvents count) := by
  obtain ⟨count, ending, ends⟩ := (ends_iff PyError.isRpcError
    (pollOutcome pydantic node world digest showEffects showEvents) timeout pollInterval positive.le).mpr
      (Or.inl positive)
  have within := ends_within _ _ timeout pollInterval positive count ending ends
  exact ⟨count, ending, loop_ends pydantic node world digest showEffects showEvents timeout pollInterval positive.le count
    ending ends _ (Nat.lt_succ_of_le within)⟩

theorem attempted_mirrors {α β : Type} (program : AsyncMethod β) (direct : SyncMethod β)
    (next : Except PyError β → Script α) (first : Mirrors node program direct)
    (second : ∀ result, Mirrors node ((next result).async pydantic) ((next result).sync pydantic node)) :
    Mirrors node (program.attempt >>= fun result => (next result).async pydantic)
      (direct.attempt >>= fun result => (next result).sync pydantic node) :=
  mirrors_bind node _ _ _ _ (mirrors_attempt node program direct first) second

theorem script_mirrors {α : Type} (script : Script α) : Mirrors node (script.async pydantic) (script.sync pydantic node) := by
  induction script with
  | done result => exact mirrors_check node result
  | method body next ih => exact attempted_mirrors pydantic node _ _ next (mirrors_method node body) ih
  | build signer next ih => exact attempted_mirrors pydantic node _ _ next (build_mirrors pydantic.models node signer) ih
  | ask call next ih => exact attempted_mirrors pydantic node _ _ next (api_call_mirrors pydantic node call) ih
  | wait digest showEffects showEvents timeout pollInterval positive next ih =>
      apply attempted_mirrors pydantic node _ _ next _ ih
      exact wait_loop_mirrors pydantic node digest _ timeout pollInterval positive.le _ 0

-- The same program over either client: the same requests in the same order, the same
-- transaction and the same result, whatever it decides on the way.
theorem same_on_both_clients {α : Type} (script : Script α) (tx : Transaction) (sent : List Request) :
    drive node ((script.async pydantic).start tx) sent = (script.sync pydantic node).run ⟨tx, sent⟩ :=
  script_mirrors pydantic node script tx sent

end

end PyIota
