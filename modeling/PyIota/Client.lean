import PyIota.PyJson
import PyIota.Transaction
import PyIota.Library.Coroutine

set_option autoImplicit false

namespace PyIota

open Coroutine

-- What the caller chose of a request; its id comes from a process-wide counter.
structure Request where
  method : Str
  params : List Json

abbrev Answer := Except PyError Json

-- The node may answer from everything it has been sent, the last request included.
abbrev Node := List Request → Answer

abbrev AsyncMethod (α : Type) := Async Transaction PyError Request Answer α
abbrev SyncMethod (α : Type) := Direct Transaction PyError Request α

def extractResult (responseJson : Json) : Except PyError Json := do
  if ← responseJson.contains (str "error") then
    let err ← responseJson.getItem (str "error")
    let code ← err.get (str "code") (.int (-1))
    let message ← err.get (str "message") (.str (str "Unknown RPC error"))
    let data ← err.get (str "data") .null
    throw (.rpcError code message data)
  else responseJson.get (str "result") .null

def orEmpty (params : Option (List Json)) : List Json := params.getD []

def AsyncRpcTransport.request (method : Str) (params : Option (List Json)) : AsyncMethod Json := do
  let response ← Async.await ⟨method, orEmpty params⟩
  let responseJson ← Async.check response
  Async.check (extractResult responseJson)

def SyncRpcTransport.request (node : Node) (method : Str) (params : Option (List Json)) : SyncMethod Json := do
  let response ← Direct.send node ⟨method, orEmpty params⟩
  let responseJson ← Direct.check response
  Direct.check (extractResult responseJson)

structure CoinData where
  coinType : Str
  coinObjectId : Str
  version : Int
  digest : Str
  balance : Str

structure CoinPage where
  data : List CoinData
  nextCursor : Option Str
  hasNextPage : Bool

structure ObjectData where
  objectId : Str
  version : Int
  digest : Str

structure ObjectResponse (δ ε : Type) where
  data : Option δ
  error : Option ε

-- if response.error is not None or response.data is None: raise
def ObjectResponse.orNotFound {δ ε : Type} (objectId : Str) (response : ObjectResponse δ ε) : Except PyError δ :=
  match response.error, response.data with
  | none, some data => .ok data
  | _, _ => .error (.objectNotFoundError objectId)

-- The pydantic models, each built from its keyword arguments or refusing them.
structure Models where
  coinData : (coinType coinObjectId : Json) → (version : Int) → (digest balance : Json) → Except PyError CoinData
  coinPage : (data : List CoinData) → (nextCursor hasNextPage : Json) → Except PyError CoinPage
  objectResponse : List (Str × Json) → Except PyError (ObjectResponse ObjectData Json)

def iotaCoinType : Str := str "0x2::iota::IOTA"

def Json.unpack : Json → Except PyError (List (Str × Json))
  | .dict entries => .ok entries
  | _ => .error (.builtin .typeError)

def coinItem (models : Models) (c : Json) : Except PyError CoinData := do
  let coinType ← c.getItem (str "coinType")
  let coinObjectId ← c.getItem (str "coinObjectId")
  let version ← (← c.getItem (str "version")).toInt
  let digest ← c.getItem (str "digest")
  let balance ← c.getItem (str "balance")
  models.coinData coinType coinObjectId version digest balance

def coinPageResult (models : Models) (result : Json) : Except PyError CoinPage := do
  let data ← (← (← result.getItem (str "data")).iterate).mapM (coinItem models)
  let nextCursor ← result.get (str "nextCursor") .null
  let hasNextPage ← result.getItem (str "hasNextPage")
  models.coinPage data nextCursor hasNextPage

def IotaClient.getReferenceGasPrice : AsyncMethod Int := do
  let result ← AsyncRpcTransport.request (str "iotax_getReferenceGasPrice") none
  Async.check result.toInt

def IotaClient.getCoins (models : Models) (owner coinType : Str) (cursor limit : Json) : AsyncMethod CoinPage := do
  let params : List Json := [.str owner, .str coinType, cursor, limit]
  let result ← AsyncRpcTransport.request (str "iotax_getCoins") (some params)
  Async.check (coinPageResult models result)

structure ShowOptions where
  showContent : Bool := false
  showBcs : Bool := false
  showOwner : Bool := false
  showType : Bool := false
  showPreviousTransaction : Bool := false
  showStorageRebate : Bool := false
  showDisplay : Bool := false

def ShowOptions.json (show_ : ShowOptions) : Json := .dict [
  (str "showContent", .bool show_.showContent),
  (str "showBcs", .bool show_.showBcs),
  (str "showOwner", .bool show_.showOwner),
  (str "showType", .bool show_.showType),
  (str "showPreviousTransaction", .bool show_.showPreviousTransaction),
  (str "showStorageRebate", .bool show_.showStorageRebate),
  (str "showDisplay", .bool show_.showDisplay)]

-- get_object(), with the model its response is read by.
def IotaClient.getObjectAs {δ ε : Type} (objectResponse : List (Str × Json) → Except PyError (ObjectResponse δ ε))
    (objectId : Str) (show_ : ShowOptions) : AsyncMethod δ := do
  let result ← AsyncRpcTransport.request (str "iota_getObject") (some [.str objectId, show_.json])
  let response ← Async.check do objectResponse (← result.unpack)
  Async.check (response.orNotFound objectId)

def IotaClient.getObject (models : Models) : Str → ShowOptions → AsyncMethod ObjectData :=
  IotaClient.getObjectAs models.objectResponse

def SyncIotaClient.getReferenceGasPrice (node : Node) : SyncMethod Int := do
  Direct.check (← SyncRpcTransport.request node (str "iotax_getReferenceGasPrice") none).toInt

def SyncIotaClient.getCoins (models : Models) (node : Node) (owner coinType : Str) (cursor limit : Json) :
    SyncMethod CoinPage := do
  let result ← SyncRpcTransport.request node (str "iotax_getCoins") (some [.str owner, .str coinType, cursor, limit])
  Direct.check (coinPageResult models result)

def SyncIotaClient.getObjectAs {δ ε : Type} (objectResponse : List (Str × Json) → Except PyError (ObjectResponse δ ε))
    (node : Node) (objectId : Str) (show_ : ShowOptions) : SyncMethod δ := do
  let result ← SyncRpcTransport.request node (str "iota_getObject") (some [.str objectId, show_.json])
  let response ← Direct.check do objectResponse (← result.unpack)
  Direct.check (response.orNotFound objectId)

def SyncIotaClient.getObject (models : Models) : Node → Str → ShowOptions → SyncMethod ObjectData :=
  SyncIotaClient.getObjectAs models.objectResponse

section

variable (models : Models) (node : Node)

theorem request_mirrors (method : Str) (params : Option (List Json)) :
    Mirrors node (AsyncRpcTransport.request method params) (SyncRpcTransport.request node method params) := by
  apply mirrors_bind node _ _ _ _ (mirrors_await node _)
  intro response
  apply mirrors_bind node _ _ _ _ (mirrors_check node response)
  intro responseJson
  exact mirrors_check node (extractResult responseJson)

theorem reference_gas_price_mirrors :
    Mirrors node IotaClient.getReferenceGasPrice (SyncIotaClient.getReferenceGasPrice node) := by
  apply mirrors_bind node _ _ _ _ (request_mirrors node _ _)
  intro result
  exact mirrors_check node result.toInt

theorem coins_mirrors (owner coinType : Str) (cursor limit : Json) :
    Mirrors node (IotaClient.getCoins models owner coinType cursor limit)
      (SyncIotaClient.getCoins models node owner coinType cursor limit) := by
  apply mirrors_bind node _ _ _ _ (request_mirrors node _ _)
  intro result
  exact mirrors_check node _

theorem object_mirrors {δ ε : Type} (objectResponse : List (Str × Json) → Except PyError (ObjectResponse δ ε))
    (objectId : Str) (show_ : ShowOptions) :
    Mirrors node (IotaClient.getObjectAs objectResponse objectId show_)
      (SyncIotaClient.getObjectAs objectResponse node objectId show_) := by
  apply mirrors_bind node _ _ _ _ (request_mirrors node _ _)
  intro result
  apply mirrors_bind node _ _ _ _ (mirrors_check node _)
  intro response
  exact mirrors_check node (response.orNotFound objectId)

theorem request_keeps_state (method : Str) (params : Option (List Json)) :
    KeepsState (SyncRpcTransport.request node method params) := by
  apply keeps_state_bind _ _ (keeps_state_send node _)
  intro response
  apply keeps_state_bind _ _ (keeps_state_check response)
  intro responseJson
  exact keeps_state_check (extractResult responseJson)

theorem reference_gas_price_keeps_state : KeepsState (SyncIotaClient.getReferenceGasPrice node) := by
  apply keeps_state_bind _ _ (request_keeps_state node _ _)
  intro result
  exact keeps_state_check result.toInt

theorem coins_keeps_state (owner coinType : Str) (cursor limit : Json) :
    KeepsState (SyncIotaClient.getCoins models node owner coinType cursor limit) := by
  apply keeps_state_bind _ _ (request_keeps_state node _ _)
  intro result
  exact keeps_state_check _

theorem object_keeps_state (objectId : Str) (show_ : ShowOptions) :
    KeepsState (SyncIotaClient.getObject models node objectId show_) := by
  apply keeps_state_bind _ _ (request_keeps_state node _ _)
  intro result
  apply keeps_state_bind _ _ (keeps_state_check _)
  intro response
  exact keeps_state_check (response.orNotFound objectId)

end

end PyIota
