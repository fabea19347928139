import PyIota.ClientTransactions
import PyIota.Events

set_option autoImplicit false

namespace PyIota

open Coroutine

structure Balance where
  coinType : Str
  coinObjectCount : Int
  totalBalance : Str

structure CoinMetadata where
  decimals : Int
  name : Str
  symbol : Str
  description : Str
  iconUrl : Option Str
  id : Option Str

structure Supply where
  value : Str

structure ObjectsPage where
  data : List FullObjectResponse
  nextCursor : Option Str
  hasNextPage : Bool

structure DevInspectResults where
  effects : TransactionEffects
  events : List Entries
  results : Option (List Entries)
  error : Option Str

section

variable (pydantic : Pydantic)

def Pydantic.balance (coinType coinObjectCount totalBalance : Json) : Option Balance := do
  let coinType ← pydantic.text coinType
  let coinObjectCount ← pydantic.integer coinObjectCount
  let totalBalance ← pydantic.text totalBalance
  return ⟨coinType, coinObjectCount, totalBalance⟩

def Pydantic.coinMetadata (entries : Entries) : Option CoinMetadata := do
  let decimals ← required entries (str "decimals") pydantic.integer
  let name ← required entries (str "name") pydantic.text
  let symbol ← required entries (str "symbol") pydantic.text
  let description ← required entries (str "description") pydantic.text
  let iconUrl ← optional entries (str "icon_url") none (orNone pydantic.text)
  let id ← optional entries (str "id") none (orNone pydantic.text)
  return ⟨decimals, name, symbol, description, iconUrl, id⟩

def Pydantic.supply (value : Json) : Option Supply := (pydantic.text value).map Supply.mk

def Pydantic.objectsPage (data : List FullObjectResponse) (nextCursor hasNextPage : Json) : Option ObjectsPage := do
  let nextCursor ← orNone pydantic.text nextCursor
  let hasNextPage ← pydantic.truth hasNextPage
  return ⟨data, nextCursor, hasNextPage⟩

def Pydantic.devInspectResults (entries : Entries) : Option DevInspectResults := do
  let effects ← required entries (str "effects") (nested pydantic.transactionEffects)
  let events ← required entries (str "events") (listOf pydantic.object)
  let results ← optional entries (str "results") none (orNone (listOf pydantic.object))
  let error ← optional entries (str "error") none (orNone pydantic.text)
  return ⟨effects, events, results, error⟩

def balanceItem (item : Json) : Except PyError Balance := do
  let coinType ← item.getItem (str "coinType")
  let coinObjectCount ← item.getItem (str "coinObjectCount")
  let totalBalance ← item.getItem (str "totalBalance")
  orRefuse (pydantic.balance coinType coinObjectCount totalBalance)

def supplyResult (result : Json) : Except PyError Supply := do
  orRefuse (pydantic.supply (← result.getItem (str "value")))

-- The loop over the items: a response without data adds nothing.
def foundObjects (items : List Json) : Except PyError (List FullObjectData) :=
  match items with
  | [] => .ok []
  | item :: rest => do
      let resp ← construct pydantic.objectResponse item
      let objects ← foundObjects rest
      return resp.data.toList ++ objects

structure OwnedOptions where
  showContent : Bool := false
  showType : Bool := false
  showOwner : Bool := false

def multiOptions (showContent showOwner showType : Bool) : Json := .dict [
  (str "showContent", .bool showContent), (str "showOwner", .bool showOwner), (str "showType", .bool showType)]

-- {"filter": object_filter} unless it is None, then {"options": options}.
def ownedQuery (objectFilter : Option Entries) (show_ : OwnedOptions) : Json :=
  let options : Json := .dict [(str "showContent", .bool show_.showContent), (str "showType", .bool show_.showType),
    (str "showOwner", .bool show_.showOwner)]
  .dict ((objectFilter.map fun entries => (str "filter", .dict entries)).toList ++ [(str "options", options)])

inductive EventSelector where
  | raw (entries : Entries)
  | filter (filter : EventFilter)

def EventSelector.queryDict : EventSelector → Except PyError Json
  | .raw entries => .ok (.dict entries)
  | .filter query => query.toRpcFilter

def IotaClient.getRpcApiVersion : AsyncMethod Json := do
  let result ← AsyncRpcTransport.request (str "rpc.discover") none
  Async.check do (← result.get (str "info") (.dict [])).get (str "version") (.str (str "unknown"))

def IotaClient.getChainIdentifier : AsyncMethod Json :=
  AsyncRpcTransport.request (str "iota_getChainIdentifier") none

def IotaClient.getBalance (owner coinType : Str) : AsyncMethod Balance := do
  let result ← AsyncRpcTransport.request (str "iotax_getBalance") (some [.str owner, .str coinType])
  Async.check (balanceItem pydantic result)

def IotaClient.getAllBalances (owner : Str) : AsyncMethod (List Balance) := do
  let result ← AsyncRpcTransport.request (str "iotax_getAllBalances") (some [.str owner])
  Async.check do (← result.iterate).mapM (balanceItem pydantic)

def IotaClient.getCoinMetadata (coinType : Str) : AsyncMethod (Option CoinMetadata) := do
  let result ← AsyncRpcTransport.request (str "iotax_getCoinMetadata") (some [.str coinType])
  match result with
  | .null => return none
  | result => Async.check ((construct pydantic.coinMetadata result).map some)

def IotaClient.getTotalSupply (coinType : Str) : AsyncMethod Supply := do
  let result ← AsyncRpcTransport.request (str "iotax_getTotalSupply") (some [.str coinType])
  Async.check (supplyResult pydantic result)

def IotaClient.multiGetObjects (objectIds : List Str) (showContent showOwner showType : Bool) :
    AsyncMethod (List FullObjectData) := do
  let result ← AsyncRpcTransport.request (str "iota_multiGetObjects")
    (some [.list (objectIds.map .str), multiOptions showContent showOwner showType])
  Async.check do foundObjects pydantic (← result.iterate)

def IotaClient.getOwnedObjects (owner : Str) (cursor limit : Json) (objectFilter : Option Entries)
    (show_ : OwnedOptions) : AsyncMethod ObjectsPage := do
  let result ← AsyncRpcTransport.request (str "iotax_getOwnedObjects")
    (some [.str owner, ownedQuery objectFilter show_, cursor, limit])
  Async.check do
    let data ← (← (← result.getItem (str "data")).iterate).mapM (construct pydantic.objectResponse)
    let nextCursor ← result.get (str "nextCursor") .null
    let hasNextPage ← result.getItem (str "hasNextPage")
    orRefuse (pydantic.objectsPage data nextCursor hasNextPage)

def IotaClient.devInspectTransactionBlock (sender txBytes : Str) : AsyncMethod DevInspectResults := do
  let result ← AsyncRpcTransport.request (str "iota_devInspectTransactionBlock") (some [.str sender, .str txBytes])
  Async.check (construct pydantic.devInspectResults result)

def IotaClient.queryEvents (query : EventSelector) (cursor limit : Json) (descendingOrder : Bool) :
    AsyncMethod EventPage := do
  let queryDict ← Async.check query.queryDict
  let result ← AsyncRpcTransport.request (str "iotax_queryEvents")
    (some [queryDict, cursor, limit, .bool descendingOrder])
  Async.check (construct pydantic.eventPage result)

variable (node : Node)

def SyncIotaClient.getRpcApiVersion : SyncMethod Json := do
  let result ← SyncRpcTransport.request node (str "rpc.discover") none
  Direct.check do (← result.get (str "info") (.dict [])).get (str "version") (.str (str "unknown"))

def SyncIotaClient.getChainIdentifier : SyncMethod Json :=
  SyncRpcTransport.request node (str "iota_getChainIdentifier") none

def SyncIotaClient.getBalance (owner coinType : Str) : SyncMethod Balance := do
  let result ← SyncRpcTransport.request node (str "iotax_getBalance") (some [.str owner, .str coinType])
  Direct.check (balanceItem pydantic result)

def SyncIotaClient.getAllBalances (owner : Str) : SyncMethod (List Balance) := do
  let result ← SyncRpcTransport.request node (str "iotax_getAllBalances") (some [.str owner])
  Direct.check do (← result.iterate).mapM (balanceItem pydantic)

def SyncIotaClient.getCoinMetadata (coinType : Str) : SyncMethod (Option CoinMetadata) := do
  let result ← SyncRpcTransport.request node (str "iotax_getCoinMetadata") (some [.str coinType])
  match result with
  | .null => return none
  | result => Direct.check ((construct pydantic.coinMetadata result).map some)

def SyncIotaClient.getTotalSupply (coinType : Str) : SyncMethod Supply := do
  let result ← SyncRpcTransport.request node (str "iotax_getTotalSupply") (some [.str coinType])
  Direct.check (supplyResult pydantic result)

def SyncIotaClient.multiGetObjects (objectIds : List Str) (showContent showOwner showType : Bool) :
    SyncMethod (List FullObjectData) := do
  let result ← SyncRpcTransport.request node (str "iota_multiGetObjects")
    (some [.list (objectIds.map .str), multiOptions showContent showOwner showType])
  Direct.check do foundObjects pydantic (← result.iterate)

def SyncIotaClient.getOwnedObjects (owner : Str) (cursor limit : Json) (objectFilter : Option Entries)
    (show_ : OwnedOptions) : SyncMethod ObjectsPage := do
  let result ← SyncRpcTransport.request node (str "iotax_getOwnedObjects")
    (some [.str owner, ownedQuery objectFilter show_, cursor, limit])
  Direct.check do
    let data ← (← (← result.getItem (str "data")).iterate).mapM (construct pydantic.objectResponse)
    let nextCursor ← result.get (str "nextCursor") .null
    let hasNextPage ← result.getItem (str "hasNextPage")
    orRefuse (pydantic.objectsPage data nextCursor hasNextPage)

def SyncIotaClient.devInspectTransactionBlock (sender txBytes : Str) : SyncMethod DevInspectResults := do
  let result ← SyncRpcTransport.request node (str "iota_devInspectTransactionBlock") (some [.str sender, .str txBytes])
  Direct.check (construct pydantic.devInspectResults result)

def SyncIotaClient.queryEvents (query : EventSelector) (cursor limit : Json) (descendingOrder : Bool) :
    SyncMethod EventPage := do
  let queryDict ← Direct.check query.queryDict
  let result ← SyncRpcTransport.request node (str "iotax_queryEvents")
    (some [queryDict, cursor, limit, .bool descendingOrder])
  Direct.check (construct pydantic.eventPage result)

end

end PyIota
