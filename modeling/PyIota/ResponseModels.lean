import PyIota.Client

set_option autoImplicit false

namespace PyIota

abbrev Entries := List (Str × Json)

structure ObjectOwner where
  addressOwner : Option Str
  objectOwner : Option Str
  shared : Option Entries
  immutable : Option Bool

inductive Owner where
  | model (owner : ObjectOwner)
  | object (entries : Entries)

-- What pydantic makes of a JSON value under each annotation, or its refusal.
structure Pydantic where
  text : Json → Option Str
  integer : Json → Option Int
  truth : Json → Option Bool
  object : Json → Option Entries
  owner : Json → Option Owner

section

variable {α β : Type}

def orNone (validate : Json → Option α) (value : Json) : Option (Option α) :=
  match value with
  | .null => some none
  | value => (validate value).map some

def listOf (validate : Json → Option α) (value : Json) : Option (List α) :=
  match value with
  | .list items => items.mapM validate
  | _ => none

def nested (model : Entries → Option α) (value : Json) : Option α :=
  match value with
  | .dict entries => model entries
  | _ => none

def required (entries : Entries) (name : Str) (validate : Json → Option α) : Option α :=
  (entries.lookup name).bind validate

def optional (entries : Entries) (name : Str) (default : α) (validate : Json → Option α) : Option α :=
  (entries.lookup name).elim (some default) validate

-- populate_by_name: the key that is the alias, and without it the name.
def aliased (entries : Entries) (alias_ name : Str) : Option Json := (entries.lookup alias_).or (entries.lookup name)

def orRefuse (made : Option α) : Except PyError α := made.elim (.error .validationError) .ok

def construct (model : Entries → Option α) (result : Json) : Except PyError α := do
  let entries ← result.unpack
  orRefuse (model entries)

end

structure TransactionEffects where
  status : Entries
  gasUsed : Option Entries
  created : Option (List Entries)
  mutated : Option (List Entries)
  deleted : Option (List Entries)
  eventsDigest : Option Str
  transactionDigest : Option Str

structure TransactionResponse where
  digest : Str
  effects : Option TransactionEffects
  events : Option (List Entries)
  objectChanges : Option (List Entries)
  balanceChanges : Option (List Entries)
  timestampMs : Option Str
  errors : Option (List Str)
  rawTransaction : Option Str

structure DryRunTransactionResponse where
  effects : TransactionEffects
  events : List Entries
  objectChanges : List Entries
  balanceChanges : List Entries
  input : Option Entries

structure ObjectContent where
  dataType : Str
  type : Option Str
  hasPublicTransfer : Option Bool
  fields : Option Entries
  bcsBytes : Option Str

-- All of ObjectData, of which building a transaction reads the first three fields.
structure FullObjectData extends ObjectData where
  type : Option Str
  owner : Option Owner
  content : Option ObjectContent
  bcs : Option Entries
  previousTransaction : Option Str
  storageRebate : Option Int
  display : Option Entries

abbrev FullObjectResponse := ObjectResponse FullObjectData Entries

section

variable (pydantic : Pydantic) (entries : Entries)

def Pydantic.transactionEffects : Option TransactionEffects := do
  let status ← required entries (str "status") pydantic.object
  let gasUsed ← optional entries (str "gas_used") none (orNone pydantic.object)
  let created ← optional entries (str "created") none (orNone (listOf pydantic.object))
  let mutated ← optional entries (str "mutated") none (orNone (listOf pydantic.object))
  let deleted ← optional entries (str "deleted") none (orNone (listOf pydantic.object))
  let eventsDigest ← optional entries (str "events_digest") none (orNone pydantic.text)
  let transactionDigest ← optional entries (str "transaction_digest") none (orNone pydantic.text)
  return ⟨status, gasUsed, created, mutated, deleted, eventsDigest, transactionDigest⟩

def Pydantic.transactionResponse : Option TransactionResponse := do
  let digest ← required entries (str "digest") pydantic.text
  let effects ← optional entries (str "effects") none (orNone (nested pydantic.transactionEffects))
  let events ← optional entries (str "events") none (orNone (listOf pydantic.object))
  let objectChanges ← optional entries (str "object_changes") none (orNone (listOf pydantic.object))
  let balanceChanges ← optional entries (str "balance_changes") none (orNone (listOf pydantic.object))
  let timestampMs ← optional entries (str "timestamp_ms") none (orNone pydantic.text)
  let errors ← optional entries (str "errors") none (orNone (listOf pydantic.text))
  let rawTransaction ← optional entries (str "raw_transaction") none (orNone pydantic.text)
  return ⟨digest, effects, events, objectChanges, balanceChanges, timestampMs, errors, rawTransaction⟩

def Pydantic.dryRunTransactionResponse : Option DryRunTransactionResponse := do
  let effects ← required entries (str "effects") (nested pydantic.transactionEffects)
  let events ← required entries (str "events") (listOf pydantic.object)
  let objectChanges ← required entries (str "object_changes") (listOf pydantic.object)
  let balanceChanges ← required entries (str "balance_changes") (listOf pydantic.object)
  let input ← optional entries (str "input") none (orNone pydantic.object)
  return ⟨effects, events, objectChanges, balanceChanges, input⟩

def Pydantic.objectContent : Option ObjectContent := do
  let dataType ← required entries (str "data_type") pydantic.text
  let type ← optional entries (str "type") none (orNone pydantic.text)
  let hasPublicTransfer ← optional entries (str "has_public_transfer") none (orNone pydantic.truth)
  let fields ← optional entries (str "fields") none (orNone pydantic.object)
  let bcsBytes ← optional entries (str "bcs_bytes") none (orNone pydantic.text)
  return ⟨dataType, type, hasPublicTransfer, fields, bcsBytes⟩

def Pydantic.objectData : Option FullObjectData := do
  let objectId ← (aliased entries (str "objectId") (str "object_id")).bind pydantic.text
  let version ← optional entries (str "version") 0 pydantic.integer
  let digest ← optional entries (str "digest") [] pydantic.text
  let type ← optional entries (str "type") none (orNone pydantic.text)
  let owner ← optional entries (str "owner") none (orNone pydantic.owner)
  let content ← optional entries (str "content") none (orNone (nested pydantic.objectContent))
  let bcs ← optional entries (str "bcs") none (orNone pydantic.object)
  let previousTransaction ← (aliased entries (str "previousTransaction") (str "previous_transaction")).elim
    (some none) (orNone pydantic.text)
  let storageRebate ← (aliased entries (str "storageRebate") (str "storage_rebate")).elim
    (some none) (orNone pydantic.integer)
  let display ← optional entries (str "display") none (orNone pydantic.object)
  return ⟨⟨objectId, version, digest⟩, type, owner, content, bcs, previousTransaction, storageRebate, display⟩

def Pydantic.objectResponse : Option FullObjectResponse := do
  let data ← optional entries (str "data") none (orNone (nested pydantic.objectData))
  let error ← optional entries (str "error") none (orNone pydantic.object)
  return ⟨data, error⟩

end

def Json.text? : Json → Option Str
  | .str s => some s
  | _ => none

def TransactionEffects.isSuccess (effects : TransactionEffects) : Prop :=
  ((effects.status.lookup (str "status")).bind Json.text?) = some (str "success")

instance (effects : TransactionEffects) : Decidable effects.isSuccess := inferInstanceAs (Decidable (_ = _))

-- What is read is None when the transaction succeeded or says nothing.
def TransactionEffects.errorMessage (effects : TransactionEffects) : Json :=
  if effects.isSuccess then .null else (effects.status.lookup (str "error")).getD .null

def Pydantic.coinData (pydantic : Pydantic) (coinType coinObjectId : Json) (version : Int) (digest balance : Json) :
    Option CoinData := do
  let coinType ← pydantic.text coinType
  let coinObjectId ← pydantic.text coinObjectId
  let version ← pydantic.integer (.int version)
  let digest ← pydantic.text digest
  let balance ← pydantic.text balance
  return ⟨coinType, coinObjectId, version, digest, balance⟩

def Pydantic.coinPage (pydantic : Pydantic) (data : List CoinData) (nextCursor hasNextPage : Json) :
    Option CoinPage := do
  let nextCursor ← orNone pydantic.text nextCursor
  let hasNextPage ← pydantic.truth hasNextPage
  return ⟨data, nextCursor, hasNextPage⟩

def FullObjectResponse.toObjectResponse (response : FullObjectResponse) : ObjectResponse ObjectData Json :=
  ⟨response.data.map FullObjectData.toObjectData, response.error.map .dict⟩

def Pydantic.models (pydantic : Pydantic) : Models where
  coinData coinType coinObjectId version digest balance :=
    orRefuse (pydantic.coinData coinType coinObjectId version digest balance)
  coinPage data nextCursor hasNextPage := orRefuse (pydantic.coinPage data nextCursor hasNextPage)
  objectResponse entries := orRefuse ((pydantic.objectResponse entries).map FullObjectResponse.toObjectResponse)

-- Every annotation takes the values of its own type and no others.
def strictPydantic : Pydantic where
  text
    | .str s => some s
    | _ => none
  integer
    | .int value => some value
    | _ => none
  truth
    | .bool value => some value
    | _ => none
  object
    | .dict entries => some entries
    | _ => none
  owner
    | .dict entries => some (.object entries)
    | _ => none

end PyIota
