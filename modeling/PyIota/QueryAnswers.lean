import PyIota.ClientDecoding
import PyIota.ClientScripts

set_option autoImplicit false

namespace PyIota

open Coroutine

section

variable {α : Type}

def IsNumber (value : Json) (number : Int) : Prop := value = .int number

def IsInteger (value : Json) (number : Int) : Prop := value.toInt = .ok number

def Tells (entries : Entries) (key : Str) (holds : Json → α → Prop) (field : α) : Prop :=
  ∃ value, entries.lookup key = some value ∧ holds value field

-- Left out and null say that there is nothing.
def MayTell (entries : Entries) (key : Str) (holds : Json → α → Prop) (field : Option α) : Prop :=
  (entries.lookup key).elim (field = none) fun value => IsOptional holds value field

def Accepts (validate : Json → Option α) (holds : Json → α → Prop) : Prop :=
  ∀ value field, holds value field → validate value = some field

end

structure TellsBalance (entries : Entries) (balance : Balance) : Prop where
  coinType : Tells entries (str "coinType") IsText balance.coinType
  coinObjectCount : Tells entries (str "coinObjectCount") IsNumber balance.coinObjectCount
  totalBalance : Tells entries (str "totalBalance") IsText balance.totalBalance

structure TellsCoin (entries : Entries) (coin : CoinData) : Prop where
  coinType : Tells entries (str "coinType") IsText coin.coinType
  coinObjectId : Tells entries (str "coinObjectId") IsText coin.coinObjectId
  version : Tells entries (str "version") IsInteger coin.version
  digest : Tells entries (str "digest") IsText coin.digest
  balance : Tells entries (str "balance") IsText coin.balance

structure TellsCoinPage (entries : Entries) (page : CoinPage) : Prop where
  data : Tells entries (str "data") (IsList (IsNested TellsCoin)) page.data
  nextCursor : MayTell entries (str "nextCursor") IsText page.nextCursor
  hasNextPage : Tells entries (str "hasNextPage") IsTruth page.hasNextPage

def TellsSupply (entries : Entries) (supply : Supply) : Prop := Tells entries (str "value") IsText supply.value

structure TellsCoinMetadata (entries : Entries) (metadata : CoinMetadata) : Prop where
  camelCase : CamelCase entries
  decimals : Tells entries (str "decimals") IsNumber metadata.decimals
  name : Tells entries (str "name") IsText metadata.name
  symbol : Tells entries (str "symbol") IsText metadata.symbol
  description : Tells entries (str "description") IsText metadata.description
  iconUrl : MayTell entries (str "iconUrl") IsText metadata.iconUrl
  id : MayTell entries (str "id") IsText metadata.id

structure TellsEvent (entries : Entries) (event : Event) : Prop where
  camelCase : CamelCase entries
  id : Tells entries (str "id") IsObject event.id
  packageId : Tells entries (str "packageId") IsText event.packageId
  transactionModule : Tells entries (str "transactionModule") IsText event.transactionModule
  sender : Tells entries (str "sender") IsText event.sender
  type : Tells entries (str "type") IsText event.type
  parsedJson : MayTell entries (str "parsedJson") IsObject event.parsedJson
  bcs : MayTell entries (str "bcs") IsText event.bcs
  timestampMs : MayTell entries (str "timestampMs") IsText event.timestampMs

structure TellsEventPage (entries : Entries) (page : EventPage) : Prop where
  camelCase : CamelCase entries
  data : Tells entries (str "data") (IsList (IsNested TellsEvent)) page.data
  nextCursor : MayTell entries (str "nextCursor") IsObject page.nextCursor
  hasNextPage : Tells entries (str "hasNextPage") IsTruth page.hasNextPage

structure TellsEffects (entries : Entries) (effects : TransactionEffects) : Prop where
  camelCase : CamelCase entries
  status : Tells entries (str "status") IsObject effects.status
  gasUsed : MayTell entries (str "gasUsed") IsObject effects.gasUsed
  created : MayTell entries (str "created") (IsList IsObject) effects.created
  mutated : MayTell entries (str "mutated") (IsList IsObject) effects.mutated
  deleted : MayTell entries (str "deleted") (IsList IsObject) effects.deleted
  eventsDigest : MayTell entries (str "eventsDigest") IsText effects.eventsDigest
  transactionDigest : MayTell entries (str "transactionDigest") IsText effects.transactionDigest

structure TellsInspection (entries : Entries) (inspected : DevInspectResults) : Prop where
  camelCase : CamelCase entries
  effects : Tells entries (str "effects") (IsNested TellsEffects) inspected.effects
  events : Tells entries (str "events") (IsList IsObject) inspected.events
  results : MayTell entries (str "results") (IsList IsObject) inspected.results
  error : MayTell entries (str "error") IsText inspected.error

-- A value of the annotated type is accepted as it is.
structure Pydantic.Plain (pydantic : Pydantic) : Prop where
  text : Accepts pydantic.text IsText
  integer : Accepts pydantic.integer IsNumber
  truth : Accepts pydantic.truth IsTruth
  object : Accepts pydantic.object IsObject

section

variable {α β : Type} {validate : Json → Option α} {holds : Json → α → Prop} {entries : Entries}

theorem accepts_or_none (accepts : Accepts validate holds) (notNull : ∀ field, ¬ holds .null field) :
    Accepts (orNone validate) (IsOptional holds) := by
  intro value field told
  cases field with
  | none =>
      rw [show value = .null from told]
      rfl
  | some item =>
      cases value with
      | null => exact absurd told (notNull item)
      | _ => exact congrArg (Option.map some) (accepts _ item told)

theorem accepts_list_of (accepts : Accepts validate holds) : Accepts (listOf validate) (IsList holds) := by
  intro value items told
  obtain ⟨values, rfl, each⟩ := told
  change values.mapM validate = some items
  induction each with
  | nil => rfl
  | cons first rest ih =>
      rw [List.mapM_cons, accepts _ _ first, ih]
      rfl

theorem accepts_nested {model : Entries → Option α} {tells : Entries → α → Prop}
    (made : ∀ entries record, tells entries record → model entries = some record) :
    Accepts (nested model) (IsNested tells) := by
  intro value record stated
  obtain ⟨entries, rfl, stated⟩ := stated
  exact made entries record stated

theorem required_told (accepts : Accepts validate holds) (key : Str) (field : α) (told : Tells entries key holds field) :
    required entries key validate = some field := by
  obtain ⟨value, present, stated⟩ := told
  rw [required, present]
  exact accepts value field stated

theorem optional_told (accepts : Accepts (orNone validate) (IsOptional holds)) (key : Str) (field : Option α)
    (told : MayTell entries key holds field) : optional entries key none (orNone validate) = some field := by
  unfold MayTell at told
  unfold optional
  cases present : entries.lookup key with
  | none =>
      rw [present] at told
      exact congrArg some told.symm
  | some value =>
      rw [present] at told
      exact accepts value field told

theorem aliased_told (camelCase : CamelCase entries) (alias_ name : Str) (snake : cp '_' ∈ name)
    (accepts : Accepts validate holds) (field : α) (told : Tells entries alias_ holds field) :
    (aliased entries alias_ name).bind validate = some field := by
  rw [aliased_eq camelCase alias_ name snake]
  exact required_told accepts alias_ field told

theorem aliased_optional_told (camelCase : CamelCase entries) (alias_ name : Str) (snake : cp '_' ∈ name)
    (accepts : Accepts (orNone validate) (IsOptional holds)) (field : Option α)
    (told : MayTell entries alias_ holds field) :
    (aliased entries alias_ name).elim (some none) (orNone validate) = some field := by
  rw [aliased_eq camelCase alias_ name snake]
  exact optional_told accepts alias_ field told

theorem item_told (key : Str) (field : α) (told : Tells entries key holds field) :
    ∃ value, (Json.dict entries).getItem key = .ok value ∧ holds value field := by
  obtain ⟨value, present, stated⟩ := told
  refine ⟨value, ?_, stated⟩
  rw [Json.getItem, present]

theorem get_told (accepts : Accepts (orNone validate) (IsOptional holds)) (key : Str) (field : Option α)
    (told : MayTell entries key holds field) :
    ∃ value, (Json.dict entries).get key .null = .ok value ∧ orNone validate value = some field := by
  unfold MayTell at told
  cases present : entries.lookup key with
  | none =>
      rw [present] at told
      refine ⟨.null, ?_, congrArg some told.symm⟩
      rw [Json.get, present]
      rfl
  | some value =>
      rw [present] at told
      refine ⟨value, ?_, accepts value field told⟩
      rw [Json.get, present]
      rfl

end

theorem text_not_null (text : Str) : ¬ IsText .null text := by
  intro told
  cases told

theorem object_not_null (entries : Entries) : ¬ IsObject .null entries := by
  intro told
  cases told

theorem list_not_null {α : Type} (holds : Json → α → Prop) (items : List α) : ¬ IsList holds .null items := by
  intro told
  obtain ⟨values, same, _⟩ := told
  cases same

section

variable (pydantic : Pydantic)

theorem balance_told (plain : pydantic.Plain) (entries : Entries) (balance : Balance)
    (told : TellsBalance entries balance) : balanceItem pydantic (.dict entries) = .ok balance := by
  obtain ⟨coinType, coinTypeAt, coinTypeTold⟩ := item_told _ _ told.coinType
  obtain ⟨count, countAt, countTold⟩ := item_told _ _ told.coinObjectCount
  obtain ⟨total, totalAt, totalTold⟩ := item_told _ _ told.totalBalance
  have made : pydantic.balance coinType count total = some balance := by
    rw [Pydantic.balance, plain.text _ _ coinTypeTold, plain.integer _ _ countTold, plain.text _ _ totalTold]
    rfl
  rw [balanceItem, coinTypeAt, countAt, totalAt]
  exact congrArg orRefuse made

-- Without what is only looked for under another name.
def CoinMetadata.received (metadata : CoinMetadata) : CoinMetadata := { metadata with iconUrl := none }

theorem metadata_told (plain : pydantic.Plain) (entries : Entries) (metadata : CoinMetadata)
    (told : TellsCoinMetadata entries metadata) : pydantic.coinMetadata entries = some metadata.received := by
  have optionalText := accepts_or_none plain.text text_not_null
  rw [Pydantic.coinMetadata, required_told plain.integer _ _ told.decimals, required_told plain.text _ _ told.name,
    required_told plain.text _ _ told.symbol, required_told plain.text _ _ told.description,
    renamed_total told.camelCase _ (by decide), optional_told optionalText _ _ told.id]
  rfl

theorem event_told (plain : pydantic.Plain) (entries : Entries) (event : Event) (told : TellsEvent entries event) :
    pydantic.event entries = some event := by
  have optionalText := accepts_or_none plain.text text_not_null
  have optionalObject := accepts_or_none plain.object object_not_null
  rw [Pydantic.event, required_told plain.object _ _ told.id,
    aliased_told told.camelCase _ _ (by decide) plain.text _ told.packageId,
    aliased_told told.camelCase _ _ (by decide) plain.text _ told.transactionModule,
    required_told plain.text _ _ told.sender, required_told plain.text _ _ told.type,
    aliased_optional_told told.camelCase _ _ (by decide) optionalObject _ told.parsedJson,
    optional_told optionalText _ _ told.bcs,
    aliased_optional_told told.camelCase _ _ (by decide) optionalText _ told.timestampMs]
  rfl

theorem event_page_told (plain : pydantic.Plain) (entries : Entries) (page : EventPage)
    (told : TellsEventPage entries page) : pydantic.eventPage entries = some page := by
  have events := accepts_list_of (accepts_nested (event_told pydantic plain))
  have optionalObject := accepts_or_none plain.object object_not_null
  rw [Pydantic.eventPage, required_told events _ _ told.data,
    aliased_optional_told told.camelCase _ _ (by decide) optionalObject _ told.nextCursor,
    aliased_told told.camelCase _ _ (by decide) plain.truth _ told.hasNextPage]
  rfl

def TransactionEffects.received (effects : TransactionEffects) : TransactionEffects :=
  { effects with gasUsed := none, eventsDigest := none, transactionDigest := none }

theorem effects_told (plain : pydantic.Plain) (entries : Entries) (effects : TransactionEffects)
    (told : TellsEffects entries effects) : pydantic.transactionEffects entries = some effects.received := by
  have objects := accepts_or_none (accepts_list_of plain.object) (list_not_null IsObject)
  rw [Pydantic.transactionEffects, required_told plain.object _ _ told.status,
    renamed_total told.camelCase _ (by decide), optional_told objects _ _ told.created,
    optional_told objects _ _ told.mutated, optional_told objects _ _ told.deleted,
    renamed_total told.camelCase _ (by decide), renamed_total told.camelCase _ (by decide)]
  rfl

def DevInspectResults.received (inspected : DevInspectResults) : DevInspectResults :=
  { inspected with effects := inspected.effects.received }

theorem inspection_told (plain : pydantic.Plain) (entries : Entries) (inspected : DevInspectResults)
    (told : TellsInspection entries inspected) : pydantic.devInspectResults entries = some inspected.received := by
  have optionalText := accepts_or_none plain.text text_not_null
  have objects := accepts_or_none (accepts_list_of plain.object) (list_not_null IsObject)
  obtain ⟨value, present, effectEntries, rfl, effectsTold⟩ := told.effects
  have effects : required entries (str "effects") (nested pydantic.transactionEffects) =
      some inspected.effects.received := by
    rw [required, present]
    exact effects_told pydantic plain effectEntries inspected.effects effectsTold
  rw [Pydantic.devInspectResults, effects, required_told (accepts_list_of plain.object) _ _ told.events,
    optional_told objects _ _ told.results, optional_told optionalText _ _ told.error]
  rfl

theorem coin_told (plain : pydantic.Plain) (entries : Entries) (coin : CoinData) (told : TellsCoin entries coin) :
    coinItem pydantic.models (.dict entries) = .ok coin := by
  obtain ⟨coinType, coinTypeAt, coinTypeTold⟩ := item_told _ _ told.coinType
  obtain ⟨coinObjectId, idAt, idTold⟩ := item_told _ _ told.coinObjectId
  obtain ⟨version, versionAt, versionTold⟩ := item_told _ _ told.version
  obtain ⟨digest, digestAt, digestTold⟩ := item_told _ _ told.digest
  obtain ⟨balance, balanceAt, balanceTold⟩ := item_told _ _ told.balance
  have made : pydantic.coinData coinType coinObjectId coin.version digest balance = some coin := by
    rw [Pydantic.coinData, plain.text _ _ coinTypeTold, plain.text _ _ idTold, plain.integer _ _ rfl,
      plain.text _ _ digestTold, plain.text _ _ balanceTold]
    rfl
  have integer : version.toInt = .ok coin.version := versionTold
  rw [coinItem, coinTypeAt, idAt, versionAt, digestAt, balanceAt]
  change (version.toInt >>= fun number => orRefuse (pydantic.coinData coinType coinObjectId number digest balance)) = _
  rw [integer]
  exact congrArg orRefuse made

theorem items_told {α : Type} {decode : Json → Except PyError α} {tells : Entries → α → Prop}
    (made : ∀ entries record, tells entries record → decode (.dict entries) = .ok record) (values : List Json)
    (records : List α) (told : List.Forall₂ (IsNested tells) values records) : values.mapM decode = .ok records := by
  induction told with
  | nil => rfl
  | cons first rest ih =>
      obtain ⟨entries, rfl, one⟩ := first
      rw [List.mapM_cons, made entries _ one, ih]
      rfl

theorem coin_page_told (plain : pydantic.Plain) (entries : Entries) (page : CoinPage) (told : TellsCoinPage entries page) :
    coinPageResult pydantic.models (.dict entries) = .ok page := by
  obtain ⟨data, dataAt, coins, rfl, each⟩ := item_told _ _ told.data
  obtain ⟨nextCursor, nextCursorAt, cursorMade⟩ :=
    get_told (accepts_or_none plain.text text_not_null) _ _ told.nextCursor
  obtain ⟨hasNextPage, hasNextPageAt, hasNextPageTold⟩ := item_told _ _ told.hasNextPage
  have made : pydantic.coinPage page.data nextCursor hasNextPage = some page := by
    rw [Pydantic.coinPage, cursorMade, plain.truth _ _ hasNextPageTold]
    rfl
  have items : coins.mapM (coinItem pydantic.models) = .ok page.data := items_told (coin_told pydantic plain) coins _ each
  rw [coinPageResult, dataAt]
  change (coins.mapM (coinItem pydantic.models) >>= _) = _
  rw [items, nextCursorAt, hasNextPageAt]
  exact congrArg orRefuse made

theorem supply_told (plain : pydantic.Plain) (entries : Entries) (supply : Supply) (told : TellsSupply entries supply) :
    supplyResult pydantic (.dict entries) = .ok supply := by
  obtain ⟨value, valueAt, valueTold⟩ := item_told _ _ told
  have made : pydantic.supply value = some supply := by
    rw [Pydantic.supply, plain.text _ _ valueTold]
    rfl
  rw [supplyResult, valueAt]
  exact congrArg orRefuse made

end

inductive QueryCall : Type → Type where
  | getBalance (owner coinType : Str) : QueryCall Balance
  | getAllBalances (owner : Str) : QueryCall (List Balance)
  | getCoins (owner coinType : Str) (cursor limit : Json) : QueryCall CoinPage
  | getCoinMetadata (coinType : Str) : QueryCall (Option CoinMetadata)
  | getTotalSupply (coinType : Str) : QueryCall Supply
  | devInspectTransactionBlock (sender txBytes : Str) : QueryCall DevInspectResults
  | queryEvents (query : EventSelector) (cursor limit : Json) (descendingOrder : Bool) : QueryCall EventPage

def QueryCall.api : {α : Type} → QueryCall α → ApiCall α
  | _, .getBalance owner coinType => .getBalance owner coinType
  | _, .getAllBalances owner => .getAllBalances owner
  | _, .getCoins owner coinType cursor limit => .getCoins owner coinType cursor limit
  | _, .getCoinMetadata coinType => .getCoinMetadata coinType
  | _, .getTotalSupply coinType => .getTotalSupply coinType
  | _, .devInspectTransactionBlock sender txBytes => .devInspectTransactionBlock sender txBytes
  | _, .queryEvents query cursor limit descendingOrder => .queryEvents query cursor limit descendingOrder

-- The node's answer, in the keys of the RPC, tells this.
def QueryCall.Tells : {α : Type} → QueryCall α → Json → α → Prop
  | _, .getBalance _ _, answer, balance => IsNested TellsBalance answer balance
  | _, .getAllBalances _, answer, balances => IsList (IsNested TellsBalance) answer balances
  | _, .getCoins _ _ _ _, answer, page => IsNested TellsCoinPage answer page
  | _, .getCoinMetadata _, answer, metadata => IsOptional (IsNested TellsCoinMetadata) answer metadata
  | _, .getTotalSupply _, answer, supply => IsNested TellsSupply answer supply
  | _, .devInspectTransactionBlock _ _, answer, inspected => IsNested TellsInspection answer inspected
  | _, .queryEvents _ _ _ _, answer, page => IsNested TellsEventPage answer page

def QueryCall.received : {α : Type} → QueryCall α → α → α
  | _, .getCoinMetadata _, metadata => metadata.map CoinMetadata.received
  | _, .devInspectTransactionBlock _ _, inspected => inspected.received
  | _, _, value => value

section

variable (pydantic : Pydantic)

def QueryCall.decode : {α : Type} → QueryCall α → Json → Except PyError α
  | _, .getBalance _ _ => balanceItem pydantic
  | _, .getAllBalances _ => fun result => do (← result.iterate).mapM (balanceItem pydantic)
  | _, .getCoins _ _ _ _ => coinPageResult pydantic.models
  | _, .getCoinMetadata _ => fun result => match result with
      | .null => .ok none
      | result => (construct pydantic.coinMetadata result).map some
  | _, .getTotalSupply _ => supplyResult pydantic
  | _, .devInspectTransactionBlock _ _ => construct pydantic.devInspectResults
  | _, .queryEvents _ _ _ _ => construct pydantic.eventPage

theorem query_asks {α : Type} (call : QueryCall α) :
    Asks (fun node => call.api.sync pydantic node) call.api.request (call.decode pydantic) := by
  cases call with
  | getBalance owner coinType => exact asked_checked _ _ _
  | getAllBalances owner => exact asked_checked _ _ _
  | getCoins owner coinType cursor limit => exact asked_checked _ _ (coinPageResult pydantic.models)
  | getCoinMetadata coinType => exact coin_metadata_asks pydantic coinType
  | getTotalSupply coinType => exact asked_checked _ _ (supplyResult pydantic)
  | devInspectTransactionBlock sender txBytes => exact asked_checked _ _ _
  | queryEvents query cursor limit descendingOrder =>
      exact asked_after_check query.queryDict _ _ _ fun queryDict => asked_checked _ _ _

theorem query_decodes {α : Type} (plain : pydantic.Plain) (call : QueryCall α) (answer : Json) (value : α)
    (told : call.Tells answer value) : call.decode pydantic answer = .ok (call.received value) := by
  cases call with
  | getBalance owner coinType =>
      obtain ⟨entries, rfl, balance⟩ := told
      exact balance_told pydantic plain entries value balance
  | getAllBalances owner =>
      obtain ⟨items, rfl, each⟩ := told
      exact items_told (balance_told pydantic plain) items value each
  | getCoins owner coinType cursor limit =>
      obtain ⟨entries, rfl, page⟩ := told
      exact coin_page_told pydantic plain entries value page
  | getCoinMetadata coinType =>
      cases value with
      | none =>
          rw [show answer = .null from told]
          rfl
      | some metadata =>
          obtain ⟨entries, rfl, metadataTold⟩ := told
          have made := construct_made entries _ _ (metadata_told pydantic plain entries metadata metadataTold)
          exact congrArg (Except.map some) made
  | getTotalSupply coinType =>
      obtain ⟨entries, rfl, supply⟩ := told
      exact supply_told pydantic plain entries value supply
  | devInspectTransactionBlock sender txBytes =>
      obtain ⟨entries, rfl, inspected⟩ := told
      exact construct_made entries _ _ (inspection_told pydantic plain entries value inspected)
  | queryEvents query cursor limit descendingOrder =>
      obtain ⟨entries, rfl, page⟩ := told
      exact construct_made entries _ _ (event_page_told pydantic plain entries value page)

-- Either client returns what the answer tells, less the icon of a coin and the gas and
-- the digests of a simulation.
theorem queries_return_answers {α : Type} (plain : pydantic.Plain) (call : QueryCall α) (request : Request)
    (asked : call.api.request = .ok request) (node : Node) (world : World Transaction Request) (answer : Json)
    (answered : reply node world.sent request = .ok answer) (value : α) (told : call.Tells answer value) :
    ClientsSettle (call.api.async pydantic) (call.api.sync pydantic node) node world (.ok (call.received value))
      ⟨world.state, world.sent ++ [request]⟩ := by
  have settles := query_asks pydantic call node world
  have result : askedResult node world call.api.request (call.decode pydantic) = .ok (call.received value) := by
    rw [asked]
    change (reply node world.sent request >>= _) = _
    rw [answered]
    exact query_decodes pydantic plain call answer value told
  rw [result, asked] at settles
  exact mirrored_settles _ _ node world _ _ (api_call_mirrors pydantic node call.api) settles

end

theorem strict_plain : strictPydantic.Plain where
  text value field told := by rw [show value = .str field from told]; rfl
  integer value field told := by rw [show value = .int field from told]; rfl
  truth value field told := by rw [show value = .bool field from told]; rfl
  object value field told := by rw [show value = .dict field from told]; rfl

def iotaMetadata : CoinMetadata :=
  ⟨9, str "IOTA", str "IOTA", str "The main token", some (str "https://iota.org/logo.png"), none⟩

def iotaMetadataAnswer : Entries := [
  (str "decimals", .int 9),
  (str "name", .str (str "IOTA")),
  (str "symbol", .str (str "IOTA")),
  (str "description", .str (str "The main token")),
  (str "iconUrl", .str (str "https://iota.org/logo.png")),
  (str "id", .null)]

def metadataCall : QueryCall (Option CoinMetadata) := .getCoinMetadata iotaCoinType

theorem metadata_told_iota : TellsCoinMetadata iotaMetadataAnswer iotaMetadata where
  camelCase := by unfold CamelCase; decide
  decimals := ⟨_, rfl, rfl⟩
  name := ⟨_, rfl, rfl⟩
  symbol := ⟨_, rfl, rfl⟩
  description := ⟨_, rfl, rfl⟩
  iconUrl := rfl
  id := rfl

theorem icon_url_lost : ClientsSettle (metadataCall.api.async strictPydantic)
    (metadataCall.api.sync strictPydantic (answering iotaMetadataAnswer)) (answering iotaMetadataAnswer) freshWorld
    (.ok (some { iotaMetadata with iconUrl := none })) ⟨{}, [⟨str "iotax_getCoinMetadata", [.str iotaCoinType]⟩]⟩ :=
  queries_return_answers strictPydantic strict_plain metadataCall _ rfl (answering iotaMetadataAnswer) freshWorld _ rfl
    (some iotaMetadata) ⟨iotaMetadataAnswer, rfl, metadata_told_iota⟩

end PyIota
