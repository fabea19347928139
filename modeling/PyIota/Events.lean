import PyIota.ResponseModels

set_option autoImplicit false

namespace PyIota

structure Event where
  id : Entries
  packageId : Str
  transactionModule : Str
  sender : Str
  type : Str
  parsedJson : Option Entries
  bcs : Option Str
  timestampMs : Option Str

structure EventPage where
  data : List Event
  nextCursor : Option Entries
  hasNextPage : Bool

section

variable (pydantic : Pydantic) (entries : Entries)

def Pydantic.event : Option Event := do
  let id ← required entries (str "id") pydantic.object
  let packageId ← (aliased entries (str "packageId") (str "package_id")).bind pydantic.text
  let transactionModule ← (aliased entries (str "transactionModule") (str "transaction_module")).bind pydantic.text
  let sender ← required entries (str "sender") pydantic.text
  let type ← required entries (str "type") pydantic.text
  let parsedJson ← (aliased entries (str "parsedJson") (str "parsed_json")).elim (some none) (orNone pydantic.object)
  let bcs ← optional entries (str "bcs") none (orNone pydantic.text)
  let timestampMs ← (aliased entries (str "timestampMs") (str "timestamp_ms")).elim (some none) (orNone pydantic.text)
  return ⟨id, packageId, transactionModule, sender, type, parsedJson, bcs, timestampMs⟩

def Pydantic.eventPage : Option EventPage := do
  let data ← required entries (str "data") (listOf (nested pydantic.event))
  let nextCursor ← (aliased entries (str "nextCursor") (str "next_cursor")).elim (some none) (orNone pydantic.object)
  let hasNextPage ← (aliased entries (str "hasNextPage") (str "has_next_page")).bind pydantic.truth
  return ⟨data, nextCursor, hasNextPage⟩

end

abbrev Texts := List (Str × Str)

def Json.ofTexts (texts : Texts) : Json := .dict (texts.map fun entry => (entry.1, .str entry.2))

@[ext] structure EventFilter where
  sender : Option Str := none
  transaction : Option Str := none
  package : Option Str := none
  moveModule : Option Texts := none
  moveEventType : Option Str := none
  moveEventField : Option Entries := none
  timeRange : Option Texts := none

-- The filters list: the fields that are not None, each under its variant's name.
def EventFilter.filters (filter : EventFilter) : List (Str × Json) :=
  (filter.sender.map fun value => (str "Sender", Json.str value)).toList ++
    (filter.transaction.map fun value => (str "Transaction", Json.str value)).toList ++
    (filter.package.map fun value => (str "Package", Json.str value)).toList ++
    (filter.moveModule.map fun value => (str "MoveModule", Json.ofTexts value)).toList ++
    (filter.moveEventType.map fun value => (str "MoveEventType", Json.str value)).toList ++
    (filter.moveEventField.map fun value => (str "MoveEventField", Json.dict value)).toList ++
    (filter.timeRange.map fun value => (str "TimeRange", Json.ofTexts value)).toList

def noFieldSet : PyError := .valueError (str "EventFilter must have exactly one field set")

def joinNames : List Str → Str
  | [] => []
  | [name] => name
  | name :: rest => name ++ str ", " ++ joinNames rest

def manyFieldsSet (names : List Str) : PyError :=
  .valueError (str ("EventFilter must have exactly one field set, got " ++ toString names.length ++ ": ") ++
    joinNames names ++ str ". Use a raw dict with 'And'/'Or' wrappers for composite filters.")

def EventFilter.toRpcFilter (filter : EventFilter) : Except PyError Json :=
  match filter.filters with
  | [] => .error noFieldSet
  | [(key, value)] => .ok (.dict [(key, value)])
  | several => .error (manyFieldsSet (several.map Prod.fst))

-- One variant of the filters a node knows, with what it asks for.
inductive EventQuery where
  | sender (value : Str)
  | transaction (value : Str)
  | package (value : Str)
  | moveModule (value : Texts)
  | moveEventType (value : Str)
  | moveEventField (value : Entries)
  | timeRange (value : Texts)

def EventQuery.filter : EventQuery → EventFilter
  | .sender value => { sender := some value }
  | .transaction value => { transaction := some value }
  | .package value => { package := some value }
  | .moveModule value => { moveModule := some value }
  | .moveEventType value => { moveEventType := some value }
  | .moveEventField value => { moveEventField := some value }
  | .timeRange value => { timeRange := some value }

def EventQuery.json : EventQuery → Json
  | .sender value => .dict [(str "Sender", .str value)]
  | .transaction value => .dict [(str "Transaction", .str value)]
  | .package value => .dict [(str "Package", .str value)]
  | .moveModule value => .dict [(str "MoveModule", .ofTexts value)]
  | .moveEventType value => .dict [(str "MoveEventType", .str value)]
  | .moveEventField value => .dict [(str "MoveEventField", .dict value)]
  | .timeRange value => .dict [(str "TimeRange", .ofTexts value)]

theorem query_to_rpc_filter (query : EventQuery) : query.filter.toRpcFilter = .ok query.json := by
  cases query <;> rfl

theorem texts_inj (texts others : Texts) (same : Json.ofTexts texts = Json.ofTexts others) : texts = others := by
  have entryInj : Function.Injective fun entry : Str × Str => (entry.1, Json.str entry.2) := by
    intro entry other alike
    obtain ⟨key, value⟩ := Prod.mk.inj alike
    exact Prod.ext key (Json.str.inj value)
  exact List.map_injective_iff.mpr entryInj (Json.dict.inj same)

theorem query_json_inj (query other : EventQuery) (same : query.json = other.json) : query = other := by
  cases query with
  | sender value => cases other <;> simp_all [EventQuery.json, str, cp]
  | transaction value => cases other <;> simp_all [EventQuery.json, str, cp]
  | package value => cases other <;> simp_all [EventQuery.json, str, cp]
  | moveModule value =>
      cases other with
      | moveModule later => rw [texts_inj value later (by simpa [EventQuery.json] using same)]
      | _ => simp_all [EventQuery.json, str, cp]
  | moveEventType value => cases other <;> simp_all [EventQuery.json, str, cp]
  | moveEventField value => cases other <;> simp_all [EventQuery.json, str, cp]
  | timeRange value =>
      cases other with
      | timeRange later => rw [texts_inj value later (by simpa [EventQuery.json] using same)]
      | _ => simp_all [EventQuery.json, str, cp]

theorem rpc_filter_ok (filter : EventFilter) (json : Json) : filter.toRpcFilter = .ok json ↔
    ∃ entry, filter.filters = [entry] ∧ json = .dict [entry] := by
  unfold EventFilter.toRpcFilter
  cases filter.filters with
  | nil => simp
  | cons entry rest =>
      cases rest with
      | nil => simp [eq_comm]
      | cons later rest => simp

theorem single_filter (filter : EventFilter) (entry : Str × Json) (single : filter.filters = [entry]) :
    ∃ query : EventQuery, filter = query.filter := by
  obtain ⟨sender, transaction, package, moveModule, moveEventType, moveEventField, timeRange⟩ := filter
  simp only [EventFilter.filters, List.append_eq_singleton_iff, List.append_eq_nil_iff, Option.toList_eq_nil_iff,
    Option.toList_eq_singleton_iff, Option.map_eq_none_iff, Option.map_eq_some_iff] at single
  rcases single with ⟨⟨⟨⟨⟨⟨rfl, rfl⟩, rfl⟩, rfl⟩, rfl⟩, rfl⟩, value, rfl, _⟩ | ⟨single, rfl⟩
  · exact ⟨.timeRange value, rfl⟩
  rcases single with ⟨⟨⟨⟨⟨rfl, rfl⟩, rfl⟩, rfl⟩, rfl⟩, value, rfl, _⟩ | ⟨single, rfl⟩
  · exact ⟨.moveEventField value, rfl⟩
  rcases single with ⟨⟨⟨⟨rfl, rfl⟩, rfl⟩, rfl⟩, value, rfl, _⟩ | ⟨single, rfl⟩
  · exact ⟨.moveEventType value, rfl⟩
  rcases single with ⟨⟨⟨rfl, rfl⟩, rfl⟩, value, rfl, _⟩ | ⟨single, rfl⟩
  · exact ⟨.moveModule value, rfl⟩
  rcases single with ⟨⟨rfl, rfl⟩, value, rfl, _⟩ | ⟨single, rfl⟩
  · exact ⟨.package value, rfl⟩
  rcases single with ⟨rfl, value, rfl, _⟩ | ⟨⟨value, rfl, _⟩, rfl⟩
  · exact ⟨.transaction value, rfl⟩
  · exact ⟨.sender value, rfl⟩

theorem to_rpc_filter_iff (filter : EventFilter) (json : Json) :
    filter.toRpcFilter = .ok json ↔ ∃ query : EventQuery, filter = query.filter ∧ json = query.json := by
  refine ⟨?_, ?_⟩
  · intro accepted
    obtain ⟨entry, single, _⟩ := (rpc_filter_ok filter json).mp accepted
    obtain ⟨query, rfl⟩ := single_filter filter entry single
    rw [query_to_rpc_filter] at accepted
    exact ⟨query, rfl, (Except.ok.inj accepted).symm⟩
  · intro given
    obtain ⟨query, rfl, rfl⟩ := given
    exact query_to_rpc_filter query

theorem to_rpc_filter_error (filter : EventFilter) (error : PyError) (refused : filter.toRpcFilter = .error error) :
    (filter.filters = [] ∧ error = noFieldSet) ∨
      (2 ≤ filter.filters.length ∧ error = manyFieldsSet (filter.filters.map Prod.fst)) := by
  unfold EventFilter.toRpcFilter at refused
  cases fields : filter.filters with
  | nil =>
      rw [fields] at refused
      exact Or.inl ⟨rfl, (Except.error.inj refused).symm⟩
  | cons entry rest =>
      cases rest with
      | nil =>
          rw [fields] at refused
          cases refused
      | cons later rest =>
          rw [fields] at refused
          exact Or.inr ⟨by simp, (Except.error.inj refused).symm⟩

end PyIota
