import PyIota.ResponseSections

set_option autoImplicit false

namespace PyIota

open Coroutine Polling

-- Documented of pydantic: str and dict[str, Any] hand on what they accept, and a
-- string is neither a model nor a dict.
structure Pydantic.Documented (pydantic : Pydantic) : Prop where
  text : Exact pydantic.text IsText
  object : Exact pydantic.object IsObject
  owner : ∀ s, pydantic.owner (.str s) = none

structure EffectsKept (entries : Entries) (effects : TransactionEffects) : Prop where
  status : Kept entries (str "status") IsObject effects.status
  gasUsed : Kept entries (str "gasUsed") (IsOptional IsObject) effects.gasUsed
  created : Kept entries (str "created") (IsOptional (IsList IsObject)) effects.created
  mutated : Kept entries (str "mutated") (IsOptional (IsList IsObject)) effects.mutated
  deleted : Kept entries (str "deleted") (IsOptional (IsList IsObject)) effects.deleted
  eventsDigest : Kept entries (str "eventsDigest") (IsOptional IsText) effects.eventsDigest
  transactionDigest : Kept entries (str "transactionDigest") (IsOptional IsText) effects.transactionDigest

structure ResponseKept (entries : Entries) (response : TransactionResponse) : Prop where
  digest : Kept entries (str "digest") IsText response.digest
  effects : Kept entries (str "effects") (IsOptional (IsNested EffectsKept)) response.effects
  events : Kept entries (str "events") (IsOptional (IsList IsObject)) response.events
  objectChanges : Kept entries (str "objectChanges") (IsOptional (IsList IsObject)) response.objectChanges
  balanceChanges : Kept entries (str "balanceChanges") (IsOptional (IsList IsObject)) response.balanceChanges
  timestampMs : Kept entries (str "timestampMs") (IsOptional IsText) response.timestampMs
  errors : Kept entries (str "errors") (IsOptional (IsList IsText)) response.errors
  rawTransaction : Kept entries (str "rawTransaction") (IsOptional IsText) response.rawTransaction

structure DryRunKept (entries : Entries) (response : DryRunTransactionResponse) : Prop where
  effects : Kept entries (str "effects") (IsNested EffectsKept) response.effects
  events : Kept entries (str "events") (IsList IsObject) response.events
  objectChanges : Kept entries (str "objectChanges") (IsList IsObject) response.objectChanges
  balanceChanges : Kept entries (str "balanceChanges") (IsList IsObject) response.balanceChanges
  input : Kept entries (str "input") (IsOptional IsObject) response.input

structure ContentKept (entries : Entries) (content : ObjectContent) : Prop where
  dataType : Kept entries (str "dataType") IsText content.dataType
  type : Kept entries (str "type") (IsOptional IsText) content.type
  hasPublicTransfer : Kept entries (str "hasPublicTransfer") (IsOptional IsTruth) content.hasPublicTransfer
  fields : Kept entries (str "fields") (IsOptional IsObject) content.fields
  bcsBytes : Kept entries (str "bcsBytes") (IsOptional IsText) content.bcsBytes

def ObjectKept (entries : Entries) (response : FullObjectResponse) : Prop :=
  Kept entries (str "data") (IsOptional (IsNested fun data record =>
    Kept data (str "content") (IsOptional (IsNested ContentKept)) record.content)) response.data

section

variable (pydantic : Pydantic) (entries : Entries)

-- Results in the RPC's keys whose sections have the types the models declare.
structure RpcEffects : Prop where
  camelCase : CamelCase entries
  status : ∃ status, required entries (str "status") pydantic.object = some status
  created : Accepted entries (str "created") (orNone (listOf pydantic.object))
  mutated : Accepted entries (str "mutated") (orNone (listOf pydantic.object))
  deleted : Accepted entries (str "deleted") (orNone (listOf pydantic.object))

structure RpcResponse : Prop where
  camelCase : CamelCase entries
  digest : ∃ digest, required entries (str "digest") pydantic.text = some digest
  effects : ∀ value, entries.lookup (str "effects") = some value →
    value = .null ∨ ∃ effects, value = .dict effects ∧ RpcEffects pydantic effects
  events : Accepted entries (str "events") (orNone (listOf pydantic.object))
  errors : Accepted entries (str "errors") (orNone (listOf pydantic.text))

structure RpcObject : Prop where
  camelCase : CamelCase entries
  objectId : ∃ objectId, required entries (str "objectId") pydantic.text = some objectId
  version : Accepted entries (str "version") pydantic.integer
  digest : Accepted entries (str "digest") pydantic.text
  type : Accepted entries (str "type") (orNone pydantic.text)
  owner : ∀ value, entries.lookup (str "owner") = some value →
    (∃ variant, value = .str variant) ∨ ∃ owner, orNone pydantic.owner value = some owner
  content : ∀ value, entries.lookup (str "content") = some value →
    value = .null ∨ ∃ content, value = .dict content ∧ CamelCase content
  bcs : Accepted entries (str "bcs") (orNone pydantic.object)
  previousTransaction : Accepted entries (str "previousTransaction") (orNone pydantic.text)
  storageRebate : Accepted entries (str "storageRebate") (orNone pydantic.integer)
  display : Accepted entries (str "display") (orNone pydantic.object)

structure RpcObjectResponse : Prop where
  data : ∀ value, entries.lookup (str "data") = some value →
    value = .null ∨ ∃ data, value = .dict data ∧ RpcObject pydantic data
  error : Accepted entries (str "error") (orNone pydantic.object)

end

-- No section that is only looked for under another name.
structure EffectsReadable (entries : Entries) : Prop where
  gasUsed : Absent entries (str "gasUsed")
  eventsDigest : Absent entries (str "eventsDigest")
  transactionDigest : Absent entries (str "transactionDigest")

structure ResponseReadable (entries : Entries) : Prop where
  effects : ∀ effects, entries.lookup (str "effects") = some (.dict effects) → EffectsReadable effects
  objectChanges : Absent entries (str "objectChanges")
  balanceChanges : Absent entries (str "balanceChanges")
  timestampMs : Absent entries (str "timestampMs")
  rawTransaction : Absent entries (str "rawTransaction")

structure ObjectReadable (entries : Entries) : Prop where
  content : ∀ data, entries.lookup (str "data") = some (.dict data) → Absent data (str "content")
  owner : ∀ data variant, entries.lookup (str "data") = some (.dict data) →
    data.lookup (str "owner") ≠ some (.str variant)

section

variable (pydantic : Pydantic) (entries : Entries)

theorem effects_made_iff (effects : TransactionEffects) : pydantic.transactionEffects entries = some effects ↔
    required entries (str "status") pydantic.object = some effects.status ∧
      optional entries (str "gas_used") none (orNone pydantic.object) = some effects.gasUsed ∧
      optional entries (str "created") none (orNone (listOf pydantic.object)) = some effects.created ∧
      optional entries (str "mutated") none (orNone (listOf pydantic.object)) = some effects.mutated ∧
      optional entries (str "deleted") none (orNone (listOf pydantic.object)) = some effects.deleted ∧
      optional entries (str "events_digest") none (orNone pydantic.text) = some effects.eventsDigest ∧
      optional entries (str "transaction_digest") none (orNone pydantic.text) = some effects.transactionDigest := by
  simp only [Pydantic.transactionEffects, Option.bind_eq_bind, Option.bind_eq_some_iff]
  refine ⟨?_, ?_⟩
  · intro ⟨_, status, _, gasUsed, _, created, _, mutated, _, deleted, _, eventsDigest, _, transactionDigest, same⟩
    cases same
    exact ⟨status, gasUsed, created, mutated, deleted, eventsDigest, transactionDigest⟩
  · intro ⟨status, gasUsed, created, mutated, deleted, eventsDigest, transactionDigest⟩
    exact ⟨_, status, _, gasUsed, _, created, _, mutated, _, deleted, _, eventsDigest, _, transactionDigest, rfl⟩

theorem effects_decode (rpc : RpcEffects pydantic entries) :
    ∃ effects, pydantic.transactionEffects entries = some effects := by
  obtain ⟨status, statusEq⟩ := rpc.status
  obtain ⟨created, createdEq⟩ := optional_total (str "created") none rpc.created
  obtain ⟨mutated, mutatedEq⟩ := optional_total (str "mutated") none rpc.mutated
  obtain ⟨deleted, deletedEq⟩ := optional_total (str "deleted") none rpc.deleted
  refine ⟨⟨status, none, created, mutated, deleted, none, none⟩, (effects_made_iff pydantic entries _).mpr ?_⟩
  exact ⟨statusEq, renamed_total rpc.camelCase _ (by decide) none, createdEq, mutatedEq, deletedEq,
    renamed_total rpc.camelCase _ (by decide) none, renamed_total rpc.camelCase _ (by decide) none⟩

theorem effects_kept_iff (documented : pydantic.Documented) (rpc : RpcEffects pydantic entries)
    (effects : TransactionEffects) (made : pydantic.transactionEffects entries = some effects) :
    EffectsKept entries effects ↔ EffectsReadable entries := by
  obtain ⟨status, gasUsed, created, mutated, deleted, eventsDigest, transactionDigest⟩ :=
    (effects_made_iff pydantic entries effects).mp made
  have objects := exact_or_none (exact_list_of documented.object)
  have gasUsedIff := renamed_kept_iff rpc.camelCase (str "gasUsed") _ IsObject (by decide) _ gasUsed
  have eventsDigestIff := renamed_kept_iff rpc.camelCase (str "eventsDigest") _ IsText (by decide) _ eventsDigest
  have transactionDigestIff :=
    renamed_kept_iff rpc.camelCase (str "transactionDigest") _ IsText (by decide) _ transactionDigest
  refine ⟨?_, ?_⟩
  · intro kept
    exact ⟨gasUsedIff.mp kept.gasUsed, eventsDigestIff.mp kept.eventsDigest,
      transactionDigestIff.mp kept.transactionDigest⟩
  · intro readable
    refine ⟨?_, ?_, ?_, ?_, ?_, ?_, ?_⟩
    · exact kept_required documented.object _ _ status
    · exact gasUsedIff.mpr readable.gasUsed
    · exact kept_optional objects _ _ _ created
    · exact kept_optional objects _ _ _ mutated
    · exact kept_optional objects _ _ _ deleted
    · exact eventsDigestIff.mpr readable.eventsDigest
    · exact transactionDigestIff.mpr readable.transactionDigest

theorem response_made_iff (response : TransactionResponse) : pydantic.transactionResponse entries = some response ↔
    required entries (str "digest") pydantic.text = some response.digest ∧
      optional entries (str "effects") none (orNone (nested pydantic.transactionEffects)) = some response.effects ∧
      optional entries (str "events") none (orNone (listOf pydantic.object)) = some response.events ∧
      optional entries (str "object_changes") none (orNone (listOf pydantic.object)) = some response.objectChanges ∧
      optional entries (str "balance_changes") none (orNone (listOf pydantic.object)) = some response.balanceChanges ∧
      optional entries (str "timestamp_ms") none (orNone pydantic.text) = some response.timestampMs ∧
      optional entries (str "errors") none (orNone (listOf pydantic.text)) = some response.errors ∧
      optional entries (str "raw_transaction") none (orNone pydantic.text) = some response.rawTransaction := by
  simp only [Pydantic.transactionResponse, Option.bind_eq_bind, Option.bind_eq_some_iff]
  refine ⟨?_, ?_⟩
  · intro ⟨_, digest, _, effects, _, events, _, objects, _, balances, _, timestamp, _, errors, _, raw, same⟩
    cases same
    exact ⟨digest, effects, events, objects, balances, timestamp, errors, raw⟩
  · intro ⟨digest, effects, events, objects, balances, timestamp, errors, raw⟩
    exact ⟨_, digest, _, effects, _, events, _, objects, _, balances, _, timestamp, _, errors, _, raw, rfl⟩

theorem effects_section_decodes (rpc : RpcResponse pydantic entries) : ∃ effects,
    optional entries (str "effects") none (orNone (nested pydantic.transactionEffects)) = some effects := by
  apply optional_total
  intro value present
  rcases rpc.effects value present with null | ⟨effects, same, rpcEffects⟩
  · rw [null]
    exact ⟨none, rfl⟩
  · obtain ⟨record, made⟩ := effects_decode pydantic effects rpcEffects
    refine ⟨some record, ?_⟩
    rw [same]
    change (pydantic.transactionEffects effects).map some = some (some record)
    rw [made]
    rfl

theorem effects_section_kept_iff (documented : pydantic.Documented) (rpc : RpcResponse pydantic entries)
    (field : Option TransactionEffects)
    (made : optional entries (str "effects") none (orNone (nested pydantic.transactionEffects)) = some field) :
    Kept entries (str "effects") (IsOptional (IsNested EffectsKept)) field ↔
      ∀ effects, entries.lookup (str "effects") = some (.dict effects) → EffectsReadable effects := by
  refine ⟨?_, ?_⟩
  · intro kept effects present
    obtain ⟨null, _⟩ | ⟨other, same, rpcEffects⟩ := rpc.effects _ present
    cases same
    rw [optional, present] at made
    obtain ⟨record, recordMade, fieldEq⟩ := Option.map_eq_some_iff.mp made
    have keeps := kept _ present
    rw [← fieldEq] at keeps
    obtain ⟨other, same, effectsKept⟩ := keeps
    cases same
    exact (effects_kept_iff pydantic effects documented rpcEffects record recordMade).mp effectsKept
  · intro readable value present
    rw [optional, present] at made
    rcases rpc.effects value present with null | ⟨effects, same, rpcEffects⟩
    · rw [null] at made
      cases made
      exact null
    · rw [same] at made present
      obtain ⟨record, recordMade, fieldEq⟩ := Option.map_eq_some_iff.mp made
      rw [← fieldEq]
      exact ⟨effects, same, (effects_kept_iff pydantic effects documented rpcEffects record recordMade).mpr
        (readable effects present)⟩

theorem response_decodes (rpc : RpcResponse pydantic entries) :
    ∃ response, pydantic.transactionResponse entries = some response := by
  obtain ⟨digest, digestEq⟩ := rpc.digest
  obtain ⟨effects, effectsEq⟩ := effects_section_decodes pydantic entries rpc
  obtain ⟨events, eventsEq⟩ := optional_total (str "events") none rpc.events
  obtain ⟨errors, errorsEq⟩ := optional_total (str "errors") none rpc.errors
  refine ⟨⟨digest, effects, events, none, none, none, errors, none⟩, (response_made_iff pydantic entries _).mpr ?_⟩
  exact ⟨digestEq, effectsEq, eventsEq, renamed_total rpc.camelCase _ (by decide) none,
    renamed_total rpc.camelCase _ (by decide) none, renamed_total rpc.camelCase _ (by decide) none, errorsEq,
    renamed_total rpc.camelCase _ (by decide) none⟩

theorem response_kept_iff (documented : pydantic.Documented) (rpc : RpcResponse pydantic entries)
    (response : TransactionResponse) (made : pydantic.transactionResponse entries = some response) :
    ResponseKept entries response ↔ ResponseReadable entries := by
  obtain ⟨digest, effects, events, objects, balances, timestamp, errors, raw⟩ :=
    (response_made_iff pydantic entries response).mp made
  have effectsIff := effects_section_kept_iff pydantic entries documented rpc response.effects effects
  have objectsIff := renamed_kept_iff rpc.camelCase (str "objectChanges") _ (IsList IsObject) (by decide) _ objects
  have balancesIff := renamed_kept_iff rpc.camelCase (str "balanceChanges") _ (IsList IsObject) (by decide) _ balances
  have timestampIff := renamed_kept_iff rpc.camelCase (str "timestampMs") _ IsText (by decide) _ timestamp
  have rawIff := renamed_kept_iff rpc.camelCase (str "rawTransaction") _ IsText (by decide) _ raw
  refine ⟨?_, ?_⟩
  · intro kept
    exact ⟨effectsIff.mp kept.effects, objectsIff.mp kept.objectChanges, balancesIff.mp kept.balanceChanges,
      timestampIff.mp kept.timestampMs, rawIff.mp kept.rawTransaction⟩
  · intro readable
    refine ⟨?_, ?_, ?_, ?_, ?_, ?_, ?_, ?_⟩
    · exact kept_required documented.text _ _ digest
    · exact effectsIff.mpr readable.effects
    · exact kept_optional (exact_or_none (exact_list_of documented.object)) _ _ _ events
    · exact objectsIff.mpr readable.objectChanges
    · exact balancesIff.mpr readable.balanceChanges
    · exact timestampIff.mpr readable.timestampMs
    · exact kept_optional (exact_or_none (exact_list_of documented.text)) _ _ _ errors
    · exact rawIff.mpr readable.rawTransaction

-- A list of changes is required under the name that the result never uses.
theorem dry_run_refused (camelCase : CamelCase entries) : pydantic.dryRunTransactionResponse entries = none := by
  have missing : required entries (str "object_changes") (listOf pydantic.object) = none := by
    rw [required, camel_case_absent camelCase _ (by decide)]
    rfl
  simp only [Pydantic.dryRunTransactionResponse, missing]
  cases required entries (str "effects") (nested pydantic.transactionEffects) with
  | none => rfl
  | some effects => cases required entries (str "events") (listOf pydantic.object) <;> rfl

theorem content_refused (camelCase : CamelCase entries) : pydantic.objectContent entries = none := by
  rw [Pydantic.objectContent, required, camel_case_absent camelCase _ (by decide)]
  rfl

theorem object_data_made_iff (data : FullObjectData) : pydantic.objectData entries = some data ↔
    (aliased entries (str "objectId") (str "object_id")).bind pydantic.text = some data.objectId ∧
      optional entries (str "version") 0 pydantic.integer = some data.version ∧
      optional entries (str "digest") [] pydantic.text = some data.digest ∧
      optional entries (str "type") none (orNone pydantic.text) = some data.type ∧
      optional entries (str "owner") none (orNone pydantic.owner) = some data.owner ∧
      optional entries (str "content") none (orNone (nested pydantic.objectContent)) = some data.content ∧
      optional entries (str "bcs") none (orNone pydantic.object) = some data.bcs ∧
      (aliased entries (str "previousTransaction") (str "previous_transaction")).elim (some none)
        (orNone pydantic.text) = some data.previousTransaction ∧
      (aliased entries (str "storageRebate") (str "storage_rebate")).elim (some none)
        (orNone pydantic.integer) = some data.storageRebate ∧
      optional entries (str "display") none (orNone pydantic.object) = some data.display := by
  simp only [Pydantic.objectData, Option.bind_eq_bind, Option.bind_eq_some_iff]
  refine ⟨?_, ?_⟩
  · intro ⟨_, objectId, _, version, _, digest, _, type, _, owner, _, content, _, bcs, _, previous, _, rebate, _,
      display, same⟩
    cases same
    exact ⟨objectId, version, digest, type, owner, content, bcs, previous, rebate, display⟩
  · intro ⟨objectId, version, digest, type, owner, content, bcs, previous, rebate, display⟩
    exact ⟨_, objectId, _, version, _, digest, _, type, _, owner, _, content, _, bcs, _, previous, _, rebate, _,
      display, rfl⟩

-- A content, or an owner that is a bare variant name, makes the whole object fail.
theorem decoded_object_readable (documented : pydantic.Documented) (rpc : RpcObject pydantic entries)
    (data : FullObjectData) (made : pydantic.objectData entries = some data) :
    Absent entries (str "content") ∧ ∀ variant, entries.lookup (str "owner") ≠ some (.str variant) := by
  obtain ⟨_, _, _, _, owner, content, _⟩ := (object_data_made_iff pydantic entries data).mp made
  refine ⟨?_, ?_⟩
  · intro value present
    rcases rpc.content value present with null | ⟨section_, same, camelCase⟩
    · exact null
    · rw [optional, present, same] at content
      obtain ⟨record, recordMade, _⟩ := Option.map_eq_some_iff.mp content
      rw [nested, content_refused pydantic section_ camelCase] at recordMade
      cases recordMade
  · intro variant present
    rw [optional, present] at owner
    obtain ⟨record, recordMade, _⟩ := Option.map_eq_some_iff.mp owner
    rw [documented.owner] at recordMade
    cases recordMade

theorem object_data_decodes (rpc : RpcObject pydantic entries) (absent : Absent entries (str "content"))
    (noVariant : ∀ variant, entries.lookup (str "owner") ≠ some (.str variant)) :
    ∃ data, pydantic.objectData entries = some data ∧ data.content = none := by
  obtain ⟨objectId, objectIdEq⟩ := rpc.objectId
  obtain ⟨version, versionEq⟩ := optional_total (str "version") 0 rpc.version
  obtain ⟨digest, digestEq⟩ := optional_total (str "digest") [] rpc.digest
  obtain ⟨type, typeEq⟩ := optional_total (str "type") none rpc.type
  have ownerAccepted : Accepted entries (str "owner") (orNone pydantic.owner) := by
    intro value present
    rcases rpc.owner value present with ⟨variant, same⟩ | accepted
    · rw [same] at present
      exact absurd present (noVariant variant)
    · exact accepted
  obtain ⟨owner, ownerEq⟩ := optional_total (str "owner") none ownerAccepted
  have contentEq : optional entries (str "content") none (orNone (nested pydantic.objectContent)) = some none := by
    unfold optional
    cases present : entries.lookup (str "content") with
    | none => rfl
    | some value =>
        rw [absent value present]
        rfl
  obtain ⟨bcs, bcsEq⟩ := optional_total (str "bcs") none rpc.bcs
  obtain ⟨previous, previousEq⟩ := optional_total (str "previousTransaction") none rpc.previousTransaction
  obtain ⟨rebate, rebateEq⟩ := optional_total (str "storageRebate") none rpc.storageRebate
  obtain ⟨display, displayEq⟩ := optional_total (str "display") none rpc.display
  refine ⟨⟨⟨objectId, version, digest⟩, type, owner, none, bcs, previous, rebate, display⟩,
    (object_data_made_iff pydantic entries _).mpr ?_, rfl⟩
  have camelCase := rpc.camelCase
  rw [aliased_eq camelCase _ _ (by decide), aliased_eq camelCase _ _ (by decide), aliased_eq camelCase _ _ (by decide)]
  exact ⟨objectIdEq, versionEq, digestEq, typeEq, ownerEq, contentEq, bcsEq, previousEq, rebateEq, displayEq⟩

theorem object_response_made_iff (response : FullObjectResponse) : pydantic.objectResponse entries = some response ↔
    optional entries (str "data") none (orNone (nested pydantic.objectData)) = some response.data ∧
      optional entries (str "error") none (orNone pydantic.object) = some response.error := by
  simp only [Pydantic.objectResponse, Option.bind_eq_bind, Option.bind_eq_some_iff]
  refine ⟨?_, ?_⟩
  · intro ⟨_, data, _, error, same⟩
    cases same
    exact ⟨data, error⟩
  · intro ⟨data, error⟩
    exact ⟨_, data, _, error, rfl⟩

theorem decoded_response_readable (documented : pydantic.Documented) (rpc : RpcObjectResponse pydantic entries)
    (response : FullObjectResponse) (made : pydantic.objectResponse entries = some response) :
    ObjectReadable entries := by
  obtain ⟨dataMade, _⟩ := (object_response_made_iff pydantic entries response).mp made
  have each (data : Entries) (present : entries.lookup (str "data") = some (.dict data)) :
      Absent data (str "content") ∧ ∀ variant, data.lookup (str "owner") ≠ some (.str variant) := by
    obtain ⟨null, _⟩ | ⟨other, same, rpcObject⟩ := rpc.data _ present
    cases same
    rw [optional, present] at dataMade
    obtain ⟨record, recordMade, _⟩ := Option.map_eq_some_iff.mp dataMade
    exact decoded_object_readable pydantic data documented rpcObject record recordMade
  exact ⟨fun data present => (each data present).1, fun data variant present => (each data present).2 variant⟩

theorem data_section_decodes (rpc : RpcObjectResponse pydantic entries) (readable : ObjectReadable entries) :
    ∃ data, optional entries (str "data") none (orNone (nested pydantic.objectData)) = some data ∧
      ∀ error, ObjectKept entries ⟨data, error⟩ := by
  cases present : entries.lookup (str "data") with
  | none =>
      refine ⟨none, ?_, ?_⟩
      · rw [optional, present]
        rfl
      · intro error value other
        rw [present] at other
        cases other
  | some value =>
      rcases rpc.data value present with null | ⟨data, same, rpcObject⟩
      · refine ⟨none, ?_, ?_⟩
        · rw [optional, present, null]
          rfl
        · intro error other otherPresent
          rw [present] at otherPresent
          cases otherPresent
          exact null
      · rw [same] at present
        have absent := readable.content data present
        obtain ⟨record, recordMade, noContent⟩ :=
          object_data_decodes pydantic data rpcObject absent fun variant => readable.owner data variant present
        refine ⟨some record, ?_, ?_⟩
        · rw [optional, present]
          change (pydantic.objectData data).map some = some (some record)
          rw [recordMade]
          rfl
        · intro error other otherPresent
          rw [present] at otherPresent
          cases otherPresent
          refine ⟨data, rfl, ?_⟩
          change Kept data (str "content") (IsOptional (IsNested ContentKept)) record.content
          rw [noContent]
          exact absent

theorem object_delivered_iff (documented : pydantic.Documented) (rpc : RpcObjectResponse pydantic entries) :
    (∃ response, pydantic.objectResponse entries = some response ∧ ObjectKept entries response) ↔
      ObjectReadable entries := by
  refine ⟨?_, ?_⟩
  · intro ⟨response, made, _⟩
    exact decoded_response_readable pydantic entries documented rpc response made
  · intro readable
    obtain ⟨error, errorEq⟩ := optional_total (str "error") none rpc.error
    obtain ⟨data, dataEq, kept⟩ := data_section_decodes pydantic entries rpc readable
    exact ⟨⟨data, error⟩, (object_response_made_iff pydantic entries _).mpr ⟨dataEq, errorEq⟩, kept error⟩

end

end PyIota
