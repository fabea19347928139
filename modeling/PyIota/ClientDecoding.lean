import PyIota.ResponseDecoding

set_option autoImplicit false

namespace PyIota

open Coroutine Polling

inductive DecodingCall where
  | executeTransactionBlock (txBytes : Str) (signatures : List Str) (show_ : TransactionOptions) (requestType : Str)
  | signAndExecuteTransaction (signTransaction : Bytes → Except PyError Str) (txBytes : Bytes)
      (showEffects showEvents showObjectChanges showBalanceChanges : Bool)
  | waitForTransaction (digest : Str) (showEffects showEvents : Bool) (timeout pollInterval : Rat)
  | dryRunTransactionBlock (txBytes : Str)
  | getObject (objectId : Str) (show_ : ShowOptions)

section

variable (pydantic : Pydantic) (node : Node) (world : World Transaction Request) (entries : Entries)

-- The result is the answer to the request of the call, or to its poll after
-- others that ended in an RpcError, with an interval one can sleep for.
def DecodingCall.Answered : DecodingCall → Prop
  | .executeTransactionBlock txBytes signatures show_ requestType =>
      reply node world.sent (executeRequest txBytes signatures show_ requestType) = .ok (.dict entries)
  | .signAndExecuteTransaction signTransaction txBytes showEffects showEvents showObjectChanges showBalanceChanges =>
      ∃ signature, signTransaction txBytes = .ok signature ∧
        reply node world.sent (executeRequest (base64Encode txBytes) [signature]
          { showEffects, showEvents, showObjectChanges, showBalanceChanges } (str "WaitForLocalExecution")) =
            .ok (.dict entries)
  | .waitForTransaction digest showEffects showEvents timeout pollInterval =>
      0 ≤ pollInterval ∧ ∃ count : Nat,
        Pending PyError.isRpcError (pollOutcome pydantic node world digest showEffects showEvents) timeout pollInterval
            count ∧
          count * pollInterval < timeout ∧
          reply node (afterPolls world digest showEffects showEvents count).sent
            (pollRequest digest showEffects showEvents) = .ok (.dict entries)
  | .dryRunTransactionBlock txBytes => reply node world.sent (dryRunRequest txBytes) = .ok (.dict entries)
  | .getObject objectId show_ => reply node world.sent (objectRequest objectId show_) = .ok (.dict entries)

def DecodingCall.Conforms : DecodingCall → Prop
  | .dryRunTransactionBlock _ => CamelCase entries
  | .getObject _ _ => RpcObjectResponse pydantic entries
  | _ => RpcResponse pydantic entries

def BothSettle {α : Type} (async : AsyncMethod α) (sync : SyncMethod α) (result : Except PyError α) : Prop :=
  ∃ final, Settles sync world result final ∧ drive node (async.start world.state) world.sent = settled result final

-- The result decodes to a record that keeps all its sections, and either client
-- returns that record, or raises what the record itself calls for.
def DecodingCall.Delivers : DecodingCall → Prop
  | .executeTransactionBlock txBytes signatures show_ requestType =>
      ∃ response, pydantic.transactionResponse entries = some response ∧ ResponseKept entries response ∧
        BothSettle node world (IotaClient.executeTransactionBlock pydantic txBytes signatures show_ requestType)
          (SyncIotaClient.executeTransactionBlock pydantic node txBytes signatures show_ requestType)
          response.orFailure
  | .signAndExecuteTransaction signTransaction txBytes showEffects showEvents showObjectChanges showBalanceChanges =>
      ∃ response, pydantic.transactionResponse entries = some response ∧ ResponseKept entries response ∧
        BothSettle node world
          (IotaClient.signAndExecuteTransaction pydantic signTransaction txBytes showEffects showEvents
            showObjectChanges showBalanceChanges)
          (SyncIotaClient.signAndExecuteTransaction pydantic node signTransaction txBytes showEffects showEvents
            showObjectChanges showBalanceChanges)
          response.orFailure
  | .waitForTransaction digest showEffects showEvents timeout pollInterval =>
      ∃ response, pydantic.transactionResponse entries = some response ∧ ResponseKept entries response ∧
        ∃ count, BothClientsEnd pydantic node world digest showEffects showEvents timeout pollInterval count
          (.ok (some response))
  | .dryRunTransactionBlock txBytes =>
      ∃ response, pydantic.dryRunTransactionResponse entries = some response ∧ DryRunKept entries response ∧
        BothSettle node world (IotaClient.dryRunTransactionBlock pydantic txBytes)
          (SyncIotaClient.dryRunTransactionBlock pydantic node txBytes) (.ok response)
  | .getObject objectId show_ =>
      ∃ response, pydantic.objectResponse entries = some response ∧ ObjectKept entries response ∧
        BothSettle node world (IotaClient.getFullObject pydantic objectId show_)
          (SyncIotaClient.getFullObject pydantic node objectId show_) (response.orNotFound objectId)

def DecodingCall.Readable : DecodingCall → Prop
  | .dryRunTransactionBlock _ => False
  | .getObject _ _ => ObjectReadable entries
  | _ => ResponseReadable entries

theorem both_settle {α : Type} (async : AsyncMethod α) (sync : SyncMethod α) (result : Except PyError α)
    (final : World Transaction Request) (mirrors : Mirrors node async sync) (settles : Settles sync world result final) :
    BothSettle node world async sync result :=
  ⟨final, settles, (mirrors world.state world.sent).trans settles⟩

theorem construct_made {α : Type} (model : Entries → Option α) (record : α) (made : model entries = some record) :
    construct model (.dict entries) = .ok record := by
  change orRefuse (model entries) = .ok record
  rw [made]
  rfl

theorem execute_both_settle (txBytes : Str) (signatures : List Str) (show_ : TransactionOptions) (requestType : Str)
    (answered : reply node world.sent (executeRequest txBytes signatures show_ requestType) = .ok (.dict entries))
    (response : TransactionResponse) (made : pydantic.transactionResponse entries = some response) :
    ∃ final, Settles (SyncIotaClient.executeTransactionBlock pydantic node txBytes signatures show_ requestType) world
      response.orFailure final := by
  have settles := execute_settles pydantic node txBytes signatures show_ requestType world
  rw [answered] at settles
  change Settles _ _ (construct pydantic.transactionResponse (.dict entries) >>= _) _ at settles
  rw [construct_made entries _ response made] at settles
  exact ⟨_, settles⟩

theorem response_delivered_iff (documented : pydantic.Documented) (rpc : RpcResponse pydantic entries)
    (client : TransactionResponse → Prop)
    (reached : ∀ response, pydantic.transactionResponse entries = some response → client response) :
    (∃ response, pydantic.transactionResponse entries = some response ∧ ResponseKept entries response ∧
      client response) ↔ ResponseReadable entries := by
  refine ⟨?_, ?_⟩
  · intro ⟨response, made, kept, _⟩
    exact (response_kept_iff pydantic entries documented rpc response made).mp kept
  · intro readable
    obtain ⟨response, made⟩ := response_decodes pydantic entries rpc
    exact ⟨response, made, (response_kept_iff pydantic entries documented rpc response made).mpr readable,
      reached response made⟩

theorem wait_both_end (digest : Str) (showEffects showEvents : Bool) (timeout pollInterval : Rat)
    (nonNegative : 0 ≤ pollInterval) (count : Nat)
    (pending : Pending PyError.isRpcError (pollOutcome pydantic node world digest showEffects showEvents) timeout
      pollInterval count)
    (inTime : count * pollInterval < timeout)
    (answered : reply node (afterPolls world digest showEffects showEvents count).sent
      (pollRequest digest showEffects showEvents) = .ok (.dict entries))
    (response : TransactionResponse) (made : pydantic.transactionResponse entries = some response) :
    BothClientsEnd pydantic node world digest showEffects showEvents timeout pollInterval (count + 1)
      (.ok (some response)) := by
  have found : pollOutcome pydantic node world digest showEffects showEvents count = .ok response := by
    rw [pollOutcome, answered]
    exact construct_made entries _ response made
  exact both_clients_end pydantic node world digest showEffects showEvents timeout pollInterval nonNegative _ _
    (.returned count response pending inTime found)

theorem call_delivers_iff (documented : pydantic.Documented) (call : DecodingCall)
    (conforms : call.Conforms pydantic entries) (answered : call.Answered pydantic node world entries) :
    call.Delivers pydantic node world entries ↔ call.Readable entries := by
  cases call with
  | executeTransactionBlock txBytes signatures show_ requestType =>
      apply response_delivered_iff pydantic entries documented conforms
      intro response made
      obtain ⟨final, settles⟩ := execute_both_settle pydantic node world entries _ _ _ _ answered response made
      exact both_settle node world _ _ _ final (execute_mirrors pydantic node _ _ _ _) settles
  | signAndExecuteTransaction signTransaction txBytes showEffects showEvents showObjectChanges showBalanceChanges =>
      obtain ⟨signature, signed, answered⟩ := answered
      apply response_delivered_iff pydantic entries documented conforms
      intro response made
      obtain ⟨final, settles⟩ := execute_both_settle pydantic node world entries _ _ _ _ answered response made
      have signs : Settles (Direct.check (signTransaction txBytes) : SyncMethod Str) world (.ok signature) world := by
        rw [← signed]
        exact settles_check _ world
      have mirrors := sign_and_execute_mirrors pydantic node signTransaction txBytes showEffects showEvents
        showObjectChanges showBalanceChanges
      exact both_settle node world _ _ _ final mirrors (settles_next _ _ _ _ _ _ _ signs settles)
  | waitForTransaction digest showEffects showEvents timeout pollInterval =>
      obtain ⟨nonNegative, count, pending, inTime, answered⟩ := answered
      apply response_delivered_iff pydantic entries documented conforms
      intro response made
      exact ⟨count + 1, wait_both_end pydantic node world entries digest showEffects showEvents timeout pollInterval
        nonNegative count pending inTime answered response made⟩
  | dryRunTransactionBlock txBytes =>
      refine ⟨?_, ?_⟩
      · intro ⟨response, made, _⟩
        rw [dry_run_refused pydantic entries conforms] at made
        cases made
      · exact False.elim
  | getObject objectId show_ =>
      rw [DecodingCall.Readable, ← object_delivered_iff pydantic entries documented conforms]
      refine ⟨?_, ?_⟩
      · intro ⟨response, made, kept, _⟩
        exact ⟨response, made, kept⟩
      · intro ⟨response, made, kept⟩
        refine ⟨response, made, kept, ?_⟩
        have settles := object_settles node (fun entries => orRefuse (pydantic.objectResponse entries)) objectId show_ world
        rw [show reply node world.sent (objectRequest objectId show_) = _ from answered] at settles
        change Settles _ _ (construct pydantic.objectResponse (.dict entries) >>= _) _ at settles
        rw [construct_made entries _ response made] at settles
        exact both_settle node world _ _ _ _ (object_mirrors node _ objectId show_) settles

end

theorem strict_documented : strictPydantic.Documented := by
  refine ⟨?_, ?_, ?_⟩
  · intro value s made
    cases value with
    | str _ =>
        cases made
        rfl
    | _ => cases made
  · intro value entries made
    cases value with
    | dict _ =>
        cases made
        rfl
    | _ => cases made
  · intro s
    rfl

def answering (entries : Entries) : Node := fun _ =>
  .ok (.dict [(str "jsonrpc", .str (str "2.0")), (str "id", .int 1), (str "result", .dict entries)])

def succeeded : Entries := [(str "status", .str (str "success"))]

def gasUsed : Entries := [
  (str "computationCost", .str (str "1000000")),
  (str "storageCost", .str (str "2000000")),
  (str "storageRebate", .str (str "500000"))]

def bareResult : Entries :=
  [(str "digest", .str (str "TX_DIGEST_ABC123")), (str "effects", .dict [(str "status", .dict succeeded)])]

def resultWithGas : Entries := [
  (str "digest", .str (str "TX_DIGEST_ABC123")),
  (str "effects", .dict [(str "status", .dict succeeded), (str "gasUsed", .dict gasUsed)])]

def executeCall : DecodingCall := .executeTransactionBlock [] [] {} (str "WaitForLocalExecution")

theorem missing_accepted {α : Type} (entries : Entries) (key : Str) (validate : Json → Option α)
    (missing : entries.lookup key = none) : Accepted entries key validate := by
  intro value present
  rw [missing] at present
  cases present

-- A successful execution, whatever else its effects say about the gas.
theorem execution_conforms (effects : Entries) (camelCase : CamelCase effects)
    (status : effects.lookup (str "status") = some (.dict succeeded))
    (created : effects.lookup (str "created") = none) (mutated : effects.lookup (str "mutated") = none)
    (deleted : effects.lookup (str "deleted") = none) :
    RpcResponse strictPydantic [(str "digest", .str (str "TX_DIGEST_ABC123")), (str "effects", .dict effects)] := by
  refine ⟨?_, ?_, ?_, ?_, ?_⟩
  · intro entry member
    rcases List.mem_pair.mp member with rfl | rfl
    · exact (by decide : cp '_' ∉ str "digest")
    · exact (by decide : cp '_' ∉ str "effects")
  · exact ⟨_, rfl⟩
  · intro value present
    cases present
    refine Or.inr ⟨effects, rfl, camelCase, ⟨succeeded, ?_⟩, missing_accepted _ _ _ created,
      missing_accepted _ _ _ mutated, missing_accepted _ _ _ deleted⟩
    rw [required, status]
    rfl
  · exact missing_accepted _ _ _ rfl
  · exact missing_accepted _ _ _ rfl

theorem call_delivers_iff_bare :
    executeCall.Delivers strictPydantic (answering bareResult) freshWorld bareResult ↔ executeCall.Readable bareResult :=
  call_delivers_iff strictPydantic (answering bareResult) freshWorld bareResult strict_documented executeCall
    (execution_conforms _ (by unfold CamelCase; decide) rfl rfl rfl rfl) rfl

-- The response the unit tests mock: its gasUsed comes out as None.
theorem gas_used_lost :
    executeCall.Conforms strictPydantic resultWithGas ∧
      executeCall.Answered strictPydantic (answering resultWithGas) freshWorld resultWithGas ∧
      (∃ response effects, strictPydantic.transactionResponse resultWithGas = some response ∧
        response.effects = some effects ∧ effects.gasUsed = none) ∧
      ¬ executeCall.Delivers strictPydantic (answering resultWithGas) freshWorld resultWithGas := by
  have conforms : RpcResponse strictPydantic resultWithGas :=
    execution_conforms _ (by unfold CamelCase; decide) rfl rfl rfl rfl
  refine ⟨conforms, rfl, ⟨_, _, rfl, rfl, rfl⟩, ?_⟩
  intro ⟨response, made, kept, _⟩
  have readable := (response_kept_iff strictPydantic resultWithGas strict_documented conforms response made).mp kept
  have null := (readable.effects _ rfl).gasUsed (.dict gasUsed) rfl
  cases null

end PyIota
