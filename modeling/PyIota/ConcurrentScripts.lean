import PyIota.ClientScripts
import PyIota.ConcurrentBuilds

set_option autoImplicit false

namespace PyIota

open Coroutine Interleaving

-- The program calls no method that changes the transaction.
def Script.Quiet {α : Type} : Script α → Prop
  | .done _ => True
  | .method _ _ => False
  | .build _ next => ∀ result, (next result).Quiet
  | .ask _ next => ∀ result, (next result).Quiet
  | .wait _ _ _ _ _ _ next => ∀ result, (next result).Quiet

section

variable (pydantic : Pydantic)

theorem asked_leaves {α : Type} (method : Str) (params : Option (List Json)) (decode : Json → Except PyError α) :
    LeavesState (AsyncRpcTransport.request method params >>= fun result => Async.check (decode result)) := by
  apply leaves_bind _ _ (request_leaves method params)
  intro result
  exact leaves_check (decode result)

theorem coin_metadata_leaves (coinType : Str) : LeavesState (IotaClient.getCoinMetadata pydantic coinType) := by
  apply leaves_bind _ _ (request_leaves _ _)
  intro result
  cases result with
  | null => exact leaves_pure none
  | _ => exact leaves_check _

theorem execute_leaves (txBytes : Str) (signatures : List Str) (options : TransactionOptions) (requestType : Str) :
    LeavesState (IotaClient.executeTransactionBlock pydantic txBytes signatures options requestType) := by
  apply leaves_bind _ _ (request_leaves _ _)
  intro result
  apply leaves_bind _ _ (leaves_check _)
  intro response
  exact leaves_check response.orFailure

theorem api_call_leaves {α : Type} (call : ApiCall α) : LeavesState (call.async pydantic) := by
  cases call with
  | getRpcApiVersion => exact asked_leaves _ _ _
  | getChainIdentifier => exact request_leaves _ _
  | getReferenceGasPrice => exact asked_leaves _ _ _
  | getBalance owner coinType => exact asked_leaves _ _ _
  | getAllBalances owner => exact asked_leaves _ _ _
  | getCoins owner coinType cursor limit => exact coins_leaves pydantic.models owner coinType cursor limit
  | getCoinMetadata coinType => exact coin_metadata_leaves pydantic coinType
  | getTotalSupply coinType => exact asked_leaves _ _ _
  | getObject objectId options => exact object_leaves _ objectId options
  | multiGetObjects objectIds showContent showOwner showType => exact asked_leaves _ _ _
  | getOwnedObjects owner cursor limit objectFilter options => exact asked_leaves _ _ _
  | executeTransactionBlock txBytes signatures options requestType =>
      exact execute_leaves pydantic txBytes signatures options requestType
  | signAndExecuteTransaction signTransaction txBytes showEffects showEvents showObjectChanges showBalanceChanges =>
      exact leaves_bind _ _ (leaves_check _) fun signature => execute_leaves pydantic _ _ _ _
  | devInspectTransactionBlock sender txBytes => exact asked_leaves _ _ _
  | dryRunTransactionBlock txBytes => exact asked_leaves _ _ _
  | queryEvents query cursor limit descendingOrder =>
      exact leaves_bind _ _ (leaves_check _) fun queryDict => asked_leaves _ _ _

theorem poll_leaves (digest : Str) (options : Json) : LeavesState (IotaClient.poll pydantic digest options) := by
  apply leaves_handle
  · apply leaves_bind _ _ (request_leaves _ _)
    intro result
    apply leaves_bind _ _ (leaves_check _)
    intro response
    exact leaves_pure (some response)
  · intro error
    cases error.isRpcError with
    | true => exact leaves_pure none
    | false => exact leaves_raise error

theorem wait_leaves (digest : Str) (options : Json) (timeout pollInterval : Rat) (fuel : Nat) (elapsed : Rat) :
    LeavesState (IotaClient.waitLoop pydantic digest options timeout pollInterval fuel elapsed) := by
  induction fuel generalizing elapsed with
  | zero => exact leaves_pure none
  | succ fuel ih =>
      unfold IotaClient.waitLoop
      by_cases inTime : elapsed < timeout
      · rw [if_pos inTime]
        apply leaves_bind _ _ (poll_leaves pydantic digest options)
        intro found
        cases found with
        | some response => exact leaves_pure (some response)
        | none => exact ih (elapsed + pollInterval)
      · rw [if_neg inTime]
        exact leaves_raise _

theorem script_leaves {α : Type} (script : Script α) (quiet : script.Quiet) : LeavesState (script.async pydantic) := by
  induction script with
  | done result => exact leaves_check result
  | method body next _ => exact quiet.elim
  | build signer next ih =>
      exact leaves_bind _ _ (leaves_attempt _ (build_leaves pydantic.models signer)) fun result => ih result (quiet result)
  | ask call next ih =>
      exact leaves_bind _ _ (leaves_attempt _ (api_call_leaves pydantic call)) fun result => ih result (quiet result)
  | wait digest showEffects showEvents timeout pollInterval positive next ih =>
      exact leaves_bind _ _ (leaves_attempt _ (wait_leaves pydantic digest _ timeout pollInterval _ 0)) fun result =>
        ih result (quiet result)

def IsScript {α : Type} (program : AsyncMethod α) : Prop :=
  ∃ script : Script α, script.Quiet ∧ program = script.async pydantic

-- Programs that run beside one another on one transaction, none of them changing it, do
-- what each does alone on the sync client with the answers it was given.
theorem concurrent_scripts_alone {α : Type} (tx : Transaction) (pool : Pool Transaction PyError Request Answer α)
    (runs : Pool.Later (IsScript pydantic) (fun _ _ => False) ⟨tx, []⟩ pool) : pool.state = tx ∧
    ∀ thread ∈ pool.threads, ∃ script : Script α, thread.program = script.async pydantic ∧
      ∀ result, thread.task = .done result → ∃ node : Node,
        (∀ index exchange, thread.exchanged[index]? = some exchange →
          node ((thread.exchanged.take (index + 1)).map Prod.fst) = exchange.2) ∧
        (script.sync pydantic node).run ⟨tx, []⟩ = concluded result (thread.exchanged.map Prod.fst) := by
  have leave : ∀ program : AsyncMethod α, IsScript pydantic program → LeavesState program := by
    intro program isScript
    obtain ⟨script, quiet, rfl⟩ := isScript
    exact script_leaves pydantic script quiet
  have valid := pool_later_valid leave tx _ pool (fresh_pool_valid tx) runs
  refine ⟨(changes_nobody _ _ valid.changed).symm, ?_⟩
  intro thread member
  obtain ⟨⟨script, _, programEq⟩, beganLater⟩ := valid.began thread member
  have began : tx = thread.began := changes_nobody _ _ beganLater
  refine ⟨script, programEq, ?_⟩
  intro result over_
  have reached := (valid.threads thread member).reached
  rw [over_, programEq, ← began] at reached
  let node : Node := replay thread.exchanged (.error .httpError)
  refine ⟨node, replay_answers thread.exchanged (.error .httpError), ?_⟩
  rw [← script_mirrors pydantic node script tx []]
  exact undisturbed_alone (script.async pydantic) tx thread.exchanged result _ reached

end

def priceScript : Script Int := .ask .getReferenceGasPrice .done

theorem price_script_awaits : ∃ resume,
    (priceScript.async strictPydantic).start openBuilder = .await priceRequest openBuilder resume ∧
      resume priceOfOne openBuilder = .done (.ok 1 openBuilder) :=
  ⟨_, rfl, rfl⟩

theorem price_script_started (threads : List (Thread Transaction PyError Request Answer Int))
    (resume : Answer → Transaction → Task Transaction PyError Request Answer Int)
    (awaits : (priceScript.async strictPydantic).start openBuilder = .await priceRequest openBuilder resume) :
    Pool.Step (IsScript strictPydantic) (fun _ _ => False) ⟨openBuilder, threads⟩
      ⟨openBuilder, threads ++
        [⟨priceScript.async strictPydantic, openBuilder, [], .await priceRequest openBuilder resume⟩]⟩ := by
  have step : Pool.Step (IsScript strictPydantic) (fun _ _ => False) ⟨openBuilder, threads⟩ _ :=
    .start ⟨openBuilder, threads⟩ (priceScript.async strictPydantic) ⟨priceScript, fun _ => trivial, rfl⟩
  rw [awaits] at step
  exact step

-- Both ask for the price; the one that was started last is answered first.
theorem second_price_alone : ∃ script : Script Int, ∃ node : Node, node [priceRequest] = priceOfOne ∧
    (script.sync strictPydantic node).run ⟨openBuilder, []⟩ = .ok 1 ⟨openBuilder, [priceRequest]⟩ := by
  obtain ⟨resume, awaits, done⟩ := price_script_awaits
  let waiting : Thread Transaction PyError Request Answer Int :=
    ⟨priceScript.async strictPydantic, openBuilder, [], .await priceRequest openBuilder resume⟩
  let answered : Thread Transaction PyError Request Answer Int :=
    ⟨priceScript.async strictPydantic, openBuilder, [(priceRequest, priceOfOne)], resume priceOfOne openBuilder⟩
  have runs : Pool.Later (IsScript strictPydantic) (fun _ _ => False) ⟨openBuilder, []⟩
      ⟨left (resume priceOfOne openBuilder), [waiting, answered]⟩ :=
    .tail (.tail (.tail .refl (price_script_started [] resume awaits)) (price_script_started [waiting] resume awaits))
      (.answer ⟨openBuilder, [waiting, waiting]⟩ 1 waiting priceRequest openBuilder resume priceOfOne rfl rfl)
  obtain ⟨_, alone⟩ := concurrent_scripts_alone strictPydantic openBuilder _ runs
  obtain ⟨script, _, agrees⟩ := alone answered (by simp)
  obtain ⟨node, answers, result⟩ := agrees _ done
  exact ⟨script, node, answers 0 (priceRequest, priceOfOne) rfl, result⟩

end PyIota
