import PyIota.ClientTransactions
import PyIota.Library.Polling

set_option autoImplicit false

namespace PyIota

open Coroutine Polling

section

variable (pydantic : Pydantic) (node : Node) (world : World Transaction Request)
variable (digest : Str) (showEffects showEvents : Bool) (timeout pollInterval : Rat)

def pollRequest : Request :=
  ⟨str "iota_getTransactionBlock", [.str digest, waitOptions showEffects showEvents]⟩

def afterPolls (count : Nat) : World Transaction Request :=
  ⟨world.state, world.sent ++ List.replicate count (pollRequest digest showEffects showEvents)⟩

def pollOutcome (count : Nat) : Except PyError TransactionResponse := do
  let result ← reply node (afterPolls world digest showEffects showEvents count).sent
    (pollRequest digest showEffects showEvents)
  construct pydantic.transactionResponse result

def waitResult : Ending PyError TransactionResponse → Except PyError (Option TransactionResponse)
  | .returned response => .ok (some response)
  | .raised error => .error error
  | .timedOut => .error (.timeoutError digest timeout)

-- Both clients make that many requests and stop, however long one lets them run.
def BothClientsEnd (count : Nat) (result : Except PyError (Option TransactionResponse)) : Prop :=
  ∀ fuel, count < fuel →
    (SyncIotaClient.waitForTransaction pydantic node digest showEffects showEvents timeout pollInterval fuel).run world =
        settled result (afterPolls world digest showEffects showEvents count) ∧
      drive node ((IotaClient.waitForTransaction pydantic digest showEffects showEvents timeout pollInterval fuel).start
        world.state) world.sent = settled result (afterPolls world digest showEffects showEvents count)

-- The first response, the first error that is no RpcError, or TimeoutError once
-- the polling time has reached the timeout.
def WaitEnds : Prop := ∃ count ending,
  EndsAfter PyError.isRpcError (pollOutcome pydantic node world digest showEffects showEvents) timeout pollInterval
      count ending ∧
    BothClientsEnd pydantic node world digest showEffects showEvents timeout pollInterval count
      (waitResult digest timeout ending)

theorem after_polls_succ (count : Nat) :
    afterPolls world digest showEffects showEvents (count + 1) =
      ⟨(afterPolls world digest showEffects showEvents count).state,
        (afterPolls world digest showEffects showEvents count).sent ++
          [pollRequest digest showEffects showEvents]⟩ := by
  unfold afterPolls
  rw [List.replicate_succ', List.append_assoc]

theorem poll_request_settles (count : Nat) :
    Settles (do
      let result ← SyncRpcTransport.request node (str "iota_getTransactionBlock")
        (some [.str digest, waitOptions showEffects showEvents])
      let response ← Direct.check (construct pydantic.transactionResponse result)
      return some response : SyncMethod (Option TransactionResponse))
      (afterPolls world digest showEffects showEvents count)
      ((pollOutcome pydantic node world digest showEffects showEvents count).map some)
      (afterPolls world digest showEffects showEvents (count + 1)) := by
  unfold pollOutcome
  rw [after_polls_succ, Fallible.map_bind]
  apply settles_bind _ _ _ _ _ _ (request_settles node _ _ _)
  intro result
  rw [Fallible.map_eq_bind]
  exact settles_bind _ _ _ _ _ _ (settles_check _ _) fun response => settles_pure (some response) _

theorem poll_returns (count : Nat) (response : TransactionResponse)
    (found : pollOutcome pydantic node world digest showEffects showEvents count = .ok response) :
    Settles (SyncIotaClient.poll pydantic node digest (waitOptions showEffects showEvents) pollInterval)
      (afterPolls world digest showEffects showEvents count) (.ok (some response))
      (afterPolls world digest showEffects showEvents (count + 1)) := by
  have requested := poll_request_settles pydantic node world digest showEffects showEvents count
  rw [found] at requested
  exact settles_handle_ok _ _ _ _ _ requested

theorem poll_raises (count : Nat) (error : PyError) (final : error.isRpcError = false)
    (failed : pollOutcome pydantic node world digest showEffects showEvents count = .error error) :
    Settles (SyncIotaClient.poll pydantic node digest (waitOptions showEffects showEvents) pollInterval)
      (afterPolls world digest showEffects showEvents count) (.error error)
      (afterPolls world digest showEffects showEvents (count + 1)) := by
  have requested := poll_request_settles pydantic node world digest showEffects showEvents count
  rw [failed] at requested
  apply settles_handle_error _ _ _ _ _ _ _ requested
  rw [final]
  exact settles_raise error _

theorem poll_goes_on (count : Nat) (nonNegative : 0 ≤ pollInterval)
    (retried : Retried PyError.isRpcError (pollOutcome pydantic node world digest showEffects showEvents count)) :
    Settles (SyncIotaClient.poll pydantic node digest (waitOptions showEffects showEvents) pollInterval)
      (afterPolls world digest showEffects showEvents count) (.ok none)
      (afterPolls world digest showEffects showEvents (count + 1)) := by
  have requested := poll_request_settles pydantic node world digest showEffects showEvents count
  cases outcome : pollOutcome pydantic node world digest showEffects showEvents count with
  | ok response =>
      rw [outcome] at retried
      exact retried.elim
  | error error =>
      rw [outcome] at retried requested
      apply settles_handle_error _ _ _ _ _ _ _ requested
      rw [if_pos (show error.isRpcError = true from retried), time_sleep_returns pollInterval nonNegative]
      exact settles_pure none _

-- By induction on the polls made: the elapsed time is their number times the interval.
theorem loop_after_polls (nonNegative : 0 ≤ pollInterval) (count : Nat)
    (pending : Pending PyError.isRpcError (pollOutcome pydantic node world digest showEffects showEvents) timeout
      pollInterval count) (fuel : Nat) :
    (SyncIotaClient.waitLoop pydantic node digest (waitOptions showEffects showEvents) timeout pollInterval
        (count + fuel) 0).run world =
      (SyncIotaClient.waitLoop pydantic node digest (waitOptions showEffects showEvents) timeout pollInterval fuel
        (count * pollInterval)).run (afterPolls world digest showEffects showEvents count) := by
  induction count generalizing fuel with
  | zero =>
      rw [Nat.zero_add, Nat.cast_zero, zero_mul]
      simp only [afterPolls, List.replicate_zero, List.append_nil]
  | succ count ih =>
      obtain ⟨before, inTime, retried⟩ := (pending_succ _ _ _ _ _).mp pending
      have elapsed : (count : Rat) * pollInterval + pollInterval = (count + 1 : Nat) * pollInterval := by
        push_cast
        ring
      rw [Nat.add_assoc, Nat.add_comm 1, ih before, SyncIotaClient.waitLoop, if_pos inTime]
      have polled := poll_goes_on pydantic node world digest showEffects showEvents pollInterval count nonNegative retried
      rw [settles_then _ _ _ _ _ polled, ← elapsed]

theorem loop_ends (nonNegative : 0 ≤ pollInterval) (count : Nat) (ending : Ending PyError TransactionResponse)
    (ends : EndsAfter PyError.isRpcError (pollOutcome pydantic node world digest showEffects showEvents) timeout
      pollInterval count ending) (fuel : Nat) (enough : count < fuel) :
    Settles (SyncIotaClient.waitForTransaction pydantic node digest showEffects showEvents timeout pollInterval fuel)
      world (waitResult digest timeout ending) (afterPolls world digest showEffects showEvents count) := by
  obtain ⟨more, rfl⟩ := Nat.exists_eq_add_of_lt enough
  unfold Settles SyncIotaClient.waitForTransaction
  cases ends with
  | returned count response pending inTime last =>
      rw [show count + 1 + more + 1 = count + (more + 1 + 1) by omega,
        loop_after_polls pydantic node world digest showEffects showEvents timeout pollInterval nonNegative count pending,
        SyncIotaClient.waitLoop, if_pos inTime]
      exact settles_next _ _ _ _ _ _ _ (poll_returns pydantic node world digest showEffects showEvents pollInterval count
        response last) (settles_pure _ _)
  | raised count error pending inTime last final =>
      rw [show count + 1 + more + 1 = count + (more + 1 + 1) by omega,
        loop_after_polls pydantic node world digest showEffects showEvents timeout pollInterval nonNegative count pending,
        SyncIotaClient.waitLoop, if_pos inTime]
      exact settles_fail _ _ _ _ _ (poll_raises pydantic node world digest showEffects showEvents pollInterval count
        error final last)
  | timedOut count pending late =>
      rw [Nat.add_assoc,
        loop_after_polls pydantic node world digest showEffects showEvents timeout pollInterval nonNegative count pending,
        SyncIotaClient.waitLoop, if_neg (not_lt_of_ge late)]
      exact settles_raise _ _

theorem wait_mirrors (nonNegative : 0 ≤ pollInterval) (fuel : Nat) :
    drive node ((IotaClient.waitForTransaction pydantic digest showEffects showEvents timeout pollInterval fuel).start
        world.state) world.sent =
      (SyncIotaClient.waitForTransaction pydantic node digest showEffects showEvents timeout pollInterval fuel).run
        world :=
  wait_loop_mirrors pydantic node digest _ timeout pollInterval nonNegative fuel 0 world.state world.sent

-- Every poll fails and no time is counted: however often the condition is tested, so
-- many requests have been made and the loop goes on.
theorem polls_for_ever (zero : pollInterval = 0) (positive : 0 < timeout)
    (all : ∀ count, Retried PyError.isRpcError
      (pollOutcome pydantic node world digest showEffects showEvents count)) (fuel : Nat) :
    Settles (SyncIotaClient.waitForTransaction pydantic node digest showEffects showEvents timeout pollInterval fuel)
      world (.ok none) (afterPolls world digest showEffects showEvents fuel) := by
  have pending := pending_for_ever PyError.isRpcError _ timeout pollInterval zero positive all fuel
  exact loop_after_polls pydantic node world digest showEffects showEvents timeout pollInterval (le_of_eq zero.symm) fuel
    pending 0

theorem both_clients_end (nonNegative : 0 ≤ pollInterval) (count : Nat) (ending : Ending PyError TransactionResponse)
    (ends : EndsAfter PyError.isRpcError (pollOutcome pydantic node world digest showEffects showEvents) timeout
      pollInterval count ending) :
    BothClientsEnd pydantic node world digest showEffects showEvents timeout pollInterval count
      (waitResult digest timeout ending) := by
  intro fuel enough
  have sync := loop_ends pydantic node world digest showEffects showEvents timeout pollInterval nonNegative count ending
    ends fuel enough
  rw [wait_mirrors pydantic node world digest showEffects showEvents timeout pollInterval nonNegative fuel]
  exact ⟨sync, sync⟩

theorem wait_ends_iff (nonNegative : 0 ≤ pollInterval) :
    WaitEnds pydantic node world digest showEffects showEvents timeout pollInterval ↔
      0 < pollInterval ∨ timeout ≤ 0 ∨ ∃ count,
        ¬ Retried PyError.isRpcError (pollOutcome pydantic node world digest showEffects showEvents count) := by
  rw [← ends_iff PyError.isRpcError _ timeout pollInterval nonNegative]
  refine ⟨?_, ?_⟩
  · intro ⟨count, ending, ends, _⟩
    exact ⟨count, ending, ends⟩
  · intro ⟨count, ending, ends⟩
    exact ⟨count, ending, ends,
      both_clients_end pydantic node world digest showEffects showEvents timeout pollInterval nonNegative count ending ends⟩

end

def unknownDigestNode : Node := fun _ => .ok (.dict [
  (str "jsonrpc", .str (str "2.0")),
  (str "id", .int 1),
  (str "error", .dict [
    (str "code", .int (-32602)), (str "message", .str (str "Could not find the referenced transaction"))])])

def freshWorld : World Transaction Request := ⟨{}, []⟩

theorem wait_ends_iff_default : WaitEnds strictPydantic unknownDigestNode freshWorld (str "TX") true false 30 (1 / 2) ↔
    0 < (1 / 2 : Rat) ∨ (30 : Rat) ≤ 0 ∨ ∃ count, ¬ Retried PyError.isRpcError
      (pollOutcome strictPydantic unknownDigestNode freshWorld (str "TX") true false count) :=
  wait_ends_iff strictPydantic unknownDigestNode freshWorld (str "TX") true false 30 (1 / 2) (by norm_num)

theorem zero_interval_polls_for_ever :
    (∀ fuel,
      (SyncIotaClient.waitForTransaction strictPydantic unknownDigestNode (str "TX") true false 30 0 fuel).run freshWorld =
          .ok none (afterPolls freshWorld (str "TX") true false fuel) ∧
        drive unknownDigestNode
            ((IotaClient.waitForTransaction strictPydantic (str "TX") true false 30 0 fuel).start freshWorld.state)
            freshWorld.sent = .ok none (afterPolls freshWorld (str "TX") true false fuel)) ∧
      ¬ WaitEnds strictPydantic unknownDigestNode freshWorld (str "TX") true false 30 0 := by
  have sync := polls_for_ever strictPydantic unknownDigestNode freshWorld (str "TX") true false 30 0 rfl (by norm_num)
    fun _ => rfl
  have async := wait_mirrors strictPydantic unknownDigestNode freshWorld (str "TX") true false 30 0 (le_refl 0)
  refine ⟨?_, ?_⟩
  · intro fuel
    exact ⟨sync fuel, (async fuel).trans (sync fuel)⟩
  · intro ⟨count, ending, ends, _⟩
    rcases (ends_iff _ _ _ _ (le_refl 0)).mp ⟨count, ending, ends⟩ with positive | passed | ⟨poll, final⟩
    · exact absurd positive (lt_irrefl 0)
    · exact absurd passed (by norm_num)
    · exact final rfl

end PyIota
