import PyIota.ResponseModels

set_option autoImplicit false

namespace PyIota

open Coroutine

structure TransactionOptions where
  showEffects : Bool := true
  showEvents : Bool := false
  showObjectChanges : Bool := false
  showBalanceChanges : Bool := false
  showRawTransaction : Bool := false

def TransactionOptions.json (show_ : TransactionOptions) : Json := .dict [
  (str "showEffects", .bool show_.showEffects),
  (str "showEvents", .bool show_.showEvents),
  (str "showObjectChanges", .bool show_.showObjectChanges),
  (str "showBalanceChanges", .bool show_.showBalanceChanges),
  (str "showRawTransaction", .bool show_.showRawTransaction)]

def TransactionResponse.orFailure (response : TransactionResponse) : Except PyError TransactionResponse :=
  match response.effects with
  | none => .ok response
  | some effects =>
      if effects.isSuccess then .ok response
      else .error (.transactionError response.digest effects.errorMessage)

def base64Digit (n : Nat) : CodePoint :=
  (str "ABCDEFGHIJKLMNOPQRSTUVWXYZabcdefghijklmnopqrstuvwxyz0123456789+/").getD n (cp '=')

def base64Encode : Bytes → Str
  | [] => []
  | [a] => [base64Digit (a.toNat / 4), base64Digit (a.toNat % 4 * 16), cp '=', cp '=']
  | [a, b] => [base64Digit (a.toNat / 4), base64Digit (a.toNat % 4 * 16 + b.toNat / 16),
      base64Digit (b.toNat % 16 * 4), cp '=']
  | a :: b :: c :: rest => base64Digit (a.toNat / 4) :: base64Digit (a.toNat % 4 * 16 + b.toNat / 16) ::
      base64Digit (b.toNat % 16 * 4 + c.toNat / 64) :: base64Digit (c.toNat % 64) :: base64Encode rest

def PyError.isRpcError : PyError → Bool
  | .rpcError _ _ _ => true
  | _ => false

def timeSleep (seconds : Rat) : Except PyError Unit :=
  if seconds < 0 then .error (.valueError (str "sleep length must be non-negative")) else .ok ()

section

variable (pydantic : Pydantic)

def IotaClient.executeTransactionBlock (txBytes : Str) (signatures : List Str) (show_ : TransactionOptions)
    (requestType : Str) : AsyncMethod TransactionResponse := do
  let result ← AsyncRpcTransport.request (str "iota_executeTransactionBlock")
    (some [.str txBytes, .list (signatures.map .str), show_.json, .str requestType])
  let response ← Async.check (construct pydantic.transactionResponse result)
  Async.check response.orFailure

-- signTransaction stands for the method of the signer.
def IotaClient.signAndExecuteTransaction (signTransaction : Bytes → Except PyError Str) (txBytes : Bytes)
    (showEffects showEvents showObjectChanges showBalanceChanges : Bool) : AsyncMethod TransactionResponse := do
  let signature ← Async.check (signTransaction txBytes)
  IotaClient.executeTransactionBlock pydantic (base64Encode txBytes) [signature]
    { showEffects, showEvents, showObjectChanges, showBalanceChanges } (str "WaitForLocalExecution")

def IotaClient.dryRunTransactionBlock (txBytes : Str) : AsyncMethod DryRunTransactionResponse := do
  let result ← AsyncRpcTransport.request (str "iota_dryRunTransactionBlock") (some [.str txBytes])
  Async.check (construct pydantic.dryRunTransactionResponse result)

def waitOptions (showEffects showEvents : Bool) : Json :=
  .dict [(str "showEffects", .bool showEffects), (str "showEvents", .bool showEvents)]

-- The try statement; none goes on with the loop. What asyncio.sleep lets happen
-- in between cannot be seen from here.
def IotaClient.poll (digest : Str) (options : Json) : AsyncMethod (Option TransactionResponse) :=
  Async.handle
    (do
      let result ← AsyncRpcTransport.request (str "iota_getTransactionBlock") (some [.str digest, options])
      let response ← Async.check (construct pydantic.transactionResponse result)
      return some response)
    fun error => if error.isRpcError then return none else Async.raise error

-- The while loop from a given elapsed time on, for at most fuel tests of its
-- condition; none is a loop that is still polling. Times are exact.
def IotaClient.waitLoop (digest : Str) (options : Json) (timeout pollInterval : Rat) :
    Nat → Rat → AsyncMethod (Option TransactionResponse)
  | 0, _ => return none
  | fuel + 1, elapsed =>
      if elapsed < timeout then do
        match ← IotaClient.poll pydantic digest options with
        | some response => return some response
        | none => IotaClient.waitLoop digest options timeout pollInterval fuel (elapsed + pollInterval)
      else Async.raise (.timeoutError digest timeout)

def IotaClient.waitForTransaction (digest : Str) (showEffects showEvents : Bool) (timeout pollInterval : Rat)
    (fuel : Nat) : AsyncMethod (Option TransactionResponse) :=
  IotaClient.waitLoop pydantic digest (waitOptions showEffects showEvents) timeout pollInterval fuel 0

-- get_object() with all the fields of its answer.
def IotaClient.getFullObject : Str → ShowOptions → AsyncMethod FullObjectData :=
  IotaClient.getObjectAs fun entries => orRefuse (pydantic.objectResponse entries)

variable (node : Node)

def SyncIotaClient.executeTransactionBlock (txBytes : Str) (signatures : List Str) (show_ : TransactionOptions)
    (requestType : Str) : SyncMethod TransactionResponse := do
  let result ← SyncRpcTransport.request node (str "iota_executeTransactionBlock")
    (some [.str txBytes, .list (signatures.map .str), show_.json, .str requestType])
  let response ← Direct.check (construct pydantic.transactionResponse result)
  Direct.check response.orFailure

def SyncIotaClient.signAndExecuteTransaction (signTransaction : Bytes → Except PyError Str) (txBytes : Bytes)
    (showEffects showEvents showObjectChanges showBalanceChanges : Bool) : SyncMethod TransactionResponse := do
  let signature ← Direct.check (signTransaction txBytes)
  SyncIotaClient.executeTransactionBlock pydantic node (base64Encode txBytes) [signature]
    { showEffects, showEvents, showObjectChanges, showBalanceChanges } (str "WaitForLocalExecution")

def SyncIotaClient.dryRunTransactionBlock (txBytes : Str) : SyncMethod DryRunTransactionResponse := do
  let result ← SyncRpcTransport.request node (str "iota_dryRunTransactionBlock") (some [.str txBytes])
  Direct.check (construct pydantic.dryRunTransactionResponse result)

def SyncIotaClient.poll (digest : Str) (options : Json) (pollInterval : Rat) :
    SyncMethod (Option TransactionResponse) :=
  Direct.handle
    (do
      let result ← SyncRpcTransport.request node (str "iota_getTransactionBlock") (some [.str digest, options])
      let response ← Direct.check (construct pydantic.transactionResponse result)
      return some response)
    fun error =>
      if error.isRpcError then do
        Direct.check (timeSleep pollInterval)
        return none
      else Direct.raise error

def SyncIotaClient.waitLoop (digest : Str) (options : Json) (timeout pollInterval : Rat) :
    Nat → Rat → SyncMethod (Option TransactionResponse)
  | 0, _ => return none
  | fuel + 1, elapsed =>
      if elapsed < timeout then do
        match ← SyncIotaClient.poll pydantic node digest options pollInterval with
        | some response => return some response
        | none => SyncIotaClient.waitLoop digest options timeout pollInterval fuel (elapsed + pollInterval)
      else Direct.raise (.timeoutError digest timeout)

def SyncIotaClient.waitForTransaction (digest : Str) (showEffects showEvents : Bool) (timeout pollInterval : Rat)
    (fuel : Nat) : SyncMethod (Option TransactionResponse) :=
  SyncIotaClient.waitLoop pydantic node digest (waitOptions showEffects showEvents) timeout pollInterval fuel 0

def SyncIotaClient.getFullObject : Str → ShowOptions → SyncMethod FullObjectData :=
  SyncIotaClient.getObjectAs (fun entries => orRefuse (pydantic.objectResponse entries)) node

theorem execute_mirrors (txBytes : Str) (signatures : List Str) (show_ : TransactionOptions) (requestType : Str) :
    Mirrors node (IotaClient.executeTransactionBlock pydantic txBytes signatures show_ requestType)
      (SyncIotaClient.executeTransactionBlock pydantic node txBytes signatures show_ requestType) := by
  apply mirrors_bind node _ _ _ _ (request_mirrors node _ _)
  intro result
  apply mirrors_bind node _ _ _ _ (mirrors_check node _)
  intro response
  exact mirrors_check node response.orFailure

theorem sign_and_execute_mirrors (signTransaction : Bytes → Except PyError Str) (txBytes : Bytes)
    (showEffects showEvents showObjectChanges showBalanceChanges : Bool) :
    Mirrors node
      (IotaClient.signAndExecuteTransaction pydantic signTransaction txBytes showEffects showEvents showObjectChanges
        showBalanceChanges)
      (SyncIotaClient.signAndExecuteTransaction pydantic node signTransaction txBytes showEffects showEvents
        showObjectChanges showBalanceChanges) := by
  apply mirrors_bind node _ _ _ _ (mirrors_check node _)
  intro signature
  exact execute_mirrors pydantic node _ _ _ _

theorem dry_run_mirrors (txBytes : Str) :
    Mirrors node (IotaClient.dryRunTransactionBlock pydantic txBytes)
      (SyncIotaClient.dryRunTransactionBlock pydantic node txBytes) := by
  apply mirrors_bind node _ _ _ _ (request_mirrors node _ _)
  intro result
  exact mirrors_check node _

theorem time_sleep_returns (seconds : Rat) (nonNegative : 0 ≤ seconds) : timeSleep seconds = .ok () :=
  if_neg (not_lt_of_ge nonNegative)

-- Only time.sleep refuses a negative interval.
theorem poll_mirrors (digest : Str) (options : Json) (pollInterval : Rat) (nonNegative : 0 ≤ pollInterval) :
    Mirrors node (IotaClient.poll pydantic digest options)
      (SyncIotaClient.poll pydantic node digest options pollInterval) := by
  apply mirrors_handle node
  · apply mirrors_bind node _ _ _ _ (request_mirrors node _ _)
    intro result
    apply mirrors_bind node _ _ _ _ (mirrors_check node _)
    intro response
    exact mirrors_pure node (some response)
  · intro error
    rw [time_sleep_returns pollInterval nonNegative]
    cases error.isRpcError with
    | true => exact mirrors_pure node none
    | false => exact mirrors_raise node error

theorem wait_loop_mirrors (digest : Str) (options : Json) (timeout pollInterval : Rat)
    (nonNegative : 0 ≤ pollInterval) (fuel : Nat) (elapsed : Rat) :
    Mirrors node (IotaClient.waitLoop pydantic digest options timeout pollInterval fuel elapsed)
      (SyncIotaClient.waitLoop pydantic node digest options timeout pollInterval fuel elapsed) := by
  induction fuel generalizing elapsed with
  | zero => exact mirrors_pure node none
  | succ fuel ih =>
      unfold IotaClient.waitLoop SyncIotaClient.waitLoop
      by_cases inTime : elapsed < timeout
      · rw [if_pos inTime, if_pos inTime]
        apply mirrors_bind node _ _ _ _ (poll_mirrors pydantic node digest options pollInterval nonNegative)
        intro found
        cases found with
        | some response => exact mirrors_pure node (some response)
        | none => exact ih (elapsed + pollInterval)
      · rw [if_neg inTime, if_neg inTime]
        exact mirrors_raise node _

def executeRequest (txBytes : Str) (signatures : List Str) (show_ : TransactionOptions) (requestType : Str) : Request :=
  ⟨str "iota_executeTransactionBlock", [.str txBytes, .list (signatures.map .str), show_.json, .str requestType]⟩

def dryRunRequest (txBytes : Str) : Request := ⟨str "iota_dryRunTransactionBlock", [.str txBytes]⟩

def objectRequest (objectId : Str) (show_ : ShowOptions) : Request :=
  ⟨str "iota_getObject", [.str objectId, show_.json]⟩

def reply (sent : List Request) (request : Request) : Except PyError Json := do
  let responseJson ← node (sent ++ [request])
  extractResult responseJson

theorem request_settles (method : Str) (params : List Json) (world : World Transaction Request) :
    Settles (SyncRpcTransport.request node method (some params)) world (reply node world.sent ⟨method, params⟩)
      ⟨world.state, world.sent ++ [⟨method, params⟩]⟩ := by
  apply settles_next _ _ _ _ _ _ _ (settles_send node ⟨method, params⟩ world)
  exact settles_bind _ _ _ _ _ _ (settles_check _ _) fun responseJson => settles_check (extractResult responseJson) _

theorem execute_settles (txBytes : Str) (signatures : List Str) (show_ : TransactionOptions) (requestType : Str)
    (world : World Transaction Request) :
    Settles (SyncIotaClient.executeTransactionBlock pydantic node txBytes signatures show_ requestType) world
      (do
        let result ← reply node world.sent (executeRequest txBytes signatures show_ requestType)
        let response ← construct pydantic.transactionResponse result
        response.orFailure)
      ⟨world.state, world.sent ++ [executeRequest txBytes signatures show_ requestType]⟩ := by
  apply settles_bind _ _ _ _ _ _ (request_settles node _ _ world)
  intro result
  apply settles_bind _ _ _ _ _ _ (settles_check _ _)
  intro response
  exact settles_check response.orFailure _

theorem object_settles {δ ε : Type} (objectResponse : List (Str × Json) → Except PyError (ObjectResponse δ ε))
    (objectId : Str) (show_ : ShowOptions) (world : World Transaction Request) :
    Settles (SyncIotaClient.getObjectAs objectResponse node objectId show_) world
      (do
        let result ← reply node world.sent (objectRequest objectId show_)
        let response ← result.unpack >>= objectResponse
        response.orNotFound objectId)
      ⟨world.state, world.sent ++ [objectRequest objectId show_]⟩ := by
  apply settles_bind _ _ _ _ _ _ (request_settles node _ _ world)
  intro result
  apply settles_bind _ _ _ _ _ _ (settles_check _ _)
  intro response
  exact settles_check (response.orNotFound objectId) _

end

end PyIota
