import PyIota.BuildRequests

set_option autoImplicit false

namespace PyIota

open Coroutine

-- The requests that hand the node a transaction to carry out.
def Request.isSubmission (request : Request) : Bool := request.method == str "iota_executeTransactionBlock"

def ApiCall.submits : {α : Type} → ApiCall α → Bool
  | _, .executeTransactionBlock _ _ _ _ => true
  | _, .signAndExecuteTransaction _ _ _ _ _ _ => true
  | _, _ => false

-- What the call is to submit: its one request, unless the signer refuses.
def ApiCall.submissions {α : Type} (call : ApiCall α) : List Request :=
  if call.submits then call.request.toOption.toList else []

section

variable (pydantic : Pydantic) (node : Node)

def Script.submissions {α : Type} : Script α → World Transaction Request → List Request
  | .done _, _ => []
  | .method body next, world =>
      let ended := Direct.ending (Direct.method body) world
      (next ended.1).submissions ended.2
  | .build signer next, world =>
      let ended := Direct.ending (Transaction.buildSync pydantic.models node signer) world
      (next ended.1).submissions ended.2
  | .ask call next, world =>
      let ended := Direct.ending (call.sync pydantic node) world
      call.submissions ++ (next ended.1).submissions ended.2
  | .wait digest showEffects showEvents timeout pollInterval _ next, world =>
      let ended := Direct.ending (SyncIotaClient.waitForTransaction pydantic node digest showEffects showEvents timeout
        pollInterval (pollLimit timeout pollInterval)) world
      (next ended.1).submissions ended.2

end

theorem call_submissions {α : Type} (call : ApiCall α) :
    call.request.toOption.toList.filter Request.isSubmission = call.submissions := by
  cases call with
  | signAndExecuteTransaction signTransaction txBytes showEffects showEvents showObjectChanges showBalanceChanges =>
      cases signed : signTransaction txBytes with
      | ok signature => simp only [ApiCall.request, ApiCall.submissions, signed]; rfl
      | error error => simp only [ApiCall.request, ApiCall.submissions, signed]; rfl
  | queryEvents query cursor limit descendingOrder =>
      cases asked : query.queryDict with
      | ok queryDict => simp only [ApiCall.request, ApiCall.submissions, asked]; rfl
      | error error => simp only [ApiCall.request, ApiCall.submissions, asked]; rfl
  | _ => rfl

section

variable (pydantic : Pydantic) (node : Node) (world : World Transaction Request)

theorem call_sends {α : Type} (call : ApiCall α) :
    Sends Request.isSubmission (call.sync pydantic node) world call.submissions := by
  obtain ⟨decode, asks⟩ := api_call_asks pydantic call
  rw [← call_submissions call]
  apply sends_settled _ _ world _ _ _ (asks node world)
  cases call.request with
  | ok request => rfl
  | error error => exact (List.append_nil _).symm

theorem build_plan_asks (models : Models) (signer : Option Ed25519Keypair) (request : Request)
    (planned : request ∈ buildPlan models node signer world) : request.isSubmission = false := by
  unfold buildPlan at planned
  cases chosen : senderOrSigner world.state.sender signer with
  | none => simp [chosen] at planned
  | some sender =>
      simp only [chosen, List.mem_append] at planned
      rcases planned with price | payment
      · unfold pricePlan at price
        by_cases explicit : world.state.gasPrice.isSome
        · simp [explicit] at price
        · rw [if_neg explicit, List.mem_singleton] at price
          subst price
          rfl
      · unfold paymentPlan at payment
        by_cases explicit : world.state.gasPayment.isSome
        · simp [explicit] at payment
        · rw [if_neg explicit, List.mem_cons, Option.mem_toList, Option.map_eq_some_iff] at payment
          rcases payment with rfl | ⟨coin, _, rfl⟩
          · rfl
          · rfl

theorem build_sends (signer : Option Ed25519Keypair) :
    Sends Request.isSubmission (Transaction.buildSync pydantic.models node signer) world [] := by
  obtain ⟨result, requests, settles, started, _⟩ := build_plans pydantic.models node signer world
  apply sends_other _ _ world _ requests result settles rfl
  intro request asked
  exact build_plan_asks node world pydantic.models signer request (started.subset asked)

theorem wait_sends (digest : Str) (showEffects showEvents : Bool) (timeout pollInterval : Rat)
    (positive : 0 < pollInterval) :
    Sends Request.isSubmission (SyncIotaClient.waitForTransaction pydantic node digest showEffects showEvents timeout
      pollInterval (pollLimit timeout pollInterval)) world [] := by
  obtain ⟨count, ending, settles⟩ :=
    wait_is_over pydantic node world digest showEffects showEvents timeout pollInterval positive
  apply sends_other _ _ world _ _ _ settles rfl
  intro request polled
  rw [List.eq_of_mem_replicate polled]
  rfl

theorem script_sends {α : Type} (script : Script α) :
    Sends Request.isSubmission (script.sync pydantic node) world (script.submissions pydantic node world) := by
  induction script generalizing world with
  | done result =>
      have nothing : ∀ request ∈ ([] : List Request), request.isSubmission = false := by simp
      exact sends_other _ _ world world [] result (settles_check result world) (List.append_nil _).symm nothing
  | method body next ih => exact sends_attempt_bind _ _ world _ [] _ (sends_method _ world body) (ih _ _)
  | build signer next ih => exact sends_attempt_bind _ _ world _ [] _ (build_sends pydantic node world signer) (ih _ _)
  | ask call next ih => exact sends_attempt_bind _ _ world _ _ _ (call_sends pydantic node world call) (ih _ _)
  | wait digest showEffects showEvents timeout pollInterval positive next ih =>
      have waited := wait_sends pydantic node world digest showEffects showEvents timeout pollInterval positive
      exact sends_attempt_bind _ _ world _ [] _ waited (ih _ _)

-- Whatever a program does and however it is answered, the node is sent the transactions
-- that its execute calls submit, each once and in their order, and no other.
theorem submitted_once {α : Type} (script : Script α) : ∃ result final requests,
    ClientsSettle (script.async pydantic) (script.sync pydantic node) node world result final ∧
      final.sent = world.sent ++ requests ∧
      requests.filter Request.isSubmission = script.submissions pydantic node world := by
  obtain ⟨requests, sent, submitted⟩ := script_sends pydantic node world script
  have settles := settles_ending (script.sync pydantic node) world
  exact ⟨_, _, requests, mirrored_settles _ _ node world _ _ (script_mirrors pydantic node script) settles, sent, submitted⟩

end

end PyIota
