import PyIota.Settings
import PyIota.Library.Commuting

set_option autoImplicit false

namespace PyIota

open LastWrite Commuting

-- The transaction without its settings.
def Transaction.draft (tx : Transaction) : Transaction := { inputs := tx.inputs, commands := tx.commands }

def Step.call? : Step → Option Call
  | .call made => some made
  | _ => none

def Call.outcome (call : Call) (tx : Transaction) : Except PyError Ref :=
  match call.run.run tx with
  | .ok handle _ => .ok handle
  | .error error _ => .error error

def Transaction.outcomes (tx : Transaction) : List Step → List (Except PyError Ref)
  | [] => []
  | step :: rest => (step.call?.map fun call => call.outcome tx).toList ++ (tx.step step).outcomes rest

theorem add_input_commutes (callArg : CallArg) : Commutes Transaction.draft (addInput callArg) :=
  commutes_update _ (fun tx : Transaction => { tx with inputs := tx.inputs ++ [callArg] })
    (fun tx : Transaction => inputArg tx.inputs.length) (fun _ => rfl) fun _ => rfl

theorem add_command_commutes (cmd : Command) : Commutes Transaction.draft (addCommand cmd) :=
  commutes_update _ (fun tx : Transaction => { tx with commands := tx.commands ++ [cmd] })
    (fun tx : Transaction => (⟨tx.commands.length⟩ : TransactionResult)) (fun _ => rfl) fun _ => rfl

theorem pure_commutes (value : PyValue) (typeHint : Option Str) :
    Commutes Transaction.draft (Transaction.pure value typeHint) := by
  apply commutes_bind _ _ _ (commutes_of_except _ _)
  intro data
  exact add_input_commutes _

theorem object_commutes (objectId : Str) (version : Option Int) (digest : Option Str)
    (initialSharedVersion : Option Int) (mutable : Bool) :
    Commutes Transaction.draft (Transaction.object objectId version digest initialSharedVersion mutable) := by
  unfold Transaction.object
  split
  · apply commutes_bind _ _ _ (commutes_of_except _ _)
    intro objBytes
    exact add_input_commutes _
  · split
    · apply commutes_bind _ _ _ (commutes_of_except _ _)
      intro objBytes
      apply commutes_bind _ _ _ (commutes_of_except _ _)
      intro digestBytes
      exact add_input_commutes _
    · exact commutes_throw _ _

theorem resolve_recipient_commutes (recipient : Recipient) :
    Commutes Transaction.draft (resolveRecipient recipient) := by
  cases recipient with
  | address address => exact pure_commutes _ _
  | ref ref => exact commutes_pure _ _

theorem resolve_amount_commutes (amount : Amount) : Commutes Transaction.draft (resolveAmount amount) := by
  cases amount with
  | int value => exact pure_commutes _ _
  | ref ref => exact commutes_pure _ _

theorem resolve_amounts_commutes (amounts : List Amount) : Commutes Transaction.draft (resolveAmounts amounts) := by
  induction amounts with
  | nil => exact commutes_pure _ _
  | cons amount amounts ih =>
      apply commutes_bind _ _ _ (resolve_amount_commutes amount)
      intro arg
      apply commutes_bind _ _ _ ih
      intro args
      exact commutes_pure _ _

theorem move_call_commutes (target : Str) (arguments : Option (List Ref)) (typeArguments : Option (List Str)) :
    Commutes Transaction.draft (Transaction.moveCall target arguments typeArguments) := by
  unfold Transaction.moveCall
  split
  · apply commutes_bind _ _ _ (commutes_of_except _ _)
    intro packageBytes
    exact add_command_commutes _
  · exact commutes_throw _ _

theorem call_commutes (call : Call) : Commutes Transaction.draft call.run := by
  cases call with
  | pure value typeHint =>
      exact commutes_bind _ _ _ (pure_commutes value typeHint) fun _ => commutes_pure _ _
  | object objectId version digest initialSharedVersion mutable =>
      exact commutes_bind _ _ _ (object_commutes _ _ _ _ _) fun _ => commutes_pure _ _
  | transferObjects objects recipient =>
      apply commutes_bind _ _ _ _ fun _ => commutes_pure _ _
      exact commutes_bind _ _ _ (resolve_recipient_commutes recipient) fun _ => add_command_commutes _
  | splitCoins coin amounts =>
      apply commutes_bind _ _ _ _ fun _ => commutes_pure _ _
      exact commutes_bind _ _ _ (resolve_amounts_commutes amounts) fun _ => add_command_commutes _
  | mergeCoins destination sources =>
      exact commutes_bind _ _ _ (add_command_commutes _) fun _ => commutes_pure _ _
  | moveCall target arguments typeArguments =>
      exact commutes_bind _ _ _ (move_call_commutes _ _ _) fun _ => commutes_pure _ _

theorem outcome_draft (call : Call) (tx : Transaction) : call.outcome tx.draft = call.outcome tx := by
  unfold Call.outcome
  rw [call_commutes call tx]
  cases call.run.run tx <;> rfl

theorem after_draft (call : Call) (tx : Transaction) : tx.draft.after call = (tx.after call).draft := by
  unfold Transaction.after
  rw [call_commutes call tx]
  cases call.run.run tx <;> rfl

theorem step_draft (tx : Transaction) (step : Step) :
    (tx.step step).draft = (step.call?.map tx.draft.after).getD tx.draft := by
  cases step with
  | call made =>
      rw [step_call, ← after_draft]
      rfl
  | _ => rfl

theorem steps_draft (steps : List Step) (tx : Transaction) :
    (tx.steps steps).draft = (steps.filterMap Step.call?).foldl Transaction.after tx.draft :=
  erased_run Transaction.draft Transaction.step Step.call? Transaction.after step_draft steps tx

-- By induction on the steps: a setter adds no outcome and changes no later one.
theorem outcomes_draft (steps : List Step) (tx : Transaction) :
    tx.outcomes steps = tx.draft.outcomes ((steps.filterMap Step.call?).map Step.call) := by
  induction steps generalizing tx with
  | nil => rfl
  | cons step steps ih =>
      rw [Transaction.outcomes, ih (tx.step step), step_draft]
      cases step with
      | call made =>
          rw [show (Step.call made :: steps).filterMap Step.call? = made :: steps.filterMap Step.call? from rfl,
            List.map_cons, Transaction.outcomes, step_call]
          simp only [Step.call?, Option.map_some, Option.getD_some, outcome_draft]
      | _ => rfl

theorem same_transaction (tx other : Transaction) (draft : tx.draft = other.draft)
    (gasBudget : tx.gasBudget = other.gasBudget) (gasPrice : tx.gasPrice = other.gasPrice)
    (gasPayment : tx.gasPayment = other.gasPayment) (sender : tx.sender = other.sender) : tx = other := by
  cases tx
  cases other
  simp_all [Transaction.draft]

-- Wherever the setters stand among the builder calls, the calls return the same and
-- the transaction is the same in the end.
theorem settings_order_free (steps others : List Step)
    (calls : steps.filterMap Step.call? = others.filterMap Step.call?)
    (sender : last Step.sender? steps = last Step.sender? others)
    (gasBudget : last Step.gasBudget? steps = last Step.gasBudget? others)
    (gasPrice : last Step.gasPrice? steps = last Step.gasPrice? others)
    (gasPayment : last Step.gasPayment? steps = last Step.gasPayment? others) :
    Transaction.steps {} steps = Transaction.steps {} others ∧
      Transaction.outcomes {} steps = Transaction.outcomes {} others := by
  refine ⟨?_, ?_⟩
  · apply same_transaction
    · rw [steps_draft, steps_draft, calls]
    · rw [gas_budget_after_steps, gas_budget_after_steps, gasBudget]
    · rw [gas_price_after_steps, gas_price_after_steps, gasPrice]
    · rw [gas_payment_after_steps, gas_payment_after_steps, gasPayment]
    · rw [sender_after_steps, sender_after_steps, sender]
  · rw [outcomes_draft steps, outcomes_draft others, calls]

def settingsFirst : List Step := [
  .setGasPayment [],
  .setGasPrice 1,
  .setGasBudget 2,
  .setSender senderOfOnes,
  .call (.pure (.int 7) (some (str "u8"))),
  .call (.splitCoins (.argument Transaction.gas) [.ref (.argument (inputArg 0))])]

theorem split_order_free : Transaction.steps {} splitSteps = Transaction.steps {} settingsFirst ∧
    Transaction.outcomes {} splitSteps = Transaction.outcomes {} settingsFirst :=
  settings_order_free splitSteps settingsFirst rfl rfl rfl rfl rfl

end PyIota
