import PyIota.CleanSlots
import PyIota.CommandEncoding
import PyIota.Library.LastWrite

set_option autoImplicit false

namespace PyIota

open Coroutine LastWrite

inductive Step where
  | call (call : Call)
  | setSender (address : Str)
  | setGasBudget (budget : Int)
  | setGasPrice (price : Int)
  | setGasPayment (coins : List Json)

def Step.run : Step → Builder Unit
  | .call builderCall => do
      let _ ← builderCall.run
      return ()
  | .setSender address => Transaction.setSender address
  | .setGasBudget budget => Transaction.setGasBudget budget
  | .setGasPrice price => Transaction.setGasPrice price
  | .setGasPayment coins => Transaction.setGasPayment coins

-- The transaction as the step leaves it; the caller goes on after an exception.
def Transaction.step (tx : Transaction) (step : Step) : Transaction :=
  match step.run.run tx with
  | .ok _ next => next
  | .error _ next => next

def Transaction.steps (tx : Transaction) (steps : List Step) : Transaction := steps.foldl Transaction.step tx

def Step.sender? : Step → Option Str
  | .setSender address => some address
  | _ => none

def Step.gasBudget? : Step → Option Int
  | .setGasBudget budget => some budget
  | _ => none

def Step.gasPrice? : Step → Option Int
  | .setGasPrice price => some price
  | _ => none

def Step.gasPayment? : Step → Option (List Json)
  | .setGasPayment coins => some coins
  | _ => none

theorem step_call (tx : Transaction) (call : Call) : tx.step (.call call) = tx.after call := by
  unfold Transaction.step Transaction.after Step.run
  simp only [EStateM.run_bind]
  cases call.run.run tx <;> rfl

theorem after_extends (tx : Transaction) (call : Call) : ∃ added made, tx.after call = tx.extend added made := by
  have outcome := call_outcome tx call
  unfold Transaction.after
  cases run : call.run.run tx with
  | ok handle next =>
      rw [run] at outcome
      obtain ⟨_, added, made, nextEq, _⟩ := outcome
      exact ⟨added, made, nextEq⟩
  | error error next =>
      rw [run] at outcome
      obtain ⟨added, nextEq, _⟩ := outcome
      exact ⟨added, [], nextEq⟩

theorem setting_overwrites {α : Type} (field : Transaction → Option α) (written : Step → Option α)
    (call : ∀ (tx : Transaction) call added made, field (tx.extend added made) = (written (.call call)).or (field tx))
    (sender : ∀ tx address, field (tx.step (.setSender address)) = (written (.setSender address)).or (field tx))
    (budget : ∀ tx budget, field (tx.step (.setGasBudget budget)) = (written (.setGasBudget budget)).or (field tx))
    (price : ∀ tx price, field (tx.step (.setGasPrice price)) = (written (.setGasPrice price)).or (field tx))
    (payment : ∀ tx coins, field (tx.step (.setGasPayment coins)) = (written (.setGasPayment coins)).or (field tx)) :
    Overwrites Transaction.step field written := by
  intro tx step
  cases step with
  | call made =>
      obtain ⟨added, commands, afterEq⟩ := after_extends tx made
      rw [step_call, afterEq]
      exact call tx made added commands
  | setSender address => exact sender tx address
  | setGasBudget value => exact budget tx value
  | setGasPrice value => exact price tx value
  | setGasPayment coins => exact payment tx coins

theorem sender_after_steps (steps : List Step) : (Transaction.steps {} steps).sender = last Step.sender? steps :=
  field_after_fresh_run Transaction.step Transaction.sender Step.sender?
    (setting_overwrites _ _ (fun _ _ _ _ => rfl) (fun _ _ => rfl) (fun _ _ => rfl) (fun _ _ => rfl) fun _ _ => rfl)
    steps {} rfl

theorem gas_budget_after_steps (steps : List Step) :
    (Transaction.steps {} steps).gasBudget = last Step.gasBudget? steps :=
  field_after_fresh_run Transaction.step Transaction.gasBudget Step.gasBudget?
    (setting_overwrites _ _ (fun _ _ _ _ => rfl) (fun _ _ => rfl) (fun _ _ => rfl) (fun _ _ => rfl) fun _ _ => rfl)
    steps {} rfl

theorem gas_price_after_steps (steps : List Step) :
    (Transaction.steps {} steps).gasPrice = last Step.gasPrice? steps :=
  field_after_fresh_run Transaction.step Transaction.gasPrice Step.gasPrice?
    (setting_overwrites _ _ (fun _ _ _ _ => rfl) (fun _ _ => rfl) (fun _ _ => rfl) (fun _ _ => rfl) fun _ _ => rfl)
    steps {} rfl

theorem gas_payment_after_steps (steps : List Step) :
    (Transaction.steps {} steps).gasPayment = last Step.gasPayment? steps :=
  field_after_fresh_run Transaction.step Transaction.gasPayment Step.gasPayment?
    (setting_overwrites _ _ (fun _ _ _ _ => rfl) (fun _ _ => rfl) (fun _ _ => rfl) (fun _ _ => rfl) fun _ _ => rfl)
    steps {} rfl

theorem well_formed_build_decodes (models : Models) (node : Node) (world final : World Transaction Request)
    (signer : Option Ed25519Keypair) (txData : TransactionData) (bytes : Bytes) (valid : world.state.WellFormed)
    (clean : CleanSettings models node world signer)
    (run : (Transaction.transactionDataSync models node signer).run world = .ok txData final)
    (serialized : txData.serialize = .ok bytes) (short : bytes.length < 2 ^ 64) :
    ∃ value, txData.Denotes value ∧ DecodesTo bytes value := by
  have layout := built_layout models node world final signer MoveType txData valid clean run
  exact decodes_serialized txData layout bytes serialized short

section

variable (models : Models) (node : Node) (steps : List Step) (signer : Option Ed25519Keypair) (sent : List Request)

def afterSteps : World Transaction Request := ⟨Transaction.steps {} steps, sent⟩

theorem explicit_gas_price (world final : World Transaction Request) (price used : Int)
    (explicit : world.state.gasPrice = some price)
    (run : (Transaction.gasPriceOrReferenceSync node).run world = .ok used final) : used = price := by
  obtain ⟨self, middle, read, rest⟩ := (direct_bind_ok _ _ _ _ _).mp run
  cases read
  rw [explicit] at rest
  cases rest
  rfl

end

-- A build with everything set sends no request, so what answers one does not matter.
def silentNode : Node := fun _ => .error .httpError

def refusingModels : Models where
  coinData _ _ _ _ _ := .error .validationError
  coinPage _ _ _ := .error .validationError
  objectResponse _ := .error .validationError

def senderOfOnes : Str := str "0x" ++ (List.replicate 32 (str "01")).flatten

def splitSteps : List Step := [
  .call (.pure (.int 7) (some (str "u8"))),
  .setGasBudget 9,
  .call (.splitCoins (.argument Transaction.gas) [.ref (.argument (inputArg 0))]),
  .setSender senderOfOnes,
  .setGasPrice 1,
  .setGasBudget 2,
  .setGasPayment []]

theorem sender_of_ones_clean : ¬ AddressSlip senderOfOnes := by
  intro slip
  have normal : normalizeIotaAddress senderOfOnes = .ok senderOfOnes := rfl
  exact address_slip_not_normal senderOfOnes senderOfOnes slip normal

def settledTransaction (sender owner : Bytes) (price budget : Int) : TransactionData where
  kind := ⟨[], []⟩
  sender := sender
  gas := { payment := [], owner := owner, price := price, budget := budget }

def settledBytes (sender owner price budget : Bytes) : Bytes :=
  [0, 0, 0, 0] ++ (sender ++ ((0 :: (owner ++ (price ++ budget))) ++ [0]))

theorem settled_transaction_serialized (sender owner : Bytes) (price budget : Int) (priceBytes budgetBytes : Bytes)
    (priceWritten : writeU64 price = Emitter.append priceBytes)
    (budgetWritten : writeU64 budget = Emitter.append budgetBytes) :
    (settledTransaction sender owner price budget).serialize = .ok (settledBytes sender owner priceBytes budgetBytes) := by
  have kind : (settledTransaction sender owner price budget).kind.serialize = .ok [0, 0] := by
    rw [ProgrammableTransaction.serialize, finish, write_vector_small _ _ (by simp [settledTransaction]),
      write_vector_small _ _ (by simp [settledTransaction])]
    rfl
  have gas : (settledTransaction sender owner price budget).gas.serialize =
      .ok (0 :: (owner ++ (priceBytes ++ budgetBytes))) := by
    rw [GasPayment.serialize, finish, write_vector_small _ _ (by simp [settledTransaction])]
    simp only [settledTransaction, priceWritten, budgetWritten, writeFixedBytes, Emitter.append_seq]
    rfl
  rw [TransactionData.serialize, finish, kind, gas,
    write_variant_index_small TransactionKindVariant.programmableTransaction.index (by decide)]
  simp only [settledTransaction, writeExpiration, write_serialized_eq, writeFixedBytes]
  rw [write_variant_index_small TransactionExpiration.none.index (by decide),
    show writeVariantIndex 0 = Emitter.append [0] from write_variant_index_small 0 (by decide)]
  have written (data : Bytes) : (Emitter.write (.ok data) : Writer Unit) = Emitter.append data := rfl
  simp only [written, Emitter.append_seq, Emitter.emitted_append]
  rfl

theorem settled_transaction_decodes (sender owner : Bytes) (price budget : Int) (bytes : Bytes)
    (senderLength : sender.length = 32) (ownerLength : owner.length = 32)
    (serialized : (settledTransaction sender owner price budget).serialize = .ok bytes) (short : bytes.length < 2 ^ 64) :
    ∃ value, DecodesTo bytes value ∧ value.gas = (settledTransaction sender owner price budget).gas := by
  have valid : (settledTransaction sender owner price budget).WellFormed :=
    ⟨by simp [settledTransaction], by simp [settledTransaction], senderLength, ownerLength, by simp [settledTransaction]⟩
  obtain ⟨value, denotes, decodes⟩ := decodes_serialized _ valid bytes serialized short
  exact ⟨value, decodes, denotes.gas.symm⟩

end PyIota
