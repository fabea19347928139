import PyIota.TransactionValue

set_option autoImplicit false

namespace PyIota

-- What a command asks of the ledger once its arguments have values.
inductive Action (V : Type) where
  | moveCall (package : Bytes) (module function : Str) (typeArguments : List TypeTag) (arguments : List V)
  | transferObjects (objects : List V) (recipient : V)
  | splitCoins (coin : V) (amounts : List V)
  | mergeCoins (destination : V) (sources : List V)
  | publish (modules dependencies : List Bytes)

-- Anything that can carry transactions out: what its values are, what they stand
-- for and what an action does to its ledger, or that it aborts.
structure Machine (V L : Type) where
  gasCoin : V
  input : CallArgValue → V
  act : Action V → L → Option (L × List V)

section

variable {V L : Type} (machine : Machine V L)

def at? {α : Type} (items : List α) (index : Int) : Option α := if 0 ≤ index then items[index.toNat]? else none

def single (values : List V) : Option V :=
  match values with
  | [value] => some value
  | _ => none

def ArgumentValue.eval (inputs : List CallArgValue) (results : List (List V)) : ArgumentValue → Option V
  | .gasCoin => some machine.gasCoin
  | .input index => (at? inputs index).map machine.input
  | .result index => (at? results index).bind single
  | .nestedResult index nested => (at? results index).bind fun values => at? values nested

def CommandValue.action (value : ArgumentValue → Option V) : CommandValue → Option (Action V)
  | .moveCall package module function typeArguments arguments => do
      let values ← arguments.mapM value
      return .moveCall package module function typeArguments values
  | .transferObjects objects recipient => do
      let values ← objects.mapM value
      let recipientValue ← value recipient
      return .transferObjects values recipientValue
  | .splitCoins coin amounts => do
      let coinValue ← value coin
      let values ← amounts.mapM value
      return .splitCoins coinValue values
  | .mergeCoins destination sources => do
      let destinationValue ← value destination
      let values ← sources.mapM value
      return .mergeCoins destinationValue values
  | .publish modules dependencies => some (.publish modules dependencies)

def executeFrom (inputs : List CallArgValue) (commands : List CommandValue) (ledger : L) (results : List (List V)) :
    Option (L × List (List V)) :=
  match commands with
  | [] => some (ledger, results)
  | cmd :: rest => do
      let action ← cmd.action (ArgumentValue.eval machine inputs results)
      let (next, values) ← machine.act action ledger
      executeFrom inputs rest next (results ++ [values])

def TransactionValue.execute (value : TransactionValue) (ledger : L) : Option (L × List (List V)) :=
  executeFrom machine value.inputs value.commands ledger []

def CommandValue.arguments : CommandValue → List ArgumentValue
  | .moveCall _ _ _ _ arguments => arguments
  | .transferObjects objects recipient => objects ++ [recipient]
  | .splitCoins coin amounts => coin :: amounts
  | .mergeCoins destination sources => destination :: sources
  | .publish _ _ => []

theorem map_m_agree {α β : Type} (items : List α) (first second : α → Option β)
    (agree : ∀ item ∈ items, first item = second item) : items.mapM first = items.mapM second := by
  induction items with
  | nil => rfl
  | cons item items ih =>
      rw [List.forall_mem_cons] at agree
      simp only [List.mapM_cons, agree.1, ih agree.2]

theorem action_agree (cmd : CommandValue) (first second : ArgumentValue → Option V)
    (agree : ∀ arg ∈ cmd.arguments, first arg = second arg) : cmd.action first = cmd.action second := by
  cases cmd with
  | moveCall package module function typeArguments arguments =>
      simp only [CommandValue.action, map_m_agree arguments first second agree]
  | transferObjects objects recipient =>
      rw [CommandValue.arguments, List.forall_mem_append, List.forall_mem_singleton] at agree
      simp only [CommandValue.action, map_m_agree objects first second agree.1, agree.2]
  | splitCoins coin amounts =>
      rw [CommandValue.arguments, List.forall_mem_cons] at agree
      simp only [CommandValue.action, map_m_agree amounts first second agree.2, agree.1]
  | mergeCoins destination sources =>
      rw [CommandValue.arguments, List.forall_mem_cons] at agree
      simp only [CommandValue.action, map_m_agree sources first second agree.2, agree.1]
  | publish modules dependencies => rfl

theorem execute_append (inputs : List CallArgValue) (commands : List CommandValue) (last : CommandValue) (ledger : L)
    (results : List (List V)) : executeFrom machine inputs (commands ++ [last]) ledger results = (do
      let (middle, known) ← executeFrom machine inputs commands ledger results
      executeFrom machine inputs [last] middle known) := by
  induction commands generalizing ledger results with
  | nil => rfl
  | cons cmd commands ih =>
      simp only [List.cons_append, executeFrom, Option.bind_eq_bind]
      cases cmd.action (ArgumentValue.eval machine inputs results) with
      | none => rfl
      | some action =>
          simp only [Option.bind_some]
          cases machine.act action ledger with
          | none => rfl
          | some outcome => exact ih outcome.1 (results ++ [outcome.2])

theorem execute_length (inputs : List CallArgValue) (commands : List CommandValue) (ledger final : L)
    (results known : List (List V)) (done : executeFrom machine inputs commands ledger results = some (final, known)) :
    known.length = results.length + commands.length := by
  induction commands generalizing ledger results with
  | nil =>
      cases done
      rfl
  | cons cmd commands ih =>
      obtain ⟨action, _, acted⟩ := Option.bind_eq_some_iff.mp done
      obtain ⟨outcome, _, rest⟩ := Option.bind_eq_some_iff.mp acted
      have length := ih outcome.1 (results ++ [outcome.2]) rest
      simp only [List.length_append, List.length_cons, List.length_nil] at length ⊢
      omega

-- An argument names one of the first inputs, if it names an input at all.
def ArgumentValue.Within (count : Nat) : ArgumentValue → Prop
  | .input index => index < count
  | _ => True

theorem eval_more_inputs (inputs more : List CallArgValue) (results : List (List V)) (arg : ArgumentValue)
    (within : arg.Within inputs.length) :
    arg.eval machine (inputs ++ more) results = arg.eval machine inputs results := by
  cases arg with
  | input index =>
      by_cases nonneg : 0 ≤ index
      · have small : index.toNat < inputs.length := by
          have bound : index < inputs.length := within
          omega
        simp only [ArgumentValue.eval, at?, if_pos nonneg, List.getElem?_append_left small]
      · simp only [ArgumentValue.eval, at?, if_neg nonneg]
  | _ => rfl

theorem execute_more_inputs (inputs more : List CallArgValue) (commands : List CommandValue) (ledger : L)
    (results : List (List V)) (within : ∀ cmd ∈ commands, ∀ arg ∈ cmd.arguments, arg.Within inputs.length) :
    executeFrom machine (inputs ++ more) commands ledger results =
      executeFrom machine inputs commands ledger results := by
  induction commands generalizing ledger results with
  | nil => rfl
  | cons cmd commands ih =>
      rw [List.forall_mem_cons] at within
      have same := action_agree cmd _ _ fun arg member =>
        eval_more_inputs machine inputs more results arg (within.1 arg member)
      have rest (next : L) (known : List (List V)) := ih next known within.2
      simp only [executeFrom, same, rest]

end

end PyIota
