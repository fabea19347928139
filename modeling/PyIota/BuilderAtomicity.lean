import PyIota.BuilderCalls

set_option autoImplicit false

namespace PyIota

-- try: call, except: pass
def Transaction.after (tx : Transaction) (call : Call) : Transaction :=
  match call.run.run tx with
  | .ok _ next => next
  | .error _ next => next

def Transaction.afterAll (tx : Transaction) (calls : List Call) : Transaction := calls.foldl Transaction.after tx

def returning (tx : Transaction) : List Call → List Call
  | [] => []
  | call :: calls =>
      match call.run.run tx with
      | .ok _ next => call :: returning next calls
      | .error _ next => returning next calls

-- No call that raises in the run changes the lists, and the run builds what the
-- calls that did not raise build alone.
def FailuresChangeNothing (tx : Transaction) (calls : List Call) : Prop :=
  (∀ before call rest error next, calls = before ++ call :: rest →
    call.run.run (tx.afterAll before) = .error error next →
      next.inputs = (tx.afterAll before).inputs ∧ next.commands = (tx.afterAll before).commands) ∧
  tx.afterAll calls = tx.afterAll (returning tx calls)

theorem failed_call_unchanged (tx : Transaction) (call : Call) (error : PyError) (next : Transaction)
    (failed : call.run.run tx = .error error next) (clean : ¬ call.Strands) : next = tx := by
  have outcome := call_outcome tx call
  rw [failed] at outcome
  obtain ⟨added, nextEq, _, stranded⟩ := outcome
  rw [nextEq, stranded.mpr clean, extend_nil]

theorem stranding_call (tx : Transaction) (call : Call) (strands : call.Strands) :
    ∃ error next, call.run.run tx = .error error next ∧ tx.inputs.length < next.inputs.length := by
  have outcome := call_outcome tx call
  cases run : call.run.run tx with
  | ok handle next =>
      rw [run] at outcome
      exact absurd strands outcome.1
  | error error next =>
      rw [run] at outcome
      obtain ⟨added, nextEq, _, stranded⟩ := outcome
      have some : added ≠ [] := fun empty => stranded.mp empty strands
      have positive := List.length_pos_iff.mpr some
      refine ⟨error, next, rfl, ?_⟩
      rw [nextEq, extend_inputs, List.length_append]
      omega

theorem after_all_returning (tx : Transaction) (calls : List Call) (clean : ∀ call ∈ calls, ¬ call.Strands) :
    tx.afterAll calls = tx.afterAll (returning tx calls) := by
  induction calls generalizing tx with
  | nil => rfl
  | cons call calls ih =>
      rw [List.forall_mem_cons] at clean
      have rest := ih (tx.after call) clean.2
      unfold returning
      cases run : call.run.run tx with
      | ok handle next =>
          have nextEq : tx.after call = next := by rw [Transaction.after, run]
          rw [nextEq] at rest
          simp only [Transaction.afterAll, List.foldl_cons, nextEq]
          exact rest
      | error error next =>
          have unchanged := failed_call_unchanged tx call error next run clean.1
          have nextEq : tx.after call = tx := by rw [Transaction.after, run, unchanged]
          rw [nextEq] at rest
          simp only [Transaction.afterAll, List.foldl_cons, nextEq, unchanged]
          exact rest

theorem failures_change_nothing_iff (tx : Transaction) (calls : List Call) :
    FailuresChangeNothing tx calls ↔ ∀ call ∈ calls, ¬ call.Strands := by
  refine ⟨?_, ?_⟩
  · intro nothing call member strands
    obtain ⟨before, rest, split⟩ := List.append_of_mem member
    obtain ⟨error, next, failed, grown⟩ := stranding_call (tx.afterAll before) call strands
    have same := (nothing.1 before call rest error next split failed).1
    rw [same] at grown
    exact Nat.lt_irrefl _ grown
  · intro clean
    refine ⟨?_, ?_⟩
    · intro before call rest error next split failed
      have member : call ∈ calls := by
        rw [split]
        exact List.mem_append_right before List.mem_cons_self
      rw [failed_call_unchanged (tx.afterAll before) call error next failed (clean call member)]
      exact ⟨rfl, rfl⟩
    · exact after_all_returning tx calls clean

def refusedSplit : Call := .splitCoins (.argument Transaction.gas) [.int 100, .int (-1)]

theorem refused_split_leaves_input :
    (∃ error next, refusedSplit.run.run {} = .error error next ∧ next.inputs.length = 1) ∧
      ¬ FailuresChangeNothing {} [refusedSplit] := by
  have run : ∃ error next, refusedSplit.run.run {} = .error error next ∧ next.inputs.length = 1 := ⟨_, _, rfl, rfl⟩
  obtain ⟨error, next, failed, grown⟩ := run
  refine ⟨⟨error, next, failed, grown⟩, ?_⟩
  intro nothing
  have same := (nothing.1 [] refusedSplit [] error next rfl failed).1
  rw [same] at grown
  cases grown

end PyIota
