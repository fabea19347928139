import PyIota.BuilderMeaning

set_option autoImplicit false

namespace PyIota

def Ref.resultIndex? : Ref → Option Int
  | .result position => some position.index
  | .argument _ => none

def Ref.inputIndex? : Ref → Option Int
  | .argument arg => some arg.index
  | .result _ => none

-- The results come out as 0, 1, 2, ..., one for each command; the inputs in
-- ascending order, and no handle twice.
structure Session.Ordered (session : Session) : Prop where
  results : session.handles.filterMap Ref.resultIndex? = (List.range session.tx.commands.length).map Nat.cast
  ascending : (session.handles.filterMap Ref.inputIndex?).Pairwise (· < ·)
  below : ∀ index ∈ session.handles.filterMap Ref.inputIndex?, index < session.tx.inputs.length
  distinct : session.handles.Nodup

theorem fresh_ordered (tx : Transaction) (commands : tx.commands = []) : Session.Ordered ⟨tx, []⟩ where
  results := by simp [Session.handles, commands]
  ascending := List.Pairwise.nil
  below := by simp [Session.handles]
  distinct := List.nodup_nil

section

variable (session : Session) (call : Call) (added : List CallArg)

-- A call that raises may leave inputs behind that no handle names.
theorem failed_ordered (ordered : session.Ordered) : Session.Ordered ⟨session.tx.extend added [], session.made⟩ where
  results := by
    rw [extend_commands, List.append_nil]
    exact ordered.results
  ascending := ordered.ascending
  below := by
    intro index member
    have before := ordered.below index member
    rw [extend_inputs, List.length_append]
    push_cast
    omega
  distinct := ordered.distinct

theorem command_ordered (cmd : Command) (safe : session.Safe) (ordered : session.Ordered) :
    Session.Ordered ⟨session.tx.extend added [cmd],
      session.made ++ [⟨call, .result ⟨session.tx.commands.length⟩, session.tx.inputs.length⟩]⟩ := by
  have widened := failed_ordered session added ordered
  have handles : Session.handles ⟨session.tx.extend added [cmd],
      session.made ++ [⟨call, .result ⟨session.tx.commands.length⟩, session.tx.inputs.length⟩]⟩ =
      session.handles ++ [.result ⟨session.tx.commands.length⟩] := by
    rw [Session.handles, List.map_append]
    rfl
  have inputs : (session.handles ++ [Ref.result ⟨session.tx.commands.length⟩]).filterMap Ref.inputIndex? =
      session.handles.filterMap Ref.inputIndex? := by
    rw [List.filterMap_append]
    exact List.append_nil _
  refine ⟨?_, ?_, ?_, ?_⟩
  · rw [handles, List.filterMap_append, ordered.results, extend_commands, List.length_append, List.length_singleton,
      List.range_succ, List.map_append]
    rfl
  · rw [handles, inputs]
    exact ordered.ascending
  · rw [handles, inputs]
    exact widened.below
  · rw [handles]
    rw [← List.concat_eq_append]
    exact ordered.distinct.concat (new_result_fresh session safe)

theorem input_ordered (callArg : CallArg) (safe : session.Safe) (ordered : session.Ordered) :
    Session.Ordered ⟨session.tx.extend [callArg] [],
      session.made ++ [⟨call, .argument (inputArg session.tx.inputs.length), session.tx.inputs.length⟩]⟩ := by
  have handles : Session.handles ⟨session.tx.extend [callArg] [],
      session.made ++ [⟨call, .argument (inputArg session.tx.inputs.length), session.tx.inputs.length⟩]⟩ =
      session.handles ++ [.argument (inputArg session.tx.inputs.length)] := by
    rw [Session.handles, List.map_append]
    rfl
  have inputs : (session.handles ++ [Ref.argument (inputArg session.tx.inputs.length)]).filterMap Ref.inputIndex? =
      session.handles.filterMap Ref.inputIndex? ++ [(session.tx.inputs.length : Int)] := by
    rw [List.filterMap_append]
    rfl
  refine ⟨?_, ?_, ?_, ?_⟩
  · rw [handles, List.filterMap_append, ordered.results, extend_commands, List.append_nil]
    exact List.append_nil _
  · rw [handles, inputs, List.pairwise_append]
    refine ⟨ordered.ascending, List.pairwise_singleton _ _, ?_⟩
    intro index member last isLast
    rw [List.mem_singleton.mp isLast]
    exact ordered.below index member
  · intro index member
    rw [handles, inputs, List.mem_append, List.mem_singleton] at member
    rw [extend_inputs, List.length_append, List.length_singleton]
    push_cast
    rcases member with earlier | last
    · have before := ordered.below index earlier
      omega
    · omega
  · rw [handles]
    rw [← List.concat_eq_append]
    exact ordered.distinct.concat (new_input_fresh session safe)

theorem step_ordered (safe : session.Safe) (ordered : session.Ordered) : (session.step call).Ordered := by
  have outcome := call_outcome session.tx call
  unfold Session.step
  cases run : call.run.run session.tx with
  | error error tx =>
      rw [run] at outcome
      obtain ⟨added, rfl, _⟩ := outcome
      exact failed_ordered session added ordered
  | ok handle tx =>
      rw [run] at outcome
      obtain ⟨_, added, made, rfl, _, shape⟩ := outcome
      rcases shape with ⟨_, cmd, rfl, rfl⟩ | ⟨rfl, callArg, rfl, rfl⟩
      · exact command_ordered session call added cmd safe ordered
      · exact input_ordered session call callArg safe ordered

end

theorem commands_in_call_order (session : Session) (reachable : session.Reachable) : session.Ordered := by
  obtain ⟨tx, inputs, commands, runs⟩ := reachable
  have both : session.Safe ∧ session.Ordered := by
    induction runs with
    | refl => exact ⟨fresh_safe tx inputs commands, fresh_ordered tx commands⟩
    | tail _ next ih =>
        obtain ⟨call, permitted, rfl⟩ := next
        exact ⟨step_safe _ call ih.1 permitted, step_ordered _ call ih.1 ih.2⟩
  exact both.2

theorem split_session_ordered : splitSession.Ordered := commands_in_call_order splitSession split_session_reachable

end PyIota
