import PyIota.BuilderCalls
import PyIota.AssertionFree

set_option autoImplicit false

namespace PyIota

-- A handle, the call that returned it and how many inputs there were before.
structure Made where
  call : Call
  handle : Ref
  before : Nat

structure Session where
  tx : Transaction
  made : List Made

def Session.handles (session : Session) : List Ref := session.made.map Made.handle

-- tx.gas, a handle an earlier call returned, or a non-negative index into one.
inductive Available (handles : List Ref) : Ref → Prop where
  | gas : Available handles (.argument Transaction.gas)
  | handle (ref : Ref) (member : ref ∈ handles) : Available handles ref
  | item (result : TransactionResult) (nestedIndex : Int) (member : Ref.result result ∈ handles)
      (nonneg : 0 ≤ nestedIndex) : Available handles (.argument (result.getItem nestedIndex))

def Session.step (session : Session) (call : Call) : Session :=
  match call.run.run session.tx with
  | .ok handle tx => ⟨tx, session.made ++ [⟨call, handle, session.tx.inputs.length⟩]⟩
  | .error _ tx => ⟨tx, session.made⟩

def Session.Next (session next : Session) : Prop :=
  ∃ call, (∀ ref ∈ call.refs, Available session.handles ref) ∧ next = session.step call

def Session.Later : Session → Session → Prop := Relation.ReflTransGen Session.Next

-- Whatever sender and gas settings the Transaction has.
def Session.Reachable (session : Session) : Prop :=
  ∃ tx : Transaction, tx.inputs = [] ∧ tx.commands = [] ∧ Session.Later ⟨tx, []⟩ session

def ArgumentSafe (inputs position : Nat) (arg : Argument) : Prop :=
  match arg.kind with
  | .gasCoin => True
  | .input => 0 ≤ arg.index ∧ arg.index < inputs
  | .result => 0 ≤ arg.index ∧ arg.index < position
  | .nestedResult => 0 ≤ arg.index ∧ arg.index < position ∧ 0 ≤ arg.nestedIndex

def Command.arguments (cmd : Command) : List Argument :=
  (cmd.moveCall.map ProgrammableMoveCall.arguments).getD [] ++ (cmd.transferObjects.getD [] ++
    (cmd.transferRecipient.toList ++ (cmd.splitCoin.toList ++ (cmd.splitAmounts.getD [] ++
      (cmd.mergeDestination.toList ++ cmd.mergeSources.getD [])))))

structure Session.Safe (session : Session) : Prop where
  arguments : ∀ index cmd, session.tx.commands[index]? = some cmd →
    ∀ arg ∈ cmd.arguments, ArgumentSafe session.tx.inputs.length index arg
  handles : ∀ handle ∈ session.handles,
    ArgumentSafe session.tx.inputs.length session.tx.commands.length (resolveArgument handle)
  inputs : ∀ arg ∈ session.tx.inputs, arg.Complete
  commands : ∀ cmd ∈ session.tx.commands, cmd.Complete
  made : ∀ made ∈ session.made, made.call.Denotes session.tx.inputs session.tx.commands made.before made.handle
  origin : ∀ index, index < session.tx.commands.length → ∃ made ∈ session.made, made.handle = .result ⟨(index : Nat)⟩

theorem argument_safe_mono (inputs more position later : Nat) (arg : Argument) (inputsLe : inputs ≤ more)
    (positionLe : position ≤ later) (safe : ArgumentSafe inputs position arg) : ArgumentSafe more later arg := by
  unfold ArgumentSafe at safe ⊢
  cases kind : arg.kind with
  | gasCoin => trivial
  | input => simp only [kind] at safe ⊢; omega
  | result => simp only [kind] at safe ⊢; omega
  | nestedResult => simp only [kind] at safe ⊢; omega

theorem available_safe (session : Session) (ref : Ref) (safe : session.Safe)
    (available : Available session.handles ref) :
    ArgumentSafe session.tx.inputs.length session.tx.commands.length (resolveArgument ref) := by
  cases available with
  | gas => trivial
  | handle ref member => exact safe.handles ref member
  | item result nestedIndex member nonneg =>
      have outer := safe.handles (.result result) member
      exact ⟨outer.1, outer.2, nonneg⟩

theorem object_input_complete (objectId : Str) (version : Option Int) (digest : Option Str)
    (initialSharedVersion : Option Int) (mutable : Bool) (callArg : CallArg)
    (made : objectInput objectId version digest initialSharedVersion mutable = .ok callArg) : callArg.Complete := by
  unfold objectInput at made
  split at made
  · obtain ⟨objBytes, _, same⟩ := (Fallible.bind_ok _ _ _).mp made
    cases same
    rfl
  · split at made
    · obtain ⟨objBytes, _, rest⟩ := (Fallible.bind_ok _ _ _).mp made
      obtain ⟨digestBytes, _, same⟩ := (Fallible.bind_ok _ _ _).mp rest
      cases same
      rfl
    · cases made

theorem amount_argument_safe (inputs : List CallArg) (before position : Nat) (amount : Amount) (arg : Argument)
    (denotes : AmountDenotes inputs before amount arg)
    (refs : ∀ ref ∈ amount.refs, ArgumentSafe inputs.length position (resolveArgument ref)) :
    ArgumentSafe inputs.length position arg := by
  cases denotes with
  | ref ref arg stands =>
      rw [← (ref_denotes_iff ref arg).mp stands]
      exact refs ref (List.mem_singleton_self ref)
  | int value index data fresh sized number found =>
      have within := (List.getElem?_eq_some_iff.mp found).1
      exact ⟨Int.natCast_nonneg index, Int.ofNat_lt.mpr within⟩

theorem recipient_argument_safe (inputs : List CallArg) (before position : Nat) (recipient : Recipient) (arg : Argument)
    (denotes : RecipientDenotes inputs before recipient arg)
    (refs : ∀ ref ∈ recipient.refs, ArgumentSafe inputs.length position (resolveArgument ref)) :
    ArgumentSafe inputs.length position arg := by
  cases denotes with
  | ref ref arg stands =>
      rw [← (ref_denotes_iff ref arg).mp stands]
      exact refs ref (List.mem_singleton_self ref)
  | address address index data fresh encoded named found =>
      have within := (List.getElem?_eq_some_iff.mp found).1
      exact ⟨Int.natCast_nonneg index, Int.ofNat_lt.mpr within⟩

theorem amount_arguments_safe (inputs : List CallArg) (before position : Nat) (amounts : List Amount)
    (args : List Argument) (denotes : List.Forall₂ (AmountDenotes inputs before) amounts args)
    (refs : ∀ ref ∈ amounts.flatMap Amount.refs, ArgumentSafe inputs.length position (resolveArgument ref)) :
    ∀ arg ∈ args, ArgumentSafe inputs.length position arg := by
  induction denotes with
  | nil => simp
  | cons head _ ih =>
      rw [List.flatMap_cons, List.forall_mem_append] at refs
      rw [List.forall_mem_cons]
      exact ⟨amount_argument_safe inputs before position _ _ head refs.1, ih refs.2⟩

-- The command a call made: its arguments are what the call was given, so they
-- are as safe as the call's references.
theorem denoted_command_safe (inputs : List CallArg) (commands : List Command) (before index : Nat) (call : Call)
    (cmd : Command) (denotes : call.Denotes inputs commands before (.result ⟨index⟩))
    (refs : ∀ ref ∈ call.refs, ArgumentSafe inputs.length index (resolveArgument ref))
    (found : commands[index]? = some cmd) :
    (∀ arg ∈ cmd.arguments, ArgumentSafe inputs.length index arg) ∧ cmd.Complete := by
  have resolved (items : List Ref) (safe : ∀ ref ∈ items, ArgumentSafe inputs.length index (resolveArgument ref)) :
      ∀ arg ∈ items.map resolveArgument, ArgumentSafe inputs.length index arg := by
    intro arg member
    obtain ⟨ref, inItems, same⟩ := List.mem_map.mp member
    rw [← same]
    exact safe ref inItems
  generalize handleEq : Ref.result ⟨(index : Int)⟩ = handle at denotes
  cases denotes with
  | pure => cases handleEq
  | object => cases handleEq
  | transferObjects objects recipient other args recipientArg each denotes otherFound =>
      obtain rfl := result_index_inj index other handleEq
      obtain rfl := Option.some.inj (found.symm.trans otherFound)
      obtain rfl := (each_denotes_iff objects args).mp each
      rw [Call.refs, List.forall_mem_append] at refs
      refine ⟨?_, rfl, rfl⟩
      simp only [Command.arguments, Option.map_none, Option.getD_none, Option.getD_some, Option.toList_none,
        Option.toList_some, List.nil_append, List.append_nil, List.forall_mem_append, List.forall_mem_singleton]
      exact ⟨resolved objects refs.1, recipient_argument_safe inputs before index recipient recipientArg denotes refs.2⟩
  | splitCoins coin amounts other coinArg amountArgs stands denotes otherFound =>
      obtain rfl := result_index_inj index other handleEq
      obtain rfl := Option.some.inj (found.symm.trans otherFound)
      obtain rfl := (ref_denotes_iff coin coinArg).mp stands
      rw [Call.refs, List.forall_mem_cons] at refs
      refine ⟨?_, rfl, rfl⟩
      simp only [Command.arguments, Option.map_none, Option.getD_none, Option.getD_some, Option.toList_none,
        Option.toList_some, List.nil_append, List.append_nil, List.forall_mem_append, List.forall_mem_singleton]
      exact ⟨refs.1, amount_arguments_safe inputs before index amounts amountArgs denotes refs.2⟩
  | mergeCoins destination sources other destinationArg sourceArgs stands each otherFound =>
      obtain rfl := result_index_inj index other handleEq
      obtain rfl := Option.some.inj (found.symm.trans otherFound)
      obtain rfl := (ref_denotes_iff destination destinationArg).mp stands
      obtain rfl := (each_denotes_iff sources sourceArgs).mp each
      rw [Call.refs, List.forall_mem_cons] at refs
      refine ⟨?_, rfl, rfl⟩
      simp only [Command.arguments, Option.map_none, Option.getD_none, Option.getD_some, Option.toList_none,
        Option.toList_some, List.nil_append, List.forall_mem_append, List.forall_mem_singleton]
      exact ⟨refs.1, resolved sources refs.2⟩
  | moveCall target arguments typeArguments other packageStr module function package args _ _ _ each otherFound =>
      obtain rfl := result_index_inj index other handleEq
      obtain rfl := Option.some.inj (found.symm.trans otherFound)
      obtain rfl := (each_denotes_iff _ args).mp each
      refine ⟨?_, rfl⟩
      simp only [Command.arguments, Option.map_some, Option.getD_none, Option.getD_some, Option.toList_none,
        List.append_nil]
      exact resolved _ refs

theorem pure_input_complete (added : List CallArg) (allPure : AllPure added) : ∀ arg ∈ added, arg.Complete := by
  intro arg member
  obtain ⟨data, rfl⟩ := allPure arg member
  trivial

theorem denoted_input_complete (inputs : List CallArg) (commands : List Command) (before index : Nat) (call : Call)
    (callArg : CallArg) (denotes : call.Denotes inputs commands before (.argument (inputArg index)))
    (found : inputs[index]? = some callArg) : callArg.Complete := by
  generalize handleEq : Ref.argument (inputArg index) = handle at denotes
  cases denotes with
  | pure value typeHint other data _ _ otherFound =>
      obtain rfl := input_index_inj index other handleEq
      obtain rfl := Option.some.inj (found.symm.trans otherFound)
      trivial
  | object objectId version digest initialSharedVersion mutable other otherArg _ made otherFound =>
      obtain rfl := input_index_inj index other handleEq
      obtain rfl := Option.some.inj (found.symm.trans otherFound)
      exact object_input_complete objectId version digest initialSharedVersion mutable _ made
  | transferObjects => cases handleEq
  | splitCoins => cases handleEq
  | mergeCoins => cases handleEq
  | moveCall => cases handleEq

theorem extend_keeps_arguments (tx : Transaction) (added : List CallArg) (made : List Command) (index : Nat)
    (cmd : Command) (within : index < tx.commands.length) (found : (tx.commands ++ made)[index]? = some cmd)
    (safe : ∀ index cmd, tx.commands[index]? = some cmd → ∀ arg ∈ cmd.arguments, ArgumentSafe tx.inputs.length index arg) :
    ∀ arg ∈ cmd.arguments, ArgumentSafe (tx.inputs ++ added).length index arg := by
  intro arg member
  rw [List.getElem?_append_left within] at found
  exact argument_safe_mono tx.inputs.length _ index index arg (by simp) le_rfl (safe index cmd found arg member)

theorem no_new_command (tx : Transaction) (added : List CallArg) (index : Nat) (cmd : Command)
    (found : (tx.extend added []).commands[index]? = some cmd) : index < tx.commands.length := by
  rw [extend_commands, List.append_nil] at found
  exact (List.getElem?_eq_some_iff.mp found).1

theorem extend_keeps_handles (session : Session) (added : List CallArg) (made : List Command) (safe : session.Safe) :
    ∀ handle ∈ session.handles,
      ArgumentSafe (session.tx.inputs ++ added).length (session.tx.commands ++ made).length (resolveArgument handle) := by
  intro handle member
  exact argument_safe_mono session.tx.inputs.length _ session.tx.commands.length _ _ (by simp) (by simp)
    (safe.handles handle member)

theorem extend_keeps_made (session : Session) (added : List CallArg) (made : List Command) (safe : session.Safe) :
    ∀ earlier ∈ session.made,
      earlier.call.Denotes (session.tx.inputs ++ added) (session.tx.commands ++ made) earlier.before earlier.handle := by
  intro earlier member
  exact call_denotes_later session.tx.inputs _ session.tx.commands _ earlier.before earlier.call earlier.handle
    (List.prefix_append _ _) (List.prefix_append _ _) (safe.made earlier member)

theorem failed_call_safe (session : Session) (added : List CallArg) (safe : session.Safe) (allPure : AllPure added) :
    Session.Safe ⟨session.tx.extend added [], session.made⟩ where
  arguments := by
    intro index cmd found
    exact extend_keeps_arguments session.tx added [] index cmd (no_new_command session.tx added index cmd found) found
      safe.arguments
  handles := extend_keeps_handles session added [] safe
  inputs := List.forall_mem_append.mpr ⟨safe.inputs, pure_input_complete added allPure⟩
  commands := by
    rw [extend_commands, List.append_nil]
    exact safe.commands
  made := extend_keeps_made session added [] safe
  origin := by
    intro index within
    rw [extend_commands, List.append_nil] at within
    exact safe.origin index within

theorem new_input_safe (session : Session) (call : Call) (callArg : CallArg) (safe : session.Safe)
    (denotes : call.Denotes (session.tx.inputs ++ [callArg]) (session.tx.commands ++ []) session.tx.inputs.length
      (.argument (inputArg session.tx.inputs.length))) :
    Session.Safe ⟨session.tx.extend [callArg] [],
      session.made ++ [⟨call, .argument (inputArg session.tx.inputs.length), session.tx.inputs.length⟩]⟩ where
  arguments := by
    intro index cmd found
    exact extend_keeps_arguments session.tx [callArg] [] index cmd
      (no_new_command session.tx [callArg] index cmd found) found safe.arguments
  handles := by
    simp only [Session.handles, List.map_append, List.forall_mem_append]
    refine ⟨?_, ?_⟩
    · exact extend_keeps_handles session [callArg] [] safe
    · simp [resolveArgument, ArgumentSafe, inputArg]
  inputs := by
    rw [extend_inputs, List.forall_mem_append]
    refine ⟨?_, ?_⟩
    · exact safe.inputs
    · intro arg member
      have found : (session.tx.inputs ++ [callArg])[session.tx.inputs.length]? = some arg := by
        rw [List.mem_singleton.mp member]
        simp
      exact denoted_input_complete _ _ _ _ call arg denotes found
  commands := by
    rw [extend_commands, List.append_nil]
    exact safe.commands
  made := by
    rw [List.forall_mem_append, List.forall_mem_singleton]
    exact ⟨extend_keeps_made session [callArg] [] safe, denotes⟩
  origin := by
    intro index within
    rw [extend_commands, List.append_nil] at within
    obtain ⟨made, member, same⟩ := safe.origin index within
    exact ⟨made, List.mem_append_left _ member, same⟩

theorem new_command_safe (session : Session) (call : Call) (added : List CallArg) (cmd : Command) (safe : session.Safe)
    (permitted : ∀ ref ∈ call.refs, Available session.handles ref) (allPure : AllPure added)
    (denotes : call.Denotes (session.tx.inputs ++ added) (session.tx.commands ++ [cmd]) session.tx.inputs.length
      (.result ⟨session.tx.commands.length⟩)) :
    Session.Safe ⟨session.tx.extend added [cmd],
      session.made ++ [⟨call, .result ⟨session.tx.commands.length⟩, session.tx.inputs.length⟩]⟩ := by
  have refs : ∀ ref ∈ call.refs,
      ArgumentSafe (session.tx.inputs ++ added).length session.tx.commands.length (resolveArgument ref) := by
    intro ref member
    exact argument_safe_mono session.tx.inputs.length _ _ _ _ (by simp) le_rfl
      (available_safe session ref safe (permitted ref member))
  have made := denoted_command_safe _ _ _ _ call cmd denotes refs (by simp)
  exact {
    arguments := by
      intro index other found
      by_cases within : index < session.tx.commands.length
      · exact extend_keeps_arguments session.tx added [cmd] index other within found safe.arguments
      · have bound := (List.getElem?_eq_some_iff.mp found).1
        have last : index = session.tx.commands.length := by
          simp only [extend_commands, List.length_append, List.length_singleton] at bound
          omega
        subst last
        rw [extend_commands, List.getElem?_concat_length] at found
        rw [← Option.some.inj found]
        exact made.1
    handles := by
      simp only [Session.handles, List.map_append, List.forall_mem_append]
      refine ⟨?_, ?_⟩
      · exact extend_keeps_handles session added [cmd] safe
      · simp [resolveArgument, TransactionResult.toArgument, resultArg, ArgumentSafe]
    inputs := List.forall_mem_append.mpr ⟨safe.inputs, pure_input_complete added allPure⟩
    commands := by
      rw [extend_commands, List.forall_mem_append, List.forall_mem_singleton]
      exact ⟨safe.commands, made.2⟩
    made := by
      rw [List.forall_mem_append, List.forall_mem_singleton]
      exact ⟨extend_keeps_made session added [cmd] safe, denotes⟩
    origin := by
      intro index within
      by_cases earlier : index < session.tx.commands.length
      · obtain ⟨made, member, same⟩ := safe.origin index earlier
        exact ⟨made, List.mem_append_left _ member, same⟩
      · have last : index = session.tx.commands.length := by
          simp only [extend_commands, List.length_append, List.length_singleton] at within
          omega
        rw [last]
        exact ⟨_, List.mem_append_right _ (List.mem_singleton_self _), rfl⟩
  }

theorem step_safe (session : Session) (call : Call) (safe : session.Safe)
    (permitted : ∀ ref ∈ call.refs, Available session.handles ref) : (session.step call).Safe := by
  have outcome := call_outcome session.tx call
  unfold Session.step
  cases run : call.run.run session.tx with
  | error error tx =>
      rw [run] at outcome
      obtain ⟨added, rfl, allPure, _⟩ := outcome
      exact failed_call_safe session added safe allPure
  | ok handle tx =>
      rw [run] at outcome
      obtain ⟨_, added, made, rfl, denotes, shape⟩ := outcome
      rcases shape with ⟨allPure, cmd, rfl, rfl⟩ | ⟨rfl, callArg, rfl, rfl⟩
      · exact new_command_safe session call added cmd safe permitted allPure denotes
      · exact new_input_safe session call callArg safe denotes

theorem step_extends (session : Session) (call : Call) :
    session.tx.inputs <+: (session.step call).tx.inputs ∧ session.tx.commands <+: (session.step call).tx.commands ∧
      session.made <+: (session.step call).made := by
  have outcome := call_outcome session.tx call
  unfold Session.step
  cases run : call.run.run session.tx with
  | error error tx =>
      rw [run] at outcome
      obtain ⟨added, rfl, _⟩ := outcome
      exact ⟨List.prefix_append _ _, List.prefix_append _ _, List.prefix_rfl⟩
  | ok handle tx =>
      rw [run] at outcome
      obtain ⟨_, added, made, rfl, _⟩ := outcome
      exact ⟨List.prefix_append _ _, List.prefix_append _ _, List.prefix_append _ _⟩

theorem later_safe (session later : Session) (safe : session.Safe) (runs : Session.Later session later) : later.Safe := by
  induction runs with
  | refl => exact safe
  | tail _ next ih =>
      obtain ⟨call, permitted, rfl⟩ := next
      exact step_safe _ call ih permitted

theorem fresh_safe (tx : Transaction) (inputs : tx.inputs = []) (commands : tx.commands = []) : Session.Safe ⟨tx, []⟩ where
  arguments := by simp [commands]
  handles := by simp [Session.handles]
  inputs := by simp [inputs]
  commands := by simp [commands]
  made := by simp
  origin := by simp [commands]

theorem reachable_safe (session : Session) (reachable : session.Reachable) : session.Safe := by
  obtain ⟨tx, inputs, commands, runs⟩ := reachable
  exact later_safe _ session (fresh_safe tx inputs commands) runs

end PyIota
