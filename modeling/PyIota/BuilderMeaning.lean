import PyIota.CleanBuilds
import PyIota.Execution
import PyIota.PureValues

set_option autoImplicit false

namespace PyIota

open Coroutine

-- What a handle stands for while the calls themselves are carried out.
inductive Bound (V : Type) where
  | input (value : V)
  | results (values : List V)

abbrev Env (V : Type) := List (Ref × Bound V)

def Bound.results? {V : Type} : Bound V → Option (List V)
  | .results values => some values
  | .input _ => none

-- The type a string spells; no string spells two.
noncomputable def typeOf (text : Str) : Option TypeTag :=
  open Classical in if spelled : ∃ tag, Spells tag text then some spelled.choose else none

structure Carried (V L : Type) where
  ledger : L
  results : List (List V)
  env : Env V

section

variable {V L : Type} (machine : Machine V L)

-- A handle stands for what its own call made. An item of a result is looked up in
-- what the result's call made.
def Env.value (env : Env V) (ref : Ref) : Option V :=
  match env.lookup ref with
  | some (.input value) => some value
  | some (.results values) => single values
  | none =>
      match ref with
      | .result _ => none
      | .argument arg =>
          match arg.kind with
          | .gasCoin => some machine.gasCoin
          | .nestedResult =>
              ((env.lookup (.result ⟨arg.index⟩)).bind Bound.results?).bind fun values => at? values arg.nestedIndex
          | _ => none

def Amount.value (env : Env V) : Amount → Option V
  | .int value => some (machine.input (.pure (Positional.littleEndian 8 value.toNat)))
  | .ref handle => env.value machine handle

noncomputable def Recipient.value (env : Env V) : Recipient → Option V
  | .address text => (addressOf text).map fun address => machine.input (.pure address)
  | .ref handle => env.value machine handle

noncomputable def objectValue (objectId : Str) (version : Option Int) (digest : Option Str)
    (initialSharedVersion : Option Int) (mutable : Bool) : Option CallArgValue :=
  match initialSharedVersion with
  | some sharedVersion => (addressOf objectId).map fun address => .sharedObject ⟨address, sharedVersion, mutable⟩
  | none => do
      let version ← version
      let text ← digest
      let address ← addressOf objectId
      let digest ← digestOf text
      return .immOrOwnedObject ⟨address, version, digest⟩

noncomputable def Call.inputValue : Call → Option CallArgValue
  | .pure value typeHint => (contentsOf value typeHint).map .pure
  | .object objectId version digest initialSharedVersion mutable =>
      objectValue objectId version digest initialSharedVersion mutable
  | _ => none

noncomputable def Call.action (env : Env V) : Call → Option (Action V)
  | .transferObjects objects recipient => do
      let values ← objects.mapM (env.value machine)
      let recipientValue ← recipient.value machine env
      return .transferObjects values recipientValue
  | .splitCoins coin amounts => do
      let coinValue ← env.value machine coin
      let values ← amounts.mapM (Amount.value machine env)
      return .splitCoins coinValue values
  | .mergeCoins destination sources => do
      let destinationValue ← env.value machine destination
      let values ← sources.mapM (env.value machine)
      return .mergeCoins destinationValue values
  | .moveCall target arguments typeArguments =>
      match splitColons target with
      | [packageStr, module, function] => do
          let package ← addressOf packageStr
          let types ← (typeArguments.getD []).mapM typeOf
          let values ← (arguments.getD []).mapM (env.value machine)
          return .moveCall package module function types values
      | _ => none
  | _ => none

noncomputable def Made.perform (made : Made) (carried : Carried V L) : Option (Carried V L) :=
  match made.call.inputValue with
  | some value => some { carried with env := carried.env ++ [(made.handle, .input (machine.input value))] }
  | none => do
      let action ← made.call.action machine carried.env
      let (ledger, values) ← machine.act action carried.ledger
      return ⟨ledger, carried.results ++ [values], carried.env ++ [(made.handle, .results values)]⟩

noncomputable def performAll (made : List Made) (carried : Carried V L) : Option (Carried V L) :=
  made.foldlM (fun carried made => made.perform machine carried) carried

noncomputable def Session.perform (session : Session) (ledger : L) : Option (L × List (List V)) :=
  (performAll machine session.made ⟨ledger, [], []⟩).map fun carried => (carried.ledger, carried.results)

end

-- None of the texts the call was given for an address or a type is one that a
-- parser slips on.
def Call.Plain (call : Call) : Prop := call.Clean ∧
  match call with
  | .pure value typeHint => ∀ type, pureType value typeHint = some type → SlipFree type value
  | .transferObjects _ (.address text) => ¬ AddressSlip text
  | _ => True

theorem type_of_spelled (tag : TypeTag) (text : Str) (spelled : Spells tag text) : typeOf text = some tag := by
  have some_ : ∃ tag, Spells tag text := ⟨tag, spelled⟩
  rw [typeOf, dif_pos some_, spells_unique tag some_.choose text spelled some_.choose_spec]

theorem types_of_spelled (texts : List Str) (tags : List TypeTag)
    (spelled : List.Forall₂ (fun text tag => Spells tag text) texts tags) : texts.mapM typeOf = some tags := by
  induction spelled with
  | nil => rfl
  | cons head _ ih => simp [List.mapM_cons, type_of_spelled _ _ head, ih]

section

variable {V L : Type} (machine : Machine V L) (handles : List Ref) (env : Env V) (inputs : List CallArgValue)
  (results : List (List V))

def Agrees : Prop := ∀ handle ∈ handles,
  (∃ (index : Nat) (value : CallArgValue), handle = .argument (inputArg index) ∧ inputs[index]? = some value ∧
    env.lookup handle = some (.input (machine.input value))) ∨
  ∃ (index : Nat) (values : List V), handle = .result ⟨index⟩ ∧ results[index]? = some values ∧
    env.lookup handle = some (.results values)

variable {machine handles env inputs results}

theorem at_nat {α : Type} (items : List α) (index : Nat) : at? items (index : Int) = items[index]? := by
  simp [at?]

theorem lookup_absent (ref : Ref) (keys : env.map Prod.fst = handles) (absent : ref ∉ handles) :
    env.lookup ref = none := by
  rw [List.lookup_eq_none_iff]
  intro entry member
  rw [bne_iff_ne]
  intro same
  rw [← keys] at absent
  exact absent (List.mem_map.mpr ⟨entry, member, same.symm⟩)

theorem handle_kind (arg : Argument) (agrees : Agrees machine handles env inputs results)
    (member : Ref.argument arg ∈ handles) : arg.kind = .input := by
  rcases agrees _ member with ⟨index, value, same, _⟩ | ⟨index, values, same, _⟩
  · rw [Ref.argument.inj same]
    rfl
  · cases same

theorem available_value (ref : Ref) (arg : Argument) (agrees : Agrees machine handles env inputs results)
    (keys : env.map Prod.fst = handles) (available : Available handles ref) (stands : ref.Denotes arg) :
    env.value machine ref = arg.value.eval machine inputs results := by
  obtain rfl := (ref_denotes_iff ref arg).mp stands
  cases available with
  | gas =>
      have absent : Ref.argument Transaction.gas ∉ handles := by
        intro member
        cases handle_kind _ agrees member
      rw [Env.value, lookup_absent _ keys absent]
      rfl
  | handle ref member =>
      rcases agrees ref member with ⟨index, value, rfl, found, bound⟩ | ⟨index, values, rfl, found, bound⟩
      · rw [Env.value, bound]
        simp only [resolveArgument, inputArg, Argument.value, ArgumentValue.eval, at_nat, found, Option.map_some]
      · rw [Env.value, bound]
        simp only [resolveArgument, TransactionResult.toArgument, resultArg, Argument.value, ArgumentValue.eval, at_nat,
          found, Option.bind_some]
  | item result nestedIndex member nonneg =>
      have absent : Ref.argument (result.getItem nestedIndex) ∉ handles := by
        intro inHandles
        cases handle_kind _ agrees inHandles
      rcases agrees (.result result) member with ⟨index, value, same, _, _⟩ | ⟨index, values, same, found, bound⟩
      · cases same
      · obtain rfl := Ref.result.inj same
        rw [Env.value, lookup_absent _ keys absent]
        simp only [resolveArgument, TransactionResult.getItem, nestedResultArg, Argument.value,
          ArgumentValue.eval, at_nat, found, bound]
        rfl

def Resolves (machine : Machine V L) (env : Env V) (inputs : List CallArgValue) (results : List (List V))
    (refs : List Ref) : Prop :=
  ∀ ref ∈ refs, ∀ arg, ref.Denotes arg → env.value machine ref = arg.value.eval machine inputs results

theorem map_m_resolved (refs : List Ref) (args : List Argument) (each : List.Forall₂ Ref.Denotes refs args)
    (same : Resolves machine env inputs results refs) :
    refs.mapM (env.value machine) = (args.map Argument.value).mapM (ArgumentValue.eval machine inputs results) := by
  induction each with
  | nil => rfl
  | cons stands _ ih =>
      obtain ⟨head, rest⟩ := List.forall_mem_cons.mp same
      simp only [List.map_cons, List.mapM_cons, head _ stands, ih rest]

variable {callArgs : List CallArg} (denoted : List.Forall₂ (fun arg value => arg.value = some value) callArgs inputs)
include denoted

theorem pure_input_value (index : Nat) (data : Bytes) (found : callArgs[index]? = some (pureInput data)) :
    inputs[index]? = some (.pure data) := by
  obtain ⟨within, argEq⟩ := List.getElem?_eq_some_iff.mp found
  have valueEq := denoted.get within (by rw [← denoted.length_eq]; exact within)
  simp only [List.get_eq_getElem, argEq] at valueEq
  exact List.getElem?_eq_some_iff.mpr ⟨by rw [← denoted.length_eq]; exact within, (Option.some.inj valueEq).symm⟩

theorem amount_value (before : Nat) (amount : Amount) (arg : Argument) (reads : AmountDenotes callArgs before amount arg)
    (same : Resolves machine env inputs results amount.refs) :
    amount.value machine env = arg.value.eval machine inputs results := by
  cases reads with
  | ref ref arg stands => exact same ref (List.mem_singleton_self ref) arg stands
  | int value index data fresh sized number found =>
      have input := pure_input_value denoted index data found
      have bytes : Positional.littleEndian 8 value.toNat = data := by
        rw [← number, Int.toNat_natCast, ← sized, Positional.little_endian_of_little_endian]
      simp only [Amount.value, bytes, Argument.value, ArgumentValue.eval, at_nat, input, Option.map_some]

theorem amounts_value (before : Nat) (amounts : List Amount) (args : List Argument)
    (reads : List.Forall₂ (AmountDenotes callArgs before) amounts args)
    (same : Resolves machine env inputs results (amounts.flatMap Amount.refs)) :
    amounts.mapM (Amount.value machine env) =
      (args.map Argument.value).mapM (ArgumentValue.eval machine inputs results) := by
  induction reads with
  | nil => rfl
  | cons head _ ih =>
      rw [Resolves, List.flatMap_cons, List.forall_mem_append] at same
      simp only [List.map_cons, List.mapM_cons, amount_value denoted before _ _ head same.1, ih same.2]

theorem recipient_value (before : Nat) (recipient : Recipient) (arg : Argument)
    (reads : RecipientDenotes callArgs before recipient arg)
    (noSlip : ∀ text, recipient = .address text → ¬ AddressSlip text)
    (same : Resolves machine env inputs results recipient.refs) :
    recipient.value machine env = arg.value.eval machine inputs results := by
  cases reads with
  | ref ref arg stands => exact same ref (List.mem_singleton_self ref) arg stands
  | address text index data fresh encoded named found =>
      have input := pure_input_value denoted index data found
      have address := (address_of_iff text data).mpr (named (noSlip text rfl))
      simp only [Recipient.value, address, Argument.value, ArgumentValue.eval, at_nat, input, Option.map_some]

theorem denoted_action (commands : List Command) (before index : Nat) (call : Call) (cmd : Command)
    (value : CommandValue) (plain : call.Plain) (reads : call.Denotes callArgs commands before (.result ⟨index⟩))
    (found : commands[index]? = some cmd) (cmdDenotes : cmd.Denotes value)
    (same : Resolves machine env inputs results call.refs) :
    call.action machine env = value.action (ArgumentValue.eval machine inputs results) := by
  generalize handleEq : Ref.result ⟨(index : Int)⟩ = handle at reads
  cases reads with
  | pure => cases handleEq
  | object => cases handleEq
  | transferObjects objects recipient other args recipientArg each resolved otherFound =>
      obtain rfl := result_index_inj index other handleEq
      obtain rfl := Option.some.inj (found.symm.trans otherFound)
      rw [Resolves, Call.refs, List.forall_mem_append] at same
      cases cmdDenotes with
      | transferObjects objectArgs last _ hasObjects hasRecipient =>
          cases hasObjects
          cases hasRecipient
          have noSlip : ∀ text, recipient = .address text → ¬ AddressSlip text := by
            rintro text rfl
            exact plain.2
          simp only [Call.action, CommandValue.action, map_m_resolved objects args each same.1,
            recipient_value denoted before recipient recipientArg resolved noSlip same.2]
      | _ => contradiction
  | splitCoins coin amounts other coinArg amountArgs stands resolved otherFound =>
      obtain rfl := result_index_inj index other handleEq
      obtain rfl := Option.some.inj (found.symm.trans otherFound)
      rw [Resolves, Call.refs, List.forall_mem_cons] at same
      cases cmdDenotes with
      | splitCoins first args _ hasCoin hasAmounts =>
          cases hasCoin
          cases hasAmounts
          simp only [Call.action, CommandValue.action, same.1 coinArg stands,
            amounts_value denoted before amounts amountArgs resolved same.2]
      | _ => contradiction
  | mergeCoins destination sources other destinationArg sourceArgs stands each otherFound =>
      obtain rfl := result_index_inj index other handleEq
      obtain rfl := Option.some.inj (found.symm.trans otherFound)
      rw [Resolves, Call.refs, List.forall_mem_cons] at same
      cases cmdDenotes with
      | mergeCoins first args _ hasDestination hasSources =>
          cases hasDestination
          cases hasSources
          simp only [Call.action, CommandValue.action, same.1 destinationArg stands,
            map_m_resolved sources sourceArgs each same.2]
      | _ => contradiction
  | moveCall target arguments typeArguments other packageStr module function package args parts _ named each otherFound =>
      obtain rfl := result_index_inj index other handleEq
      obtain rfl := Option.some.inj (found.symm.trans otherFound)
      have address := (address_of_iff packageStr package).mpr (named (plain.1.1 packageStr module function parts))
      cases cmdDenotes with
      | moveCall mc types _ hasCall spelled =>
          cases hasCall
          have values := map_m_resolved (arguments.getD []) args each same
          simp only [Call.action, CommandValue.action, parts, address, types_of_spelled _ types spelled, values,
            Option.bind_eq_bind, Option.bind_some]
      | _ => contradiction

end

theorem forall2_append_left {α β : Type} (holds : α → β → Prop) (left right : List α) (values : List β)
    (matched : List.Forall₂ holds (left ++ right) values) : ∃ first second, values = first ++ second ∧
      List.Forall₂ holds left first ∧ List.Forall₂ holds right second := by
  induction left generalizing values with
  | nil => exact ⟨[], values, rfl, .nil, matched⟩
  | cons item left ih =>
      cases matched with
      | cons head tail =>
          obtain ⟨first, second, rfl, leftMatched, rightMatched⟩ := ih _ tail
          exact ⟨_ :: first, second, rfl, .cons head leftMatched, rightMatched⟩

theorem denoted_arguments (cmd : Command) (value : CommandValue) (denotes : cmd.Denotes value) :
    ∀ arg ∈ value.arguments, ∃ given ∈ cmd.arguments, given.value = arg := by
  intro arg member
  cases denotes with
  | moveCall mc types _ hasCall _ =>
      obtain ⟨given, inCall, same⟩ := List.mem_map.mp member
      exact ⟨given, by simp [Command.arguments, hasCall, inCall], same⟩
  | transferObjects objects recipient _ hasObjects hasRecipient =>
      have all : arg ∈ (objects ++ [recipient]).map Argument.value := by
        rw [List.map_append]
        exact member
      obtain ⟨given, inCall, same⟩ := List.mem_map.mp all
      rcases List.mem_append.mp inCall with inObjects | last
      · exact ⟨given, by simp [Command.arguments, hasObjects, inObjects], same⟩
      · rw [List.mem_singleton] at last
        exact ⟨given, by simp [Command.arguments, hasRecipient, last], same⟩
  | splitCoins coin amounts _ hasCoin hasAmounts =>
      have all : arg ∈ (coin :: amounts).map Argument.value := member
      obtain ⟨given, inCall, same⟩ := List.mem_map.mp all
      rcases List.mem_cons.mp inCall with rfl | inAmounts
      · exact ⟨given, by simp [Command.arguments, hasCoin], same⟩
      · exact ⟨given, by simp [Command.arguments, hasAmounts, inAmounts], same⟩
  | mergeCoins destination sources _ hasDestination hasSources =>
      have all : arg ∈ (destination :: sources).map Argument.value := member
      obtain ⟨given, inCall, same⟩ := List.mem_map.mp all
      rcases List.mem_cons.mp inCall with rfl | inSources
      · exact ⟨given, by simp [Command.arguments, hasDestination], same⟩
      · exact ⟨given, by simp [Command.arguments, hasSources, inSources], same⟩
  | publish => cases member

theorem safe_argument_within (inputs position : Nat) (arg : Argument) (safe : ArgumentSafe inputs position arg) :
    arg.value.Within inputs := by
  unfold ArgumentSafe at safe
  unfold Argument.value ArgumentValue.Within
  cases kind : arg.kind with
  | input =>
      simp only [kind] at safe ⊢
      exact safe.2
  | _ => trivial

theorem denoted_within (tx : Transaction) (commands : List CommandValue)
    (arguments : ∀ index cmd, tx.commands[index]? = some cmd →
      ∀ arg ∈ cmd.arguments, ArgumentSafe tx.inputs.length index arg)
    (denoted : List.Forall₂ Command.Denotes tx.commands commands) :
    ∀ value ∈ commands, ∀ arg ∈ value.arguments, arg.Within tx.inputs.length := by
  intro value member arg used
  obtain ⟨index, within, valueEq⟩ := List.mem_iff_getElem.mp member
  have inCommands : index < tx.commands.length := by
    rw [denoted.length_eq]
    exact within
  have denotes : tx.commands[index].Denotes commands[index] := denoted.get inCommands within
  rw [valueEq] at denotes
  obtain ⟨given, inCmd, rfl⟩ := denoted_arguments _ value denotes arg used
  exact safe_argument_within _ index given
    (arguments index _ (List.getElem?_eq_getElem inCommands) given inCmd)

section

variable {V L : Type} (machine : Machine V L)

-- Carrying the calls out is executing the transaction they made.
def Follows (session : Session) (ledger : L) (inputs : List CallArgValue) (commands : List CommandValue) : Prop :=
  match executeFrom machine inputs commands ledger [] with
  | none => performAll machine session.made ⟨ledger, [], []⟩ = none
  | some (final, results) => ∃ env, performAll machine session.made ⟨ledger, [], []⟩ = some ⟨final, results, env⟩ ∧
      env.map Prod.fst = session.handles ∧ Agrees machine session.handles env inputs results

def Session.Follows (session : Session) : Prop := ∀ inputs commands,
  List.Forall₂ (fun arg value => arg.value = some value) session.tx.inputs inputs →
    List.Forall₂ Command.Denotes session.tx.commands commands →
      ∀ ledger, PyIota.Follows machine session ledger inputs commands

variable {machine}

theorem perform_all_append (made : List Made) (last : Made) (carried : Carried V L) :
    performAll machine (made ++ [last]) carried = (performAll machine made carried).bind (last.perform machine) := by
  simp only [performAll, List.foldlM_append, List.foldlM_cons, List.foldlM_nil, bind_pure, Option.bind_eq_bind]

theorem agrees_more (handles : List Ref) (env : Env V) (inputs more : List CallArgValue) (results after : List (List V))
    (added : Env V) (agrees : Agrees machine handles env inputs results) :
    Agrees machine handles (env ++ added) (inputs ++ more) (results ++ after) := by
  intro handle member
  rcases agrees handle member with ⟨index, value, same, found, bound⟩ | ⟨index, values, same, found, bound⟩
  · left
    refine ⟨index, value, same, get_extended inputs _ index value (List.prefix_append _ _) found, ?_⟩
    rw [List.lookup_append, bound]
    rfl
  · right
    refine ⟨index, values, same, get_extended results _ index values (List.prefix_append _ _) found, ?_⟩
    rw [List.lookup_append, bound]
    rfl

theorem lookup_fresh (env : Env V) (handles : List Ref) (handle : Ref) (bound : Bound V)
    (keys : env.map Prod.fst = handles) (fresh : handle ∉ handles) :
    (env ++ [(handle, bound)]).lookup handle = some bound := by
  rw [List.lookup_append, lookup_absent handle keys fresh]
  simp

theorem agrees_one_more (handles : List Ref) (env : Env V) (inputs more : List CallArgValue)
    (results after : List (List V)) (handle : Ref) (bound : Bound V) (keys : env.map Prod.fst = handles)
    (fresh : handle ∉ handles) (agrees : Agrees machine handles env inputs results)
    (here : (∃ (index : Nat) (value : CallArgValue), handle = .argument (inputArg index) ∧
        (inputs ++ more)[index]? = some value ∧ bound = .input (machine.input value)) ∨
      ∃ (index : Nat) (values : List V), handle = .result ⟨index⟩ ∧ (results ++ after)[index]? = some values ∧
        bound = .results values) :
    Agrees machine (handles ++ [handle]) (env ++ [(handle, bound)]) (inputs ++ more) (results ++ after) := by
  have widened := agrees_more handles env inputs more results after [(handle, bound)] agrees
  have found := lookup_fresh env handles handle bound keys fresh
  intro other member
  rcases List.mem_append.mp member with earlier | last
  · exact widened other earlier
  · rw [List.mem_singleton] at last
    subst last
    rcases here with ⟨index, value, same, atIndex, rfl⟩ | ⟨index, values, same, atIndex, rfl⟩
    · exact Or.inl ⟨index, value, same, atIndex, found⟩
    · exact Or.inr ⟨index, values, same, atIndex, found⟩

theorem new_input_fresh (session : Session) (safe : session.Safe) :
    Ref.argument (inputArg session.tx.inputs.length) ∉ session.handles := by
  intro member
  have within := (safe.handles _ member).2
  exact Int.lt_irrefl _ within

theorem new_result_fresh (session : Session) (safe : session.Safe) :
    Ref.result ⟨session.tx.commands.length⟩ ∉ session.handles := by
  intro member
  have within := (safe.handles _ member).2
  exact Int.lt_irrefl _ within

theorem failed_call_follows (session : Session) (added : List CallArg) (safe : session.Safe)
    (follows : session.Follows machine) : Session.Follows machine ⟨session.tx.extend added [], session.made⟩ := by
  intro values commands inputsDenoted commandsDenoted ledger
  rw [extend_inputs] at inputsDenoted
  rw [extend_commands, List.append_nil] at commandsDenoted
  obtain ⟨inputs, more, rfl, inputsMatched, _⟩ := forall2_append_left _ _ _ _ inputsDenoted
  have within := denoted_within session.tx commands safe.arguments commandsDenoted
  rw [inputsMatched.length_eq] at within
  have before := follows inputs commands inputsMatched commandsDenoted ledger
  unfold Follows at before ⊢
  rw [execute_more_inputs machine inputs more commands ledger [] within]
  cases done : executeFrom machine inputs commands ledger [] with
  | none =>
      rw [done] at before
      exact before
  | some outcome =>
      rw [done] at before
      obtain ⟨env, performed, keys, agrees⟩ := before
      have widened := agrees_more session.handles env inputs more outcome.2 [] [] agrees
      rw [List.append_nil, List.append_nil] at widened
      exact ⟨env, performed, keys, widened⟩

theorem new_input_follows (session : Session) (call : Call) (callArg : CallArg) (safe : session.Safe)
    (follows : session.Follows machine) (input : call.inputValue = callArg.value) :
    Session.Follows machine ⟨session.tx.extend [callArg] [],
      session.made ++ [⟨call, .argument (inputArg session.tx.inputs.length), session.tx.inputs.length⟩]⟩ := by
  intro values commands inputsDenoted commandsDenoted ledger
  rw [extend_inputs] at inputsDenoted
  rw [extend_commands, List.append_nil] at commandsDenoted
  obtain ⟨inputs, more, rfl, inputsMatched, moreMatched⟩ := forall2_append_left _ _ _ _ inputsDenoted
  obtain ⟨value, none_, valueEq, over_, rfl⟩ := List.forall₂_cons_left_iff.mp moreMatched
  obtain rfl := List.forall₂_nil_left_iff.mp over_
  have within := denoted_within session.tx commands safe.arguments commandsDenoted
  rw [inputsMatched.length_eq] at within
  have before := follows inputs commands inputsMatched commandsDenoted ledger
  unfold Follows at before ⊢
  rw [execute_more_inputs machine inputs [value] commands ledger [] within, perform_all_append]
  cases done : executeFrom machine inputs commands ledger [] with
  | none =>
      rw [done] at before
      simp only [before, Option.bind_none]
  | some outcome =>
      rw [done] at before
      obtain ⟨env, performed, keys, agrees⟩ := before
      have fresh := new_input_fresh session safe
      refine ⟨env ++ [(.argument (inputArg session.tx.inputs.length), .input (machine.input value))], ?_, ?_, ?_⟩
      · simp only [performed, Option.bind_some, Made.perform, input, valueEq]
      · simp only [Session.handles, List.map_append, keys]
        rfl
      · have atEnd : (inputs ++ [value])[session.tx.inputs.length]? = some value := by
          rw [inputsMatched.length_eq]
          exact List.getElem?_concat_length
        have widened := agrees_one_more session.handles env inputs [value] outcome.2 [] _ _ keys fresh agrees
          (Or.inl ⟨session.tx.inputs.length, value, rfl, atEnd, rfl⟩)
        rw [List.append_nil] at widened
        rw [Session.handles, List.map_append]
        exact widened

theorem command_input_value (inputs : List CallArg) (commands : List Command) (before index : Nat) (call : Call)
    (reads : call.Denotes inputs commands before (.result ⟨index⟩)) : call.inputValue = none := by
  generalize handleEq : Ref.result ⟨(index : Int)⟩ = handle at reads
  cases reads with
  | pure => cases handleEq
  | object => cases handleEq
  | transferObjects => rfl
  | splitCoins => rfl
  | mergeCoins => rfl
  | moveCall => rfl

theorem object_input_value (objectId : Str) (version : Option Int) (digest : Option Str)
    (initialSharedVersion : Option Int) (mutable : Bool) (callArg : CallArg) (noSlip : ¬ AddressSlip objectId)
    (made : objectInput objectId version digest initialSharedVersion mutable = .ok callArg) :
    objectValue objectId version digest initialSharedVersion mutable = callArg.value := by
  have address (data : Bytes) (decoded : addressBytes objectId = .ok data) : addressOf objectId = some data :=
    (address_of_iff objectId data).mpr ((clean_address_iff objectId data noSlip).mp decoded)
  cases initialSharedVersion with
  | some sharedVersion =>
      obtain ⟨objBytes, decoded, same⟩ := (Fallible.bind_ok _ _ _).mp made
      cases same
      rw [objectValue, address objBytes decoded]
      rfl
  | none =>
      cases version with
      | none => cases made
      | some version =>
          cases digest with
          | none => cases made
          | some digest =>
              obtain ⟨objBytes, decoded, rest⟩ := (Fallible.bind_ok _ _ _).mp made
              obtain ⟨digestBytes, digestDecoded, same⟩ := (Fallible.bind_ok _ _ _).mp rest
              cases same
              have digestEq := (base58_decode_iff digest digestBytes).mp digestDecoded
              simp only [objectValue, address objBytes decoded, digestEq, Option.bind_eq_bind, Option.bind_some]
              rfl

theorem input_call_value (inputs : List CallArg) (commands : List Command) (before index : Nat) (call : Call)
    (callArg : CallArg) (plain : call.Plain)
    (reads : call.Denotes inputs commands before (.argument (inputArg index)))
    (found : inputs[index]? = some callArg) : call.inputValue = callArg.value := by
  generalize handleEq : Ref.argument (inputArg index) = handle at reads
  cases reads with
  | pure value typeHint other data _ encoded otherFound =>
      obtain rfl := input_index_inj index other handleEq
      obtain rfl := Option.some.inj (found.symm.trans otherFound)
      rw [Call.inputValue, (contents_of_iff value typeHint data plain.2).mp encoded]
      rfl
  | object objectId version digest initialSharedVersion mutable other otherArg _ made otherFound =>
      obtain rfl := input_index_inj index other handleEq
      obtain rfl := Option.some.inj (found.symm.trans otherFound)
      exact object_input_value objectId version digest initialSharedVersion mutable callArg plain.1 made
  | transferObjects => cases handleEq
  | splitCoins => cases handleEq
  | mergeCoins => cases handleEq
  | moveCall => cases handleEq

theorem new_command_follows (session : Session) (call : Call) (added : List CallArg) (cmd : Command)
    (safe : session.Safe) (permitted : ∀ ref ∈ call.refs, Available session.handles ref) (plain : call.Plain)
    (follows : session.Follows machine)
    (denotes : call.Denotes (session.tx.inputs ++ added) (session.tx.commands ++ [cmd]) session.tx.inputs.length
      (.result ⟨session.tx.commands.length⟩)) :
    Session.Follows machine ⟨session.tx.extend added [cmd],
      session.made ++ [⟨call, .result ⟨session.tx.commands.length⟩, session.tx.inputs.length⟩]⟩ := by
  intro values allCommands inputsDenoted commandsDenoted ledger
  have allInputs : List.Forall₂ (fun arg value => arg.value = some value) (session.tx.inputs ++ added) values :=
    inputsDenoted
  rw [extend_inputs] at inputsDenoted
  rw [extend_commands] at commandsDenoted
  obtain ⟨inputs, more, rfl, inputsMatched, _⟩ := forall2_append_left _ _ _ _ inputsDenoted
  obtain ⟨commands, last, rfl, commandsMatched, lastMatched⟩ := forall2_append_left _ _ _ _ commandsDenoted
  obtain ⟨value, none_, cmdDenotes, over_, rfl⟩ := List.forall₂_cons_left_iff.mp lastMatched
  obtain rfl := List.forall₂_nil_left_iff.mp over_
  have within := denoted_within session.tx commands safe.arguments commandsMatched
  rw [inputsMatched.length_eq] at within
  have before := follows inputs commands inputsMatched commandsMatched ledger
  have noInput := command_input_value _ _ _ _ call denotes
  unfold Follows at before ⊢
  rw [execute_append, execute_more_inputs machine inputs more commands ledger [] within, perform_all_append]
  cases done : executeFrom machine inputs commands ledger [] with
  | none =>
      rw [done] at before
      simp only [before, Option.bind_none, Option.bind_eq_bind]
  | some outcome =>
      rw [done] at before
      obtain ⟨env, performed, keys, agrees⟩ := before
      have widened := agrees_more session.handles env inputs more outcome.2 [] [] agrees
      rw [List.append_nil, List.append_nil] at widened
      have sameAction := denoted_action allInputs _ _ _ call cmd value plain denotes List.getElem?_concat_length cmdDenotes
        fun ref member arg stands => available_value ref arg widened keys (permitted ref member) stands
      simp only [performed, Option.bind_some, Option.bind_eq_bind, Made.perform, noInput, executeFrom, sameAction]
      cases value.action (ArgumentValue.eval machine (inputs ++ more) outcome.2) with
      | none => simp only [Option.bind_none]
      | some action =>
          simp only [Option.bind_some]
          cases machine.act action outcome.1 with
          | none => simp only [Option.bind_none]
          | some acted =>
              have fresh := new_result_fresh session safe
              have length := execute_length machine inputs commands ledger outcome.1 [] outcome.2 done
              refine ⟨env ++ [(.result ⟨session.tx.commands.length⟩, .results acted.2)], rfl, ?_, ?_⟩
              · simp only [Session.handles, List.map_append, keys]
                rfl
              · have atEnd : (outcome.2 ++ [acted.2])[session.tx.commands.length]? = some acted.2 := by
                  rw [commandsMatched.length_eq, ← Nat.zero_add commands.length, ← List.length_nil, ← length]
                  exact List.getElem?_concat_length
                have widened := agrees_one_more session.handles env inputs more outcome.2 [acted.2] _ _ keys fresh agrees
                  (Or.inr ⟨session.tx.commands.length, acted.2, rfl, atEnd, rfl⟩)
                rw [Session.handles, List.map_append]
                exact widened

theorem step_follows (session : Session) (call : Call) (safe : session.Safe)
    (permitted : ∀ ref ∈ call.refs, Available session.handles ref)
    (plain : ∀ made ∈ (session.step call).made, made.call.Plain) (follows : session.Follows machine) :
    (session.step call).Follows machine := by
  have outcome := call_outcome session.tx call
  unfold Session.step at plain ⊢
  cases run : call.run.run session.tx with
  | error error tx =>
      rw [run] at outcome
      obtain ⟨added, rfl, _⟩ := outcome
      exact failed_call_follows session added safe follows
  | ok handle tx =>
      rw [run] at outcome plain
      obtain ⟨_, added, made, rfl, denotes, shape⟩ := outcome
      have callPlain : call.Plain := plain _ (List.mem_append_right _ (List.mem_singleton_self _))
      rcases shape with ⟨_, cmd, rfl, rfl⟩ | ⟨rfl, callArg, rfl, rfl⟩
      · exact new_command_follows session call added cmd safe permitted callPlain follows denotes
      · have input := input_call_value _ _ _ _ call callArg callPlain denotes List.getElem?_concat_length
        exact new_input_follows session call callArg safe follows input

theorem fresh_follows (tx : Transaction) (inputs : tx.inputs = []) (commands : tx.commands = []) :
    Session.Follows machine ⟨tx, []⟩ := by
  intro values commandValues inputsDenoted commandsDenoted ledger
  rw [inputs] at inputsDenoted
  rw [commands] at commandsDenoted
  cases inputsDenoted
  cases commandsDenoted
  refine ⟨[], rfl, rfl, ?_⟩
  intro handle member
  cases member

theorem reachable_follows (session : Session) (reachable : session.Reachable)
    (plain : ∀ made ∈ session.made, made.call.Plain) : session.Follows machine := by
  obtain ⟨tx, inputs, commands, runs⟩ := reachable
  have both : session.Safe ∧ session.Follows machine := by
    induction runs with
    | refl => exact ⟨fresh_safe tx inputs commands, fresh_follows tx inputs commands⟩
    | tail _ next ih =>
        obtain ⟨call, permitted, rfl⟩ := next
        have earlier := fun made member => plain made ((step_extends _ call).2.2.subset member)
        obtain ⟨safe, follows⟩ := ih earlier
        exact ⟨step_safe _ call safe permitted, step_follows _ call safe permitted plain follows⟩
  exact both.2

end

-- What the bytes ask for is what the calls asked for, one after the other.
theorem built_bytes_carry_out_calls (models : Models) (node : Node) (session : Session) (signer : Option Ed25519Keypair)
    (sent : List Request) (bytes : Bytes) (reachable : session.Reachable)
    (plain : ∀ made ∈ session.made, made.call.Plain) (settings : CleanSettings models node ⟨session.tx, sent⟩ signer)
    (short : bytes.length < 2 ^ 64) (built : BuildReturns models node signer session.tx sent bytes) :
    ∃ value, DecodesTo bytes value ∧ ∀ (V L : Type) (machine : Machine V L) (ledger : L),
      value.execute machine ledger = session.perform machine ledger := by
  obtain ⟨txData, middle, dataRun, serialized⟩ := (build_returns_data models node signer session.tx sent bytes).mp built
  have clean : ∀ made ∈ session.made, made.call.Clean := fun made member => (plain made member).1
  have valid := clean_session_well_formed session reachable clean
  obtain ⟨_, _, _, _, _, _, _, _, _, kind⟩ := transaction_data_sync_ok models node _ middle signer txData dataRun
  obtain ⟨value, denotes, decodes⟩ :=
    well_formed_build_decodes models node _ middle signer txData bytes valid settings dataRun serialized short
  refine ⟨value, decodes, ?_⟩
  intro V L machine ledger
  have inputs := denotes.inputs
  have commands := denotes.commands
  rw [kind] at inputs commands
  have followed : session.Follows machine := reachable_follows session reachable plain
  have follows := followed value.inputs value.commands inputs commands ledger
  unfold TransactionValue.execute Session.perform
  unfold Follows at follows
  cases done : executeFrom machine value.inputs value.commands ledger [] with
  | none =>
      rw [done] at follows
      rw [follows]
      rfl
  | some outcome =>
      rw [done] at follows
      obtain ⟨env, performed, _⟩ := follows
      rw [performed]
      rfl

theorem split_session_plain : ∀ made ∈ splitSession.made, made.call.Plain := by
  intro made member
  have clean := split_session_clean made member
  rcases List.mem_cons.mp member with rfl | later
  · refine ⟨clean, ?_⟩
    intro type named
    cases named
    trivial
  · refine ⟨clean, ?_⟩
    rw [List.mem_singleton.mp later]
    trivial

theorem split_first_input_action {V L : Type} (machine : Machine V L) (value : V) :
    splitFirstInput.action machine [(.argument (inputArg 0), .input value)] =
      some (.splitCoins machine.gasCoin [value]) := rfl

theorem split_session_perform {V L : Type} (machine : Machine V L) (ledger : L) :
    splitSession.perform machine ledger =
      (machine.act (.splitCoins machine.gasCoin [machine.input (.pure [7])]) ledger).map fun outcome =>
        (outcome.1, [outcome.2]) := by
  have made : splitSession.made = [⟨.pure (.int 7) (some (str "u8")), .argument (inputArg 0), 0⟩,
      ⟨splitFirstInput, .result ⟨0⟩, 1⟩] := rfl
  have contents : contentsOf (.int 7) (some (str "u8")) = some [7] := rfl
  rw [Session.perform, made]
  simp only [performAll, List.foldlM_cons, List.foldlM_nil, Made.perform, Call.inputValue, contents, Option.map_some,
    List.nil_append, split_first_input_action, Option.bind_eq_bind, Option.bind_some]
  cases machine.act (.splitCoins machine.gasCoin [machine.input (.pure [7])]) ledger with
  | none => rfl
  | some outcome => rfl

theorem split_session_carried_out :
    (∀ (V L : Type) (machine : Machine V L) (ledger : L), splitSession.perform machine ledger =
      (machine.act (.splitCoins machine.gasCoin [machine.input (.pure [7])]) ledger).map fun outcome =>
        (outcome.1, [outcome.2])) ∧
    ∃ value, DecodesTo splitTransactionBytes value ∧
      ∀ (V L : Type) (machine : Machine V L) (ledger : L),
        value.execute machine ledger = splitSession.perform machine ledger := by
  refine ⟨fun V L => split_session_perform, ?_⟩
  exact built_bytes_carry_out_calls refusingModels silentNode splitSession none [] splitTransactionBytes
    split_session_reachable split_session_plain (split_session_settings none []) (by decide)
    (split_session_returns none [])

end PyIota
