import PyIota.AddressNames
import PyIota.Transaction

set_option autoImplicit false

namespace PyIota

-- One builder call with its arguments. The typed forms of pure() are calls of
-- pure() with their own hint.
inductive Call where
  | pure (value : PyValue) (typeHint : Option Str)
  | object (objectId : Str) (version : Option Int) (digest : Option Str) (initialSharedVersion : Option Int)
      (mutable : Bool)
  | transferObjects (objects : List Ref) (recipient : Recipient)
  | splitCoins (coin : Ref) (amounts : List Amount)
  | mergeCoins (destination : Ref) (sources : List Ref)
  | moveCall (target : Str) (arguments : Option (List Ref)) (typeArguments : Option (List Str))

def Call.run : Call → Builder Ref
  | .pure value typeHint => return .argument (← Transaction.pure value typeHint)
  | .object objectId version digest initialSharedVersion mutable =>
      return .argument (← Transaction.object objectId version digest initialSharedVersion mutable)
  | .transferObjects objects recipient => return .result (← Transaction.transferObjects objects recipient)
  | .splitCoins coin amounts => return .result (← Transaction.splitCoins coin amounts)
  | .mergeCoins destination sources => return .result (← Transaction.mergeCoins destination sources)
  | .moveCall target arguments typeArguments => return .result (← Transaction.moveCall target arguments typeArguments)

def Recipient.refs : Recipient → List Ref
  | .address _ => []
  | .ref handle => [handle]

def Amount.refs : Amount → List Ref
  | .int _ => []
  | .ref handle => [handle]

def Call.refs : Call → List Ref
  | .pure _ _ => []
  | .object _ _ _ _ _ => []
  | .transferObjects objects recipient => objects ++ recipient.refs
  | .splitCoins coin amounts => coin :: amounts.flatMap Amount.refs
  | .mergeCoins destination sources => destination :: sources
  | .moveCall _ arguments _ => arguments.getD []

-- What a value passed in stands for: an argument for itself, a result for what
-- the whole command returns.
inductive Ref.Denotes : Ref → Argument → Prop where
  | argument (arg : Argument) : Ref.Denotes (.argument arg) arg
  | result (index : Int) : Ref.Denotes (.result ⟨index⟩) { kind := .result, index := index }

inductive AmountDenotes (inputs : List CallArg) (before : Nat) : Amount → Argument → Prop where
  | ref (ref : Ref) (arg : Argument) (stands : ref.Denotes arg) : AmountDenotes inputs before (.ref ref) arg
  | int (value : Int) (index : Nat) (data : Bytes) (fresh : before ≤ index) (sized : data.length = 8)
      (number : (Positional.ofLittleEndian data : Int) = value) (found : inputs[index]? = some (pureInput data)) :
      AmountDenotes inputs before (.int value) { kind := .input, index := index }

inductive RecipientDenotes (inputs : List CallArg) (before : Nat) : Recipient → Argument → Prop where
  | ref (ref : Ref) (arg : Argument) (stands : ref.Denotes arg) : RecipientDenotes inputs before (.ref ref) arg
  | address (address : Str) (index : Nat) (data : Bytes) (fresh : before ≤ index)
      (encoded : serializePureAddress address = .ok data) (named : ¬ AddressSlip address → NamesAddress address data)
      (found : inputs[index]? = some (pureInput data)) :
      RecipientDenotes inputs before (.address address) { kind := .input, index := index }

inductive Call.Denotes (inputs : List CallArg) (commands : List Command) (before : Nat) : Call → Ref → Prop where
  | pure (value : PyValue) (typeHint : Option Str) (index : Nat) (data : Bytes) (fresh : before ≤ index)
      (encoded : serializePure value typeHint = .ok data) (found : inputs[index]? = some (pureInput data)) :
      Call.Denotes inputs commands before (.pure value typeHint) (.argument { kind := .input, index := index })
  | object (objectId : Str) (version : Option Int) (digest : Option Str) (initialSharedVersion : Option Int)
      (mutable : Bool) (index : Nat) (callArg : CallArg) (fresh : before ≤ index)
      (made : objectInput objectId version digest initialSharedVersion mutable = .ok callArg)
      (found : inputs[index]? = some callArg) :
      Call.Denotes inputs commands before (.object objectId version digest initialSharedVersion mutable)
        (.argument { kind := .input, index := index })
  | transferObjects (objects : List Ref) (recipient : Recipient) (index : Nat) (args : List Argument)
      (recipientArg : Argument) (each : List.Forall₂ Ref.Denotes objects args)
      (resolved : RecipientDenotes inputs before recipient recipientArg)
      (found : commands[index]? = some {
        kind := .transferObjects
        transferObjects := some args
        transferRecipient := some recipientArg }) :
      Call.Denotes inputs commands before (.transferObjects objects recipient) (.result ⟨index⟩)
  | splitCoins (coin : Ref) (amounts : List Amount) (index : Nat) (coinArg : Argument) (amountArgs : List Argument)
      (stands : coin.Denotes coinArg) (resolved : List.Forall₂ (AmountDenotes inputs before) amounts amountArgs)
      (found : commands[index]? = some {
        kind := .splitCoins
        splitCoin := some coinArg
        splitAmounts := some amountArgs }) :
      Call.Denotes inputs commands before (.splitCoins coin amounts) (.result ⟨index⟩)
  | mergeCoins (destination : Ref) (sources : List Ref) (index : Nat) (destinationArg : Argument)
      (sourceArgs : List Argument) (stands : destination.Denotes destinationArg)
      (each : List.Forall₂ Ref.Denotes sources sourceArgs)
      (found : commands[index]? = some {
        kind := .mergeCoins
        mergeDestination := some destinationArg
        mergeSources := some sourceArgs }) :
      Call.Denotes inputs commands before (.mergeCoins destination sources) (.result ⟨index⟩)
  | moveCall (target : Str) (arguments : Option (List Ref)) (typeArguments : Option (List Str)) (index : Nat)
      (packageStr module function : Str) (package : Bytes) (args : List Argument)
      (parts : splitColons target = [packageStr, module, function]) (decoded : addressBytes packageStr = .ok package)
      (named : ¬ AddressSlip packageStr → NamesAddress packageStr package)
      (each : List.Forall₂ Ref.Denotes (arguments.getD []) args)
      (found : commands[index]? = some {
        kind := .moveCall
        moveCall := some {
          package := package
          module := module
          function := function
          typeArguments := typeArguments.getD []
          arguments := args } }) :
      Call.Denotes inputs commands before (.moveCall target arguments typeArguments) (.result ⟨index⟩)

theorem ref_denotes_iff (ref : Ref) (arg : Argument) : ref.Denotes arg ↔ resolveArgument ref = arg := by
  refine ⟨?_, ?_⟩
  · intro denotes
    cases denotes with
    | argument arg => rfl
    | result index => rfl
  · rintro rfl
    cases ref with
    | argument arg => exact .argument arg
    | result result => exact .result result.index

theorem resolved_denotes (ref : Ref) : ref.Denotes (resolveArgument ref) := (ref_denotes_iff ref _).mpr rfl

theorem each_denotes_iff (refs : List Ref) (args : List Argument) :
    List.Forall₂ Ref.Denotes refs args ↔ refs.map resolveArgument = args := by
  have same : Ref.Denotes = fun ref arg => resolveArgument ref = arg := by
    funext ref arg
    exact propext (ref_denotes_iff ref arg)
  rw [← List.forall₂_eq_eq_eq, List.forall₂_map_left_iff, same]

theorem each_resolved (refs : List Ref) : List.Forall₂ Ref.Denotes refs (refs.map resolveArgument) :=
  (each_denotes_iff refs _).mpr rfl

theorem result_index_inj (index other : Nat) (same : Ref.result ⟨(index : Int)⟩ = .result ⟨(other : Int)⟩) :
    index = other :=
  Int.ofNat.inj (congrArg TransactionResult.index (Ref.result.inj same))

theorem input_index_inj (index other : Nat) (same : Ref.argument (inputArg index) = .argument (inputArg other)) :
    index = other :=
  Int.ofNat.inj (congrArg Argument.index (Ref.argument.inj same))

theorem get_extended {α : Type} (short long : List α) (index : Nat) (item : α) (extends_ : short <+: long)
    (found : short[index]? = some item) : long[index]? = some item := by
  obtain ⟨tail, rfl⟩ := extends_
  have within : index < short.length := (List.getElem?_eq_some_iff.mp found).1
  rw [List.getElem?_append_left within, found]

-- Everything later only appends, so what a handle stood for it stands for.
theorem amount_denotes_later (inputs later : List CallArg) (before : Nat) (amount : Amount) (arg : Argument)
    (extends_ : inputs <+: later) (denotes : AmountDenotes inputs before amount arg) :
    AmountDenotes later before amount arg := by
  cases denotes with
  | ref ref arg stands => exact .ref ref arg stands
  | int value index data fresh sized number found =>
      exact .int value index data fresh sized number (get_extended inputs later index _ extends_ found)

theorem recipient_denotes_later (inputs later : List CallArg) (before : Nat) (recipient : Recipient) (arg : Argument)
    (extends_ : inputs <+: later) (denotes : RecipientDenotes inputs before recipient arg) :
    RecipientDenotes later before recipient arg := by
  cases denotes with
  | ref ref arg stands => exact .ref ref arg stands
  | address address index data fresh encoded named found =>
      exact .address address index data fresh encoded named (get_extended inputs later index _ extends_ found)

theorem call_denotes_later (inputs later : List CallArg) (commands after : List Command) (before : Nat) (call : Call)
    (handle : Ref) (inputsExtend : inputs <+: later) (commandsExtend : commands <+: after)
    (denotes : call.Denotes inputs commands before handle) : call.Denotes later after before handle := by
  cases denotes with
  | pure value typeHint index data fresh encoded found =>
      exact .pure value typeHint index data fresh encoded (get_extended inputs later index _ inputsExtend found)
  | object objectId version digest initialSharedVersion mutable index callArg fresh made found =>
      exact .object objectId version digest initialSharedVersion mutable index callArg fresh made
        (get_extended inputs later index _ inputsExtend found)
  | transferObjects objects recipient index args recipientArg each resolved found =>
      exact .transferObjects objects recipient index args recipientArg each
        (recipient_denotes_later inputs later before recipient recipientArg inputsExtend resolved)
        (get_extended commands after index _ commandsExtend found)
  | splitCoins coin amounts index coinArg amountArgs stands resolved found =>
      exact .splitCoins coin amounts index coinArg amountArgs stands
        (resolved.imp fun amount arg => amount_denotes_later inputs later before amount arg inputsExtend)
        (get_extended commands after index _ commandsExtend found)
  | mergeCoins destination sources index destinationArg sourceArgs stands each found =>
      exact .mergeCoins destination sources index destinationArg sourceArgs stands each
        (get_extended commands after index _ commandsExtend found)
  | moveCall target arguments typeArguments index packageStr module function package args parts decoded named each found =>
      exact .moveCall target arguments typeArguments index packageStr module function package args parts decoded named
        each (get_extended commands after index _ commandsExtend found)

theorem serialize_pure_u64 (value : Int) : serializePure (.int value) (some (str "u64")) = serializePureU64 value := rfl

theorem serialize_pure_address_str (address : Str) :
    serializePure (.str address) (some (str "address")) = serializePureAddress address := rfl

def AllPure (inputs : List CallArg) : Prop := ∀ arg ∈ inputs, ∃ data, arg = pureInput data

theorem serialize_pure_u64_eq (value : Int) : serializePureU64 value =
    if U64Range value then .ok (Positional.littleEndian 8 value.toNat) else .error (outOfRange "u64 out of range: " value) := by
  rw [serializePureU64, finish, writeU64, write_unsigned_eq, Emitter.emitted_write]
  rfl

theorem u64_data (value : Int) (data : Bytes) : serializePureU64 value = .ok data ↔
    data.length = 8 ∧ (Positional.ofLittleEndian data : Int) = value := by
  rw [serialize_pure_u64_eq]
  by_cases inRange : U64Range value
  · rw [if_pos inRange]
    have nonneg := inRange.1
    have bound := inRange.2
    have fits : value.toNat < 256 ^ 8 := by omega
    refine ⟨?_, ?_⟩
    · intro encoded
      obtain rfl := Except.ok.inj encoded
      rw [Positional.of_little_endian_little_endian 8 _ fits]
      exact ⟨Positional.length_little_endian 8 _, Int.toNat_of_nonneg nonneg⟩
    · rintro ⟨sized, rfl⟩
      rw [Int.toNat_natCast, ← sized, Positional.little_endian_of_little_endian]
  · rw [if_neg inRange]
    refine ⟨?_, ?_⟩
    · intro encoded
      cases encoded
    · rintro ⟨sized, rfl⟩
      have below := Positional.of_little_endian_lt data
      rw [sized] at below
      exact absurd ⟨Int.natCast_nonneg _, by omega⟩ inRange

def Amount.integer? : Amount → Option Int
  | .int value => some value
  | .ref _ => none

def integers (amounts : List Amount) : List Int := amounts.filterMap Amount.integer?

def StrandsAmount (amounts : List Amount) : Prop :=
  ∃ first rest, integers amounts = first :: rest ∧ U64Range first ∧ ∃ later ∈ rest, ¬ U64Range later

def Call.Strands : Call → Prop
  | .splitCoins _ amounts => StrandsAmount amounts
  | _ => False

def AmountsOutcome (tx : Transaction) (amounts : List Amount) : EStateM.Result PyError Transaction (List Argument) → Prop
  | .ok args next => (∀ value ∈ integers amounts, U64Range value) ∧
      ∃ added, next = tx.extend added [] ∧ AllPure added ∧
        List.Forall₂ (AmountDenotes (tx.inputs ++ added) tx.inputs.length) amounts args
  | .error _ next => (∃ value ∈ integers amounts, ¬ U64Range value) ∧
      ∃ added, next = tx.extend added [] ∧ AllPure added ∧ (added = [] ↔ ¬ StrandsAmount amounts)

theorem resolve_amount_run (tx : Transaction) (amount : Amount) : (resolveAmount amount).run tx = match amount with
    | .ref ref => .ok (resolveArgument ref) tx
    | .int value =>
        if U64Range value then
          .ok (inputArg tx.inputs.length) (tx.extend [pureInput (Positional.littleEndian 8 value.toNat)] [])
        else .error (outOfRange "u64 out of range: " value) tx := by
  cases amount with
  | ref ref => rfl
  | int value =>
      have run := pure_run tx (.int value) (some (str "u64"))
      rw [serialize_pure_u64, serialize_pure_u64_eq] at run
      simp only [resolveAmount, Transaction.pureU64, run]
      by_cases inRange : U64Range value
      · simp only [if_pos inRange]
      · simp only [if_neg inRange]

theorem amount_denotes_shift (tx : Transaction) (data : Bytes) (added : List CallArg) (amount : Amount) (arg : Argument)
    (denotes : AmountDenotes ((tx.extend [pureInput data] []).inputs ++ added) (tx.extend [pureInput data] []).inputs.length
      amount arg) : AmountDenotes (tx.inputs ++ pureInput data :: added) tx.inputs.length amount arg := by
  cases denotes with
  | ref ref arg stands => exact .ref ref arg stands
  | int value index other fresh sized number found =>
      simp only [extend_inputs, List.length_append, List.append_assoc] at fresh found
      exact .int value index other (by omega) sized number found

theorem integers_cons_int (value : Int) (amounts : List Amount) :
    integers (.int value :: amounts) = value :: integers amounts := rfl

theorem first_out_of_range (value : Int) (amounts : List Amount) (outOfRange : ¬ U64Range value) :
    ¬ StrandsAmount (.int value :: amounts) := by
  intro strands
  obtain ⟨first, rest, same, inRange, _⟩ := strands
  rw [integers_cons_int] at same
  rw [(List.cons.inj same).1] at outOfRange
  exact outOfRange inRange

def prepend (arg : Argument) :
    EStateM.Result PyError Transaction (List Argument) → EStateM.Result PyError Transaction (List Argument)
  | .ok args next => .ok (arg :: args) next
  | .error error next => .error error next

theorem amounts_outcome_int (tx : Transaction) (value : Int) (data : Bytes) (amounts : List Amount)
    (tail : EStateM.Result PyError Transaction (List Argument)) (inRange : U64Range value)
    (encoded : serializePureU64 value = .ok data)
    (outcome : AmountsOutcome (tx.extend [pureInput data] []) amounts tail) :
    AmountsOutcome tx (.int value :: amounts) (prepend (inputArg tx.inputs.length) tail) := by
  have first : AllPure [pureInput data] := by
    intro arg member
    exact ⟨data, List.mem_singleton.mp member⟩
  cases tail with
  | error error next =>
      obtain ⟨⟨later, member, outOfRange⟩, added, rfl, allPure, _⟩ := outcome
      have strands : StrandsAmount (.int value :: amounts) :=
        ⟨value, integers amounts, integers_cons_int value amounts, inRange, later, member, outOfRange⟩
      refine ⟨⟨later, List.mem_cons_of_mem value member, outOfRange⟩, pureInput data :: added, ?_, ?_, ?_⟩
      · rw [extend_extend]
        rfl
      · exact List.forall_mem_append.mpr ⟨first, allPure⟩
      · simp [strands]
  | ok args next =>
      obtain ⟨valid, added, rfl, allPure, matched⟩ := outcome
      refine ⟨List.forall_mem_cons.mpr ⟨inRange, valid⟩, pureInput data :: added, ?_, ?_, ?_⟩
      · rw [extend_extend]
        rfl
      · exact List.forall_mem_append.mpr ⟨first, allPure⟩
      · have here : (tx.inputs ++ pureInput data :: added)[tx.inputs.length]? = some (pureInput data) := by simp
        obtain ⟨sized, number⟩ := (u64_data value data).mp encoded
        apply List.Forall₂.cons (.int value tx.inputs.length data le_rfl sized number here)
        exact matched.imp fun later arg denotes => amount_denotes_shift tx data added later arg denotes

theorem resolve_amounts_outcome (tx : Transaction) (amounts : List Amount) :
    AmountsOutcome tx amounts ((resolveAmounts amounts).run tx) := by
  induction amounts generalizing tx with
  | nil => exact ⟨by simp [integers], [], by simp, by simp [AllPure], .nil⟩
  | cons amount amounts ih =>
      have head := resolve_amount_run tx amount
      simp only [resolveAmounts, EStateM.run_bind]
      cases amount with
      | ref ref =>
          have tail := ih tx
          rw [head]
          simp only
          cases rest : (resolveAmounts amounts).run tx with
          | error error next =>
              rw [rest] at tail
              exact tail
          | ok args next =>
              rw [rest] at tail
              obtain ⟨valid, added, nextEq, allPure, matched⟩ := tail
              exact ⟨valid, added, nextEq, allPure, .cons (.ref ref _ (resolved_denotes ref)) matched⟩
      | int value =>
          simp only at head
          rw [head]
          by_cases inRange : U64Range value
          · have encoded := serialize_pure_u64_eq value
            rw [if_pos inRange] at encoded
            have whole := amounts_outcome_int tx value _ amounts _ inRange encoded (ih _)
            rw [if_pos inRange]
            simp only
            cases rest : (resolveAmounts amounts).run (tx.extend [pureInput (Positional.littleEndian 8 value.toNat)] []) with
            | error error next =>
                rw [rest] at whole
                exact whole
            | ok args next =>
                rw [rest] at whole
                exact whole
          · have notStranded := first_out_of_range value amounts inRange
            rw [if_neg inRange]
            exact ⟨⟨value, List.mem_cons_self, inRange⟩, [], by simp, by simp [AllPure], by simp [notStranded]⟩

theorem strands_out_of_range (amounts : List Amount) (strands : StrandsAmount amounts) :
    ∃ value ∈ integers amounts, ¬ U64Range value := by
  obtain ⟨first, rest, same, _, later, member, outOfRange⟩ := strands
  rw [same]
  exact ⟨later, List.mem_cons_of_mem first member, outOfRange⟩

-- What one call can do. A call that returns has made exactly one input or one
-- command, apart from the pure inputs its arguments became; a call that raises
-- has made no command, and only split_coins can have made inputs by then.
def CallOutcome (tx : Transaction) (call : Call) : EStateM.Result PyError Transaction Ref → Prop
  | .ok handle next => ¬ call.Strands ∧
      ∃ added made, next = tx.extend added made ∧ call.Denotes next.inputs next.commands tx.inputs.length handle ∧
        ((AllPure added ∧ ∃ cmd, made = [cmd] ∧ handle = .result ⟨tx.commands.length⟩) ∨
          (made = [] ∧ ∃ callArg, added = [callArg] ∧ handle = .argument (inputArg tx.inputs.length)))
  | .error _ next => ∃ added, next = tx.extend added [] ∧ AllPure added ∧ (added = [] ↔ ¬ call.Strands)

theorem run_return {α β : Type} (tx : Transaction) (method : Builder α) (f : α → β) :
    (do let value ← method; pure (f value) : Builder β).run tx = match method.run tx with
      | .ok value next => .ok (f value) next
      | .error error next => .error error next := by
  simp only [EStateM.run_bind]
  cases method.run tx <;> rfl

theorem raised_outcome (tx : Transaction) (call : Call) (error : PyError) (notStranded : ¬ call.Strands) :
    CallOutcome tx call (.error error tx) :=
  ⟨[], by simp, by simp [AllPure], by simp [notStranded]⟩

theorem input_outcome (tx : Transaction) (call : Call) (callArg : CallArg) (notStranded : ¬ call.Strands)
    (denotes : call.Denotes (tx.inputs ++ [callArg]) (tx.commands ++ []) tx.inputs.length
      (.argument (inputArg tx.inputs.length))) :
    CallOutcome tx call (.ok (.argument (inputArg tx.inputs.length)) (tx.extend [callArg] [])) :=
  ⟨notStranded, [callArg], [], rfl, denotes, Or.inr ⟨rfl, callArg, rfl, rfl⟩⟩

theorem command_outcome (tx : Transaction) (call : Call) (added : List CallArg) (cmd : Command)
    (notStranded : ¬ call.Strands) (allPure : AllPure added)
    (denotes : call.Denotes (tx.inputs ++ added) (tx.commands ++ [cmd]) tx.inputs.length
      (.result ⟨tx.commands.length⟩)) :
    CallOutcome tx call (.ok (.result ⟨tx.commands.length⟩) (tx.extend added [cmd])) :=
  ⟨notStranded, added, [cmd], rfl, denotes, Or.inl ⟨allPure, cmd, rfl, rfl⟩⟩

theorem all_pure_nil : AllPure [] := by
  intro arg member
  cases member

theorem transfer_objects_outcome (tx : Transaction) (objects : List Ref) (recipient : Recipient) :
    CallOutcome tx (.transferObjects objects recipient) ((Call.transferObjects objects recipient).run.run tx) := by
  have recipientRun := resolve_recipient_run tx recipient
  rw [Call.run, run_return]
  simp only [Transaction.transferObjects, EStateM.run_bind, recipientRun]
  cases recipient with
  | ref ref =>
      simp only [add_command_run]
      apply command_outcome tx _ [] _ id all_pure_nil
      exact .transferObjects objects _ tx.commands.length _ _ (each_resolved objects)
        (.ref ref _ (resolved_denotes ref)) (by simp)
  | address address =>
      simp only [serialize_pure_address_str]
      cases encoded : serializePureAddress address with
      | error error => exact raised_outcome tx _ error id
      | ok data =>
          have resolved : RecipientDenotes (tx.inputs ++ [pureInput data]) tx.inputs.length (.address address)
              (inputArg tx.inputs.length) :=
            .address address tx.inputs.length data le_rfl encoded
              (fun noSlip => (clean_address_iff address data noSlip).mp encoded) (by simp)
          simp only [add_command_run, extend_commands, extend_extend, List.append_nil, List.nil_append]
          apply command_outcome tx _ [pureInput data] _ id
          · intro arg member
            exact ⟨data, List.mem_singleton.mp member⟩
          · exact .transferObjects objects _ tx.commands.length _ (inputArg tx.inputs.length) (each_resolved objects) resolved
              (by simp)

theorem split_coins_outcome (tx : Transaction) (coin : Ref) (amounts : List Amount) :
    CallOutcome tx (.splitCoins coin amounts) ((Call.splitCoins coin amounts).run.run tx) := by
  have outcome := resolve_amounts_outcome tx amounts
  rw [Call.run, run_return]
  simp only [Transaction.splitCoins, EStateM.run_bind]
  cases run : (resolveAmounts amounts).run tx with
  | error error next =>
      rw [run] at outcome
      exact outcome.2
  | ok args next =>
      rw [run] at outcome
      obtain ⟨valid, added, rfl, allPure, matched⟩ := outcome
      have notStranded : ¬ StrandsAmount amounts := by
        intro strands
        obtain ⟨value, member, outOfRange⟩ := strands_out_of_range amounts strands
        exact outOfRange (valid value member)
      simp only [add_command_run, extend_commands, extend_extend, List.append_nil, List.nil_append]
      apply command_outcome tx (.splitCoins coin amounts) added _ notStranded allPure
      exact .splitCoins coin amounts tx.commands.length _ args (resolved_denotes coin) matched (by simp)

theorem move_call_command_ok (target : Str) (arguments : Option (List Ref)) (typeArguments : Option (List Str))
    (cmd : Command) (made : moveCallCommand target arguments typeArguments = .ok cmd) :
    ∃ package module function packageStr, splitColons target = [packageStr, module, function] ∧
      addressBytes packageStr = .ok package ∧ cmd = { kind := .moveCall, moveCall := some {
        package := package
        module := module
        function := function
        typeArguments := typeArguments.getD []
        arguments := (arguments.getD []).map resolveArgument } } := by
  unfold moveCallCommand at made
  split at made
  · rename_i packageStr module function parts
    obtain ⟨package, packageEq, same⟩ := (Fallible.bind_ok _ _ _).mp made
    cases same
    exact ⟨package, module, function, packageStr, parts, packageEq, rfl⟩
  · cases made

-- Strands is False for every call but split_coins, so `id` refutes it.
theorem call_outcome (tx : Transaction) (call : Call) : CallOutcome tx call (call.run.run tx) := by
  cases call with
  | pure value typeHint =>
      rw [Call.run, run_return, pure_run]
      cases encoded : serializePure value typeHint with
      | error error => exact raised_outcome tx _ error id
      | ok data =>
          apply input_outcome tx _ (pureInput data) id
          exact .pure value typeHint tx.inputs.length data le_rfl encoded (by simp)
  | object objectId version digest initialSharedVersion mutable =>
      rw [Call.run, run_return, object_run]
      cases made : objectInput objectId version digest initialSharedVersion mutable with
      | error error => exact raised_outcome tx _ error id
      | ok callArg =>
          apply input_outcome tx _ callArg id
          exact .object _ _ _ _ _ tx.inputs.length callArg le_rfl made (by simp)
  | transferObjects objects recipient => exact transfer_objects_outcome tx objects recipient
  | splitCoins coin amounts => exact split_coins_outcome tx coin amounts
  | mergeCoins destination sources =>
      rw [Call.run, run_return, merge_coins_run]
      apply command_outcome tx _ [] _ id all_pure_nil
      exact .mergeCoins destination sources tx.commands.length _ _ (resolved_denotes destination) (each_resolved sources)
        (by simp)
  | moveCall target arguments typeArguments =>
      rw [Call.run, run_return, move_call_run]
      cases made : moveCallCommand target arguments typeArguments with
      | error error => exact raised_outcome tx _ error id
      | ok cmd =>
          obtain ⟨package, module, function, packageStr, parts, decoded, rfl⟩ :=
            move_call_command_ok target arguments typeArguments cmd made
          apply command_outcome tx _ [] _ id all_pure_nil
          exact .moveCall target arguments typeArguments tx.commands.length packageStr module function package _ parts
            decoded (fun noSlip => (clean_address_iff packageStr package noSlip).mp decoded) (each_resolved _) (by simp)

end PyIota
