import PyIota.CleanBuilds
import PyIota.CommandEncoding

set_option autoImplicit false

namespace PyIota

open Coroutine Emitter

def U16Range (value : Int) : Prop := 0 ≤ value ∧ value ≤ 0xFFFF

-- The indices an argument's kind uses have two bytes each.
def Argument.Fits (arg : Argument) : Prop :=
  match arg.kind with
  | .gasCoin => True
  | .input => U16Range arg.index
  | .result => U16Range arg.index
  | .nestedResult => U16Range arg.index ∧ U16Range arg.nestedIndex

def Command.Fits (cmd : Command) : Prop :=
  (∀ arg ∈ cmd.arguments, arg.Fits) ∧ ∀ mc, cmd.moveCall = some mc →
    encodable mc.module ∧ encodable mc.function ∧ ∀ text ∈ mc.typeArguments, Taken text

structure Transaction.Fits (tx : Transaction) : Prop where
  inputs : ∀ arg ∈ tx.inputs, arg.Encodable
  commands : ∀ cmd ∈ tx.commands, cmd.Fits
  budget : U64Range tx.gasBudgetOrDefault

theorem emitted_u16_total (value : Int) : (∃ out, emitted (writeU16 value) = .ok out) ↔ U16Range value := by
  rw [writeU16, write_unsigned_eq, emitted_write, encodeUnsigned]
  by_cases inRange : U16Range value
  · have taken : 0 ≤ value ∧ value ≤ 0xFFFF := inRange
    simp only [if_pos taken, inRange, iff_true]
    exact ⟨_, rfl⟩
  · have refused : ¬ (0 ≤ value ∧ value ≤ 0xFFFF) := inRange
    simp only [if_neg refused, inRange, iff_false]
    intro done
    obtain ⟨out, same⟩ := done
    cases same

theorem argument_total (arg : Argument) : (∃ out, arg.serialize = .ok out) ↔ arg.Fits := by
  have index (n : Nat) : (∃ out, emitted (writeVariantIndex n) = .ok out) ↔ True := by
    rw [write_variant_index_eq, emitted_append_total]
  have framed (value : Int) : Framed (writeU16 value) := framed_unsigned _ _ _ _
  unfold Argument.serialize Argument.Fits finish
  cases arg.kind with
  | gasCoin =>
      rw [emitted_seq_total _ _ (framed_pure _), index]
      exact ⟨fun _ => trivial, fun _ => ⟨trivial, [], rfl⟩⟩
  | input => rw [emitted_seq_total _ _ (framed _), index, true_and, emitted_u16_total]
  | result => rw [emitted_seq_total _ _ (framed _), index, true_and, emitted_u16_total]
  | nestedResult =>
      rw [emitted_seq_total _ _ (framed_bind _ _ (framed _) fun _ => framed _), emitted_seq_total _ _ (framed _), index,
        true_and, emitted_u16_total, emitted_u16_total]

theorem arguments_total (args : List Argument) :
    (∃ pieces, Encodes Argument.serialize args pieces) ↔ ∀ arg ∈ args, arg.Fits := by
  simp only [encodes_total, argument_total]

theorem type_arguments_total (texts : List Str) :
    (∃ pieces, Encodes serializeTypeTag texts pieces) ↔ ∀ text ∈ texts, Taken text := by
  rw [encodes_total]
  exact forall₂_congr fun text _ => ⟨taken_of_accepted text, accepted_of_taken text⟩

theorem supported_total (cmd : Command) (supported : cmd.kind.Supported) :
    (∃ piece, cmd.serialize = .ok piece) ↔ ∃ body, cmd.Body body := by
  simp only [supported_written_iff cmd supported]
  refine ⟨?_, ?_⟩
  · intro written
    obtain ⟨_, body, _, _, isBody⟩ := written
    exact ⟨body, isBody⟩
  · intro given
    obtain ⟨body, isBody⟩ := given
    exact ⟨_, body, rfl, body_ne_nil cmd body isBody, isBody⟩

theorem transfer_total (objects : List Argument) (recipient : Argument) :
    let cmd : Command :=
      { kind := .transferObjects, transferObjects := some objects, transferRecipient := some recipient }
    (∃ piece, cmd.serialize = .ok piece) ↔ cmd.Fits := by
  intro cmd
  have args : cmd.arguments = objects ++ [recipient] := by simp [cmd, Command.arguments]
  rw [supported_total cmd trivial, Command.Fits, args, List.forall_mem_append, List.forall_mem_singleton,
    ← arguments_total, ← argument_total]
  refine ⟨?_, ?_⟩
  · intro given
    obtain ⟨body, isBody⟩ := given
    cases isBody with
    | transferObjects others other pieces last _ hasObjects hasRecipient encoded lastEncoded =>
        cases hasObjects
        cases hasRecipient
        exact ⟨⟨⟨pieces, encoded⟩, last, lastEncoded⟩, fun mc absent => (Option.some_ne_none mc absent.symm).elim⟩
    | _ => contradiction
  · intro fits
    obtain ⟨⟨⟨pieces, encoded⟩, last, lastEncoded⟩, _⟩ := fits
    exact ⟨_, .transferObjects objects recipient pieces last rfl rfl rfl encoded lastEncoded⟩

theorem split_total (coin : Argument) (amounts : List Argument) :
    let cmd : Command := { kind := .splitCoins, splitCoin := some coin, splitAmounts := some amounts }
    (∃ piece, cmd.serialize = .ok piece) ↔ cmd.Fits := by
  intro cmd
  have args : cmd.arguments = coin :: amounts := by simp [cmd, Command.arguments]
  rw [supported_total cmd trivial, Command.Fits, args, List.forall_mem_cons, ← arguments_total, ← argument_total]
  refine ⟨?_, ?_⟩
  · intro given
    obtain ⟨body, isBody⟩ := given
    cases isBody with
    | splitCoins other others first pieces _ hasCoin hasAmounts firstEncoded encoded =>
        cases hasCoin
        cases hasAmounts
        exact ⟨⟨⟨first, firstEncoded⟩, pieces, encoded⟩, fun mc absent => (Option.some_ne_none mc absent.symm).elim⟩
    | _ => contradiction
  · intro fits
    obtain ⟨⟨⟨first, firstEncoded⟩, pieces, encoded⟩, _⟩ := fits
    exact ⟨_, .splitCoins coin amounts first pieces rfl rfl rfl firstEncoded encoded⟩

theorem merge_total (destination : Argument) (sources : List Argument) :
    let cmd : Command := { kind := .mergeCoins, mergeDestination := some destination, mergeSources := some sources }
    (∃ piece, cmd.serialize = .ok piece) ↔ cmd.Fits := by
  intro cmd
  have args : cmd.arguments = destination :: sources := by simp [cmd, Command.arguments]
  rw [supported_total cmd trivial, Command.Fits, args, List.forall_mem_cons, ← arguments_total, ← argument_total]
  refine ⟨?_, ?_⟩
  · intro given
    obtain ⟨body, isBody⟩ := given
    cases isBody with
    | mergeCoins other others first pieces _ hasDestination hasSources firstEncoded encoded =>
        cases hasDestination
        cases hasSources
        exact ⟨⟨⟨first, firstEncoded⟩, pieces, encoded⟩, fun mc absent => (Option.some_ne_none mc absent.symm).elim⟩
    | _ => contradiction
  · intro fits
    obtain ⟨⟨⟨first, firstEncoded⟩, pieces, encoded⟩, _⟩ := fits
    exact ⟨_, .mergeCoins destination sources first pieces rfl rfl rfl firstEncoded encoded⟩

theorem move_call_total (mc : ProgrammableMoveCall) :
    let cmd : Command := { kind := .moveCall, moveCall := some mc }
    (∃ piece, cmd.serialize = .ok piece) ↔ cmd.Fits := by
  intro cmd
  have args : cmd.arguments = mc.arguments := by simp [cmd, Command.arguments]
  rw [supported_total cmd trivial, Command.Fits, args, ← arguments_total]
  refine ⟨?_, ?_⟩
  · intro given
    obtain ⟨body, isBody⟩ := given
    cases isBody with
    | moveCall other module function types arguments _ hasCall moduleText functionText typeTags encoded =>
        cases hasCall
        refine ⟨⟨arguments, encoded⟩, ?_⟩
        intro called same
        cases same
        exact ⟨(encode_str_ok_iff _).mp ⟨module, moduleText⟩, (encode_str_ok_iff _).mp ⟨function, functionText⟩,
          (type_arguments_total _).mp ⟨types, typeTags⟩⟩
    | _ => contradiction
  · intro fits
    obtain ⟨⟨arguments, encoded⟩, names⟩ := fits
    obtain ⟨moduleValid, functionValid, taken⟩ := names mc rfl
    obtain ⟨module, moduleText⟩ := (encode_str_ok_iff _).mpr moduleValid
    obtain ⟨function, functionText⟩ := (encode_str_ok_iff _).mpr functionValid
    obtain ⟨types, typeTags⟩ := (type_arguments_total _).mpr taken
    exact ⟨_, .moveCall mc module function types arguments rfl rfl moduleText functionText typeTags encoded⟩

theorem denoted_command_total (inputs : List CallArg) (commands : List Command) (before index : Nat) (call : Call)
    (cmd : Command) (reads : call.Denotes inputs commands before (.result ⟨index⟩))
    (found : commands[index]? = some cmd) : (∃ piece, cmd.serialize = .ok piece) ↔ cmd.Fits := by
  generalize handleEq : Ref.result ⟨(index : Int)⟩ = handle at reads
  cases reads with
  | pure => cases handleEq
  | object => cases handleEq
  | transferObjects objects recipient other args recipientArg _ _ otherFound =>
      obtain rfl := result_index_inj index other handleEq
      obtain rfl := Option.some.inj (found.symm.trans otherFound)
      exact transfer_total _ _
  | splitCoins coin amounts other coinArg amountArgs _ _ otherFound =>
      obtain rfl := result_index_inj index other handleEq
      obtain rfl := Option.some.inj (found.symm.trans otherFound)
      exact split_total _ _
  | mergeCoins destination sources other destinationArg sourceArgs _ _ otherFound =>
      obtain rfl := result_index_inj index other handleEq
      obtain rfl := Option.some.inj (found.symm.trans otherFound)
      exact merge_total _ _
  | moveCall target arguments typeArguments other packageStr module function package args _ _ _ _ otherFound =>
      obtain rfl := result_index_inj index other handleEq
      obtain rfl := Option.some.inj (found.symm.trans otherFound)
      exact move_call_total _

theorem session_command_total (session : Session) (safe : session.Safe) (cmd : Command)
    (member : cmd ∈ session.tx.commands) : (∃ piece, cmd.serialize = .ok piece) ↔ cmd.Fits := by
  obtain ⟨index, within, cmdEq⟩ := List.mem_iff_getElem.mp member
  obtain ⟨made, inMade, handleEq⟩ := safe.origin index within
  have denotes := safe.made made inMade
  rw [handleEq] at denotes
  exact denoted_command_total _ _ _ index made.call cmd denotes (List.getElem?_eq_some_iff.mpr ⟨within, cmdEq⟩)

theorem session_kind_total (session : Session) (safe : session.Safe) :
    (∃ bytes, ProgrammableTransaction.serialize ⟨session.tx.inputs, session.tx.commands⟩ = .ok bytes) ↔
      (∀ arg ∈ session.tx.inputs, arg.Encodable) ∧ ∀ cmd ∈ session.tx.commands, cmd.Fits := by
  have inputsTotal : (∃ inputs, Encodes CallArg.serialize session.tx.inputs inputs) ↔
      ∀ arg ∈ session.tx.inputs, arg.Encodable := by
    simp only [encodes_total, call_arg_total]
  have commandsTotal : (∃ commands, Encodes Command.serialize session.tx.commands commands) ↔
      ∀ cmd ∈ session.tx.commands, cmd.Fits := by
    rw [encodes_total]
    exact forall₂_congr (session_command_total session safe)
  rw [← inputsTotal, ← commandsTotal]
  simp only [programmable_transaction_serialize_iff]
  refine ⟨?_, ?_⟩
  · intro done
    obtain ⟨bytes, inputs, commands, inputsEncoded, commandsEncoded, _⟩ := done
    exact ⟨⟨inputs, inputsEncoded⟩, commands, commandsEncoded⟩
  · intro both
    obtain ⟨⟨inputs, inputsEncoded⟩, commands, commandsEncoded⟩ := both
    exact ⟨_, inputs, commands, inputsEncoded, commandsEncoded, rfl⟩

theorem gas_payment_total (gas : GasPayment) : (∃ out, gas.serialize = .ok out) ↔
    (∀ ref ∈ gas.payment, U64Range ref.version) ∧ U64Range gas.price ∧ U64Range gas.budget := by
  have refs : (∃ out, emitted (writeVector gas.payment fun ref => writeSerialized ref.serialize) = .ok out) ↔
      ∀ ref ∈ gas.payment, U64Range ref.version := by
    have layout (out : Bytes) := emitted_vector gas.payment (fun ref => writeSerialized ref.serialize)
      BcsObjectRef.serialize (fun ref => write_serialized_eq _) out
    have total := encodes_total BcsObjectRef.serialize gas.payment
    simp only [object_ref_total] at total
    rw [← total]
    simp only [layout]
    refine ⟨?_, ?_⟩
    · intro done
      obtain ⟨_, pieces, encoded, _⟩ := done
      exact ⟨pieces, encoded⟩
    · intro each
      obtain ⟨pieces, encoded⟩ := each
      exact ⟨_, pieces, encoded, rfl⟩
  have framedBudget : Framed (writeU64 gas.budget) := framed_unsigned _ _ _ _
  have framedPrice : Framed (writeU64 gas.price >>= fun _ => writeU64 gas.budget) :=
    framed_bind _ _ (framed_unsigned _ _ _ _) fun _ => framedBudget
  have framedOwner : Framed (writeFixedBytes gas.owner >>= fun _ => writeU64 gas.price >>= fun _ => writeU64 gas.budget) :=
    framed_bind _ _ (framed_append _) fun _ => framedPrice
  rw [GasPayment.serialize, finish, emitted_seq_total _ _ framedOwner, emitted_seq_total _ _ framedPrice,
    emitted_seq_total _ _ framedBudget, writeFixedBytes, emitted_append_total, emitted_u64_total, emitted_u64_total, refs,
    true_and]

theorem transaction_data_total (session : Session) (safe : session.Safe) (txData : TransactionData)
    (kind : txData.kind = ⟨session.tx.inputs, session.tx.commands⟩) (noEpoch : txData.expirationEpoch = none) :
    (∃ bytes, txData.serialize = .ok bytes) ↔
      ((∀ arg ∈ session.tx.inputs, arg.Encodable) ∧ ∀ cmd ∈ session.tx.commands, cmd.Fits) ∧
        (∀ ref ∈ txData.gas.payment, U64Range ref.version) ∧ U64Range txData.gas.price ∧ U64Range txData.gas.budget := by
  have index (n : Nat) : (∃ out, emitted (writeVariantIndex n) = .ok out) ↔ True := by
    rw [write_variant_index_eq, emitted_append_total]
  have serialized (encoding : Except PyError Bytes) :
      (∃ out, emitted (writeSerialized encoding) = .ok out) ↔ ∃ out, encoding = .ok out := by
    rw [write_serialized_eq, emitted_write]
  have framedEnd : Framed (writeExpiration txData.expirationEpoch) := framed_expiration _
  have framedGas := framed_bind _ _ (framed_serialized txData.gas.serialize) fun _ => framedEnd
  have framedSender := framed_bind _ _ (framed_fixed_bytes txData.sender) fun _ => framedGas
  have framedKind := framed_bind _ _ (framed_serialized txData.kind.serialize) fun _ => framedSender
  have framedVariant := framed_bind _ _
    (framed_variant_index TransactionKindVariant.programmableTransaction.index) fun _ => framedKind
  have first := index 0
  rw [TransactionData.serialize, finish, emitted_seq_total _ _ framedVariant, emitted_seq_total _ _ framedKind,
    emitted_seq_total _ _ framedSender, emitted_seq_total _ _ framedGas, emitted_seq_total _ _ framedEnd, serialized,
    serialized, index, writeFixedBytes, emitted_append_total, kind, session_kind_total session safe, gas_payment_total,
    noEpoch, writeExpiration, index]
  simp only [true_and, and_true]
  exact and_iff_right (first.mpr trivial)

-- What a build makes of the transaction and of what it has looked up.
def Transaction.data (tx : Transaction) (sender : Bytes) (price : Int) (payment : List BcsObjectRef) : TransactionData where
  kind := ⟨tx.inputs, tx.commands⟩
  sender := sender
  gas := ⟨payment, sender, price, tx.gasBudgetOrDefault⟩

theorem transaction_data_sync_runs (models : Models) (node : Node) (world priced final : World Transaction Request)
    (signer : Option Ed25519Keypair) (sender : Str) (senderBytes : Bytes) (price : Int) (refs : List BcsObjectRef)
    (chosen : senderOrSigner world.state.sender signer = some sender) (senderEq : addressBytes sender = .ok senderBytes)
    (priceRun : (Transaction.gasPriceOrReferenceSync node).run world = .ok price priced)
    (paymentRun : (Transaction.resolveGasPaymentSync models node sender).run priced = .ok refs final) :
    (Transaction.transactionDataSync models node signer).run world =
      .ok (world.state.data senderBytes price refs) final := by
  have priceKept := state_kept _ _ _ _ (gas_price_keeps_state node) priceRun
  have paymentKept := state_kept _ _ _ _ (resolve_gas_payment_keeps_state models node sender) paymentRun
  refine (direct_bind_ok _ _ _ _ _).mpr ⟨world.state, world, rfl, ?_⟩
  simp only [chosen]
  refine (direct_bind_ok _ _ _ _ _).mpr ⟨senderBytes, world, (direct_check_ok _ _ _ _).mpr ⟨senderEq, rfl⟩, ?_⟩
  refine (direct_bind_ok _ _ _ _ _).mpr ⟨price, priced, priceRun, ?_⟩
  refine (direct_bind_ok _ _ _ _ _).mpr ⟨priced.state, priced, rfl, ?_⟩
  refine (direct_bind_ok _ _ _ _ _).mpr ⟨refs, final, paymentRun, ?_⟩
  refine (direct_bind_ok _ _ _ _ _).mpr ⟨final.state, final, rfl, ?_⟩
  rw [paymentKept, priceKept]
  rfl

theorem transaction_data_made (models : Models) (node : Node) (world final : World Transaction Request)
    (signer : Option Ed25519Keypair) (txData : TransactionData)
    (run : (Transaction.transactionDataSync models node signer).run world = .ok txData final) :
    ∃ sender, senderOrSigner world.state.sender signer = some sender ∧ addressBytes sender = .ok txData.sender ∧
      txData = world.state.data txData.sender txData.gas.price txData.gas.payment := by
  obtain ⟨sender, priced, chosen, decoded, _, priceRun, _, _, paymentRun, _⟩ :=
    transaction_data_sync_ok models node _ final signer txData run
  have same := transaction_data_sync_runs models node _ priced final signer sender _ _ _ chosen decoded priceRun paymentRun
  exact ⟨sender, chosen, decoded, (EStateM.Result.ok.inj (run.symm.trans same)).1⟩

-- Every way a build can fail is in the transaction, in the gas price or in the payment.
theorem build_returns_iff (models : Models) (node : Node) (session : Session) (signer : Option Ed25519Keypair)
    (sent : List Request) (reachable : session.Reachable) :
    (∃ bytes, BuildReturns models node signer session.tx sent bytes) ↔
      session.tx.Fits ∧ ∃ sender senderBytes price priced refs final,
        senderOrSigner session.tx.sender signer = some sender ∧ addressBytes sender = .ok senderBytes ∧
          (Transaction.gasPriceOrReferenceSync node).run ⟨session.tx, sent⟩ = .ok price priced ∧ U64Range price ∧
          (Transaction.resolveGasPaymentSync models node sender).run priced = .ok refs final ∧
          ∀ ref ∈ refs, U64Range ref.version := by
  have safe := reachable_safe session reachable
  simp only [build_returns_data]
  refine ⟨?_, ?_⟩
  · intro returned
    obtain ⟨bytes, txData, final, dataRun, serialized⟩ := returned
    obtain ⟨sender, priced, chosen, senderEq, _, priceRun, budget, _, paymentRun, kind⟩ :=
      transaction_data_sync_ok models node _ final signer txData dataRun
    have same := transaction_data_sync_runs models node _ priced final signer sender _ _ _ chosen senderEq priceRun paymentRun
    have made := (EStateM.Result.ok.inj (dataRun.symm.trans same)).1
    have noEpoch : txData.expirationEpoch = none := congrArg TransactionData.expirationEpoch made
    obtain ⟨⟨inputs, commands⟩, versions, priceRange, budgetRange⟩ :=
      (transaction_data_total session safe txData kind noEpoch).mp ⟨bytes, serialized⟩
    rw [budget] at budgetRange
    exact ⟨⟨inputs, commands, budgetRange⟩, sender, _, _, priced, _, final, chosen, senderEq, priceRun, priceRange,
      paymentRun, versions⟩
  · intro fits
    obtain ⟨⟨inputs, commands, budgetRange⟩, sender, senderBytes, price, priced, refs, final, chosen, senderEq, priceRun,
      priceRange, paymentRun, versions⟩ := fits
    let txData : TransactionData := session.tx.data senderBytes price refs
    have dataRun := transaction_data_sync_runs models node ⟨session.tx, sent⟩ priced final signer sender senderBytes price
      refs chosen senderEq priceRun paymentRun
    obtain ⟨bytes, serialized⟩ := (transaction_data_total session safe txData rfl rfl).mpr
      ⟨⟨inputs, commands⟩, versions, priceRange, budgetRange⟩
    exact ⟨bytes, txData, final, dataRun, serialized⟩

def negativeBudget : Transaction :=
  { gasBudget := some (-1), gasPrice := some 1, gasPayment := some [], sender := some senderOfOnes }

theorem negative_budget_unbuilt : ¬ ∃ bytes, BuildReturns refusingModels silentNode none negativeBudget [] bytes := by
  intro returned
  obtain ⟨fits, _⟩ := (build_returns_iff refusingModels silentNode ⟨negativeBudget, []⟩ none []
    ⟨negativeBudget, rfl, rfl, .refl⟩).mp returned
  have nonneg : 0 ≤ (-1 : Int) := fits.budget.1
  omega

end PyIota
