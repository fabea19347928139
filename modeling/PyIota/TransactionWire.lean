import PyIota.TypeTagWire

set_option autoImplicit false

namespace PyIota

open Emitter Cursor Wire Positional

theorem framed_argument (arg : Argument) : Framed (writeArgument arg) := framed_serialized _

theorem productive_argument (arg : Argument) : Productive (writeArgument arg) := by
  refine productive_serialized _ (productive_seq _ _ ?_ (Or.inl (productive_variant_index _)))
  cases arg.kind with
  | gasCoin => exact framed_pure ()
  | input => exact framed_unsigned _ _ _ _
  | result => exact framed_unsigned _ _ _ _
  | nestedResult => exact framed_bind _ _ (framed_unsigned _ _ _ _) (fun _ => framed_unsigned _ _ _ _)

theorem carries_argument (arg : Argument) : Carries (writeArgument arg) readArgument wireLimit (· = arg.value) := by
  refine carries_serialized _ _ _ ?_
  obtain ⟨kind, index, nestedIndex⟩ := arg
  cases kind with
  | gasCoin => exact carries_tagged 0 (by decide) _ _ _ (carries_pure _ _)
  | input =>
      refine carries_tagged 1 (by decide) _ _ _ ?_
      refine carries_map _ _ _ _ _ _ (carries_u16 index) ?_
      rintro number rfl
      rfl
  | result =>
      refine carries_tagged 2 (by decide) _ _ _ ?_
      refine carries_map _ _ _ _ _ _ (carries_u16 index) ?_
      rintro number rfl
      rfl
  | nestedResult =>
      refine carries_tagged 3 (by decide) _ _ _ ?_
      refine carries_seq _ _ _ _ _ _ _ (carries_u16 index) ?_ (framed_unsigned _ _ _ _)
      rintro number rfl
      refine carries_map _ _ _ _ _ _ (carries_u16 nestedIndex) ?_
      rintro nested rfl
      rfl

theorem carries_arguments (args : List Argument) :
    Carries (writeVector args writeArgument) (readVector readArgument) wireLimit (· = args.map Argument.value) := by
  refine carries_weaken _ _ _ _ _ (carries_vector args writeArgument readArgument wireLimit le_rfl
    (fun arg value => value = arg.value) framed_argument (fun arg _ => productive_argument arg) (fun arg _ => carries_argument arg)) ?_
  intro values matched
  induction matched with
  | nil => rfl
  | cons same _ ih => rw [same, ih]; rfl

theorem carries_object_ref (ref : BcsObjectRef) (sized : ref.objectId.length = 32) :
    Carries (writeSerialized ref.serialize) readObjectRef wireLimit (· = ref) := by
  refine carries_serialized _ _ _ ?_
  refine carries_seq _ _ _ _ _ _ _ (carries_fixed_bytes ref.objectId 32 sized) ?_
    (framed_bind _ _ (framed_unsigned _ _ _ _) fun _ => framed_bytes _)
  rintro _ rfl
  refine carries_seq _ _ _ _ _ _ _ (carries_u64 ref.version) ?_ (framed_bytes _)
  intro version versionEq
  refine carries_map _ _ _ _ _ _ (carries_bytes ref.digest) ?_
  rintro _ rfl
  rw [versionEq]

theorem productive_object_ref (ref : BcsObjectRef) : Productive (writeSerialized ref.serialize) := by
  refine productive_serialized _ (productive_seq _ _
    (framed_bind _ _ (framed_unsigned _ _ _ _) fun _ => framed_bytes _) (Or.inr ?_))
  exact productive_seq _ _ (framed_bytes _) (Or.inr (productive_bytes _))

theorem carries_shared_ref (ref : SharedObjectRef) (sized : ref.objectId.length = 32) :
    Carries (writeSerialized ref.serialize) readSharedRef wireLimit (· = ref) := by
  refine carries_serialized _ _ _ ?_
  refine carries_seq _ _ _ _ _ _ _ (carries_fixed_bytes ref.objectId 32 sized) ?_
    (framed_bind _ _ (framed_unsigned _ _ _ _) fun _ => framed_append _)
  rintro _ rfl
  refine carries_seq _ _ _ _ _ _ _ (carries_u64 ref.initialSharedVersion) ?_ (framed_append _)
  intro version versionEq
  refine carries_map _ _ _ _ _ _ (carries_bool ref.mutable) ?_
  rintro _ rfl
  rw [versionEq]

-- assert x is not None, then a body: either it raises or the field is there.
theorem carries_assert_some {α β : Type} (option : Option α) (body : α → Writer Unit) (reader : Reader β)
    (means : β → Prop) (present : ∀ value, option = some value → Carries (body value) reader wireLimit means) :
    Carries (assertSome option >>= body) reader wireLimit means := by
  cases option with
  | none => exact carries_throw (.builtin .assertionError) reader wireLimit means
  | some value => exact present value rfl

theorem carries_call_arg (arg : CallArg) (sized : arg.Sized) :
    Carries (writeSerialized arg.serialize) readCallArg wireLimit (fun value => arg.value = some value) := by
  refine carries_serialized _ _ _ ?_
  obtain ⟨kind, pureData, objectKind, objectRef, sharedRef⟩ := arg
  cases kind with
  | pure =>
      refine carries_tagged 0 (by decide) _ _ _ ?_
      refine carries_map _ _ _ _ _ _ (carries_bytes pureData) ?_
      rintro _ rfl
      rfl
  | object =>
      refine carries_tagged 1 (by decide) _ _ _ ?_
      cases objectKind with
      | immOrOwnedObject =>
          refine carries_tagged 0 (by decide) _ _ _ (carries_assert_some objectRef _ _ _ ?_)
          rintro ref rfl
          refine carries_map _ _ _ _ _ _ (carries_object_ref ref (sized.1 ref rfl)) ?_
          rintro _ rfl
          rfl
      | sharedObject =>
          refine carries_tagged 1 (by decide) _ _ _ (carries_assert_some sharedRef _ _ _ ?_)
          rintro ref rfl
          refine carries_map _ _ _ _ _ _ (carries_shared_ref ref (sized.2 ref rfl)) ?_
          rintro _ rfl
          rfl
      | receiving =>
          refine carries_tagged 2 (by decide) _ _ _ (carries_assert_some objectRef _ _ _ ?_)
          rintro ref rfl
          refine carries_map _ _ _ _ _ _ (carries_object_ref ref (sized.1 ref rfl)) ?_
          rintro _ rfl
          rfl

theorem framed_call_arg_contents (arg : CallArg) : Framed arg.writeContents := by
  unfold CallArg.writeContents
  cases arg.kind with
  | pure => exact framed_bytes _
  | object =>
      refine framed_bind _ _ (framed_variant_index _) (fun _ => ?_)
      cases arg.objectKind with
      | immOrOwnedObject => exact framed_assert_some _ _ fun _ => framed_serialized _
      | sharedObject => exact framed_assert_some _ _ fun _ => framed_serialized _
      | receiving => exact framed_assert_some _ _ fun _ => framed_serialized _

theorem productive_call_arg (arg : CallArg) : Productive (writeSerialized arg.serialize) :=
  productive_serialized _ (productive_seq _ _ (framed_call_arg_contents arg) (Or.inl (productive_variant_index _)))

theorem framed_command_contents (cmd : Command) : Framed cmd.writeContents := by
  have arguments (args : List Argument) : Framed (writeVector args writeArgument) :=
    framed_vector args writeArgument framed_argument
  unfold Command.writeContents
  cases cmd.kind with
  | moveCall =>
      refine framed_assert_some _ _ fun mc => ?_
      refine framed_bind _ _ (framed_append _) fun _ => framed_bind _ _ (framed_str _) fun _ =>
        framed_bind _ _ (framed_str _) fun _ => framed_bind _ _ ?_ fun _ => arguments mc.arguments
      exact framed_vector _ _ fun _ => framed_serialized _
  | transferObjects =>
      refine framed_assert_some _ _ fun objects => framed_assert_some _ _ fun recipient => ?_
      exact framed_bind _ _ (arguments objects) fun _ => framed_argument recipient
  | splitCoins =>
      refine framed_assert_some _ _ fun coin => framed_assert_some _ _ fun amounts => ?_
      exact framed_bind _ _ (framed_argument coin) fun _ => arguments amounts
  | mergeCoins =>
      refine framed_assert_some _ _ fun destination => framed_assert_some _ _ fun sources => ?_
      exact framed_bind _ _ (framed_argument destination) fun _ => arguments sources
  | publish =>
      refine framed_assert_some _ _ fun modules => framed_assert_some _ _ fun dependencies => ?_
      exact framed_bind _ _ (framed_vector _ _ framed_bytes) fun _ => framed_vector _ _ fun _ => framed_append _
  | makeMoveVec => exact framed_pure ()
  | upgrade => exact framed_pure ()

theorem productive_command (cmd : Command) : Productive (writeSerialized cmd.serialize) :=
  productive_serialized _ (productive_seq _ _ (framed_command_contents cmd) (Or.inl (productive_variant_index _)))

theorem carries_move_call (mc : ProgrammableMoveCall) (sized : mc.package.length = 32)
    (types : ∀ text ∈ mc.typeArguments, ¬ UnslottedType text) (cmd : Command) (kind : cmd.kind = .moveCall)
    (present : cmd.moveCall = some mc) : Carries cmd.writeContents (do
      let package ← readFixedBytes 32
      let module ← readStr
      let function ← readStr
      let typeArguments ← readVector readTypeTag
      let arguments ← readVector readArgument
      pure (.moveCall package module function typeArguments arguments)) wireLimit
    (fun value => (∀ text ∈ mc.typeArguments, MoveType text) → cmd.Denotes value) := by
  have framedArguments := framed_vector mc.arguments writeArgument framed_argument
  have framedTypes := framed_bind _ _ (framed_vector mc.typeArguments
    (fun text => writeSerialized (serializeTypeTag text)) fun _ => framed_serialized _) fun _ => framedArguments
  have framedFunction := framed_bind _ _ (framed_str mc.function) fun _ => framedTypes
  unfold Command.writeContents
  rw [kind]
  simp only [Command.writeMoveCall, present, assertSome, pure_bind]
  refine carries_seq _ _ _ _ _ _ _ (carries_fixed_bytes mc.package 32 sized) ?_
    (framed_bind _ _ (framed_str mc.module) fun _ => framedFunction)
  rintro _ rfl
  refine carries_seq _ _ _ _ _ _ _ (carries_str mc.module) ?_ framedFunction
  rintro _ rfl
  refine carries_seq _ _ _ _ _ _ _ (carries_str mc.function) ?_ framedTypes
  rintro _ rfl
  have typeLoop := carries_vector mc.typeArguments (fun text => writeSerialized (serializeTypeTag text)) readTypeTag
    wireLimit le_rfl (fun text tag => MoveType text → Spells tag text) (fun _ => framed_serialized _)
    (fun text member => productive_type_tag text (types text member))
    (fun text member => carries_type_tag text (types text member))
  refine carries_seq _ _ _ _ _ _ _ typeLoop ?_ framedArguments
  intro tags spelled
  refine carries_map _ _ _ _ _ _ (carries_arguments mc.arguments) ?_
  rintro _ rfl moveTypes
  exact .moveCall mc tags kind present (means_of_allowed _ _ _ _ spelled moveTypes)

theorem carries_command (cmd : Command) (slotted : cmd.HasLayout fun text => ¬ UnslottedType text) :
    Carries (writeSerialized cmd.serialize) readCommand wireLimit
      (fun value => cmd.HasLayout MoveType → cmd.Denotes value) := by
  have arguments (args : List Argument) := framed_vector args writeArgument framed_argument
  refine carries_serialized _ _ _ ?_
  obtain ⟨kind, moveCall, transferObjects, transferRecipient, splitCoin, splitAmounts, mergeDestination,
    mergeSources, publishModules, publishDependencies⟩ := cmd
  cases kind with
  | moveCall =>
      obtain ⟨mc, present, sized, types⟩ := slotted
      refine carries_weaken _ _ _ _ _
        (carries_tagged 0 (by decide) _ _ _ (carries_move_call mc sized types _ rfl present)) ?_
      intro value denotes layout
      obtain ⟨other, otherPresent, _, moveTypes⟩ := layout
      obtain rfl := Option.some.inj (present.symm.trans otherPresent)
      exact denotes moveTypes
  | transferObjects =>
      obtain ⟨hasObjects, hasRecipient⟩ := slotted
      obtain ⟨objects, rfl⟩ := Option.isSome_iff_exists.mp hasObjects
      obtain ⟨recipient, rfl⟩ := Option.isSome_iff_exists.mp hasRecipient
      refine carries_tagged 1 (by decide) _ _ _ ?_
      refine carries_seq _ _ _ _ _ _ _ (carries_arguments objects) ?_ (framed_argument recipient)
      rintro _ rfl
      refine carries_map _ _ _ _ _ _ (carries_argument recipient) ?_
      rintro _ rfl
      exact fun _ => .transferObjects objects recipient rfl rfl rfl
  | splitCoins =>
      obtain ⟨hasCoin, hasAmounts⟩ := slotted
      obtain ⟨coin, rfl⟩ := Option.isSome_iff_exists.mp hasCoin
      obtain ⟨amounts, rfl⟩ := Option.isSome_iff_exists.mp hasAmounts
      refine carries_tagged 2 (by decide) _ _ _ ?_
      refine carries_seq _ _ _ _ _ _ _ (carries_argument coin) ?_ (arguments amounts)
      rintro _ rfl
      refine carries_map _ _ _ _ _ _ (carries_arguments amounts) ?_
      rintro _ rfl
      exact fun _ => .splitCoins coin amounts rfl rfl rfl
  | mergeCoins =>
      obtain ⟨hasDestination, hasSources⟩ := slotted
      obtain ⟨destination, rfl⟩ := Option.isSome_iff_exists.mp hasDestination
      obtain ⟨sources, rfl⟩ := Option.isSome_iff_exists.mp hasSources
      refine carries_tagged 3 (by decide) _ _ _ ?_
      refine carries_seq _ _ _ _ _ _ _ (carries_argument destination) ?_ (arguments sources)
      rintro _ rfl
      refine carries_map _ _ _ _ _ _ (carries_arguments sources) ?_
      rintro _ rfl
      exact fun _ => .mergeCoins destination sources rfl rfl rfl
  | publish =>
      obtain ⟨hasModules, dependencies, rfl, sized⟩ := slotted
      obtain ⟨modules, rfl⟩ := Option.isSome_iff_exists.mp hasModules
      refine carries_tagged 4 (by decide) _ _ _ ?_
      have moduleLoop := carries_vector modules writeBytes readBytes wireLimit le_rfl (fun data value => value = data)
        framed_bytes (fun data _ => productive_bytes data) (fun data _ => carries_bytes data)
      have dependencyLoop := carries_vector dependencies writeFixedBytes (readFixedBytes 32) wireLimit le_rfl
        (fun data value => value = data) framed_fixed_bytes
        (fun data member => productive_append data (by rintro rfl; exact absurd (sized [] member) (by decide)))
        (fun data member => carries_fixed_bytes data 32 (sized data member))
      refine carries_seq _ _ _ _ _ _ _ moduleLoop ?_ (framed_vector _ _ framed_fixed_bytes)
      intro moduleValues modulesMatched
      refine carries_map _ _ _ _ _ _ dependencyLoop ?_
      intro dependencyValues dependenciesMatched
      have sameModules : List.Forall₂ (· = ·) moduleValues modules := modulesMatched.flip
      have sameDependencies : List.Forall₂ (· = ·) dependencyValues dependencies := dependenciesMatched.flip
      rw [List.forall₂_eq_eq_eq] at sameModules sameDependencies
      rw [sameModules, sameDependencies]
      exact fun _ => .publish modules dependencies rfl rfl rfl
  | makeMoveVec => exact slotted.elim
  | upgrade => exact slotted.elim

theorem carries_gas_payment (gas : GasPayment) (owner : gas.owner.length = 32)
    (payment : ∀ ref ∈ gas.payment, ref.objectId.length = 32) :
    Carries (writeSerialized gas.serialize) readGasPayment wireLimit (· = gas) := by
  have framedPrice := framed_bind _ _ (framed_unsigned "u64 out of range: " 8 0xFFFF_FFFF_FFFF_FFFF gas.price)
    fun _ => framed_unsigned "u64 out of range: " 8 0xFFFF_FFFF_FFFF_FFFF gas.budget
  refine carries_serialized _ _ _ ?_
  have loop := carries_vector gas.payment (fun ref => writeSerialized ref.serialize) readObjectRef wireLimit le_rfl
    (fun ref value => value = ref) (fun _ => framed_serialized _) (fun ref _ => productive_object_ref ref)
    (fun ref member => carries_object_ref ref (payment ref member))
  refine carries_seq _ _ _ _ _ _ _ loop ?_ (framed_bind _ _ (framed_fixed_bytes gas.owner) fun _ => framedPrice)
  intro refs matched
  refine carries_seq _ _ _ _ _ _ _ (carries_fixed_bytes gas.owner 32 owner) ?_ framedPrice
  rintro _ rfl
  refine carries_seq _ _ _ _ _ _ _ (carries_u64 gas.price) ?_ (framed_unsigned _ _ _ _)
  intro price priceEq
  refine carries_map _ _ _ _ _ _ (carries_u64 gas.budget) ?_
  intro budget budgetEq
  have same : List.Forall₂ (· = ·) refs gas.payment := matched.flip
  rw [List.forall₂_eq_eq_eq] at same
  rw [same, priceEq, budgetEq]

theorem framed_expiration (expirationEpoch : Option Int) : Framed (writeExpiration expirationEpoch) := by
  cases expirationEpoch with
  | none => exact framed_variant_index 0
  | some epoch => exact framed_bind _ _ (framed_variant_index 1) fun _ => framed_unsigned _ _ _ _

theorem carries_expiration (expirationEpoch : Option Int) :
    Carries (writeExpiration expirationEpoch) readExpiration wireLimit (· = expirationEpoch) := by
  cases expirationEpoch with
  | none =>
      have unfolded : writeExpiration none = (writeVariantIndex TransactionExpiration.none.index >>= fun _ => pure ()) := by
        rw [bind_pure_unit]
        rfl
      rw [unfolded]
      exact carries_tagged 0 (by decide) _ _ _ (carries_pure none wireLimit)
  | some epoch =>
      refine carries_tagged 1 (by decide) _ _ _ ?_
      refine carries_map _ _ _ _ _ _ (carries_u64 epoch) ?_
      rintro number rfl
      rfl

def writeTransactionKind (ptb : ProgrammableTransaction) : Writer Unit := do
  writeVariantIndex TransactionKindVariant.programmableTransaction.index
  writeSerialized ptb.serialize

theorem carries_transaction_kind (ptb : ProgrammableTransaction) (inputs : ∀ arg ∈ ptb.inputs, arg.Sized)
    (commands : ∀ cmd ∈ ptb.commands, cmd.HasLayout fun text => ¬ UnslottedType text) :
    Carries (writeTransactionKind ptb) readTransactionKind wireLimit (fun value =>
      List.Forall₂ (fun arg argValue => arg.value = some argValue) ptb.inputs value.1 ∧
        ((∀ cmd ∈ ptb.commands, cmd.HasLayout MoveType) → List.Forall₂ Command.Denotes ptb.commands value.2)) := by
  refine carries_tagged 0 (by decide) _ _ _ (carries_serialized _ _ _ ?_)
  have framedCommands := framed_vector ptb.commands (fun cmd => writeSerialized cmd.serialize)
    fun _ => framed_serialized _
  have inputLoop := carries_vector ptb.inputs (fun arg => writeSerialized arg.serialize) readCallArg wireLimit le_rfl
    (fun arg value => arg.value = some value) (fun _ => framed_serialized _) (fun arg _ => productive_call_arg arg)
    (fun arg member => carries_call_arg arg (inputs arg member))
  have commandLoop := carries_vector ptb.commands (fun cmd => writeSerialized cmd.serialize) readCommand wireLimit le_rfl
    (fun cmd value => cmd.HasLayout MoveType → cmd.Denotes value) (fun _ => framed_serialized _)
    (fun cmd _ => productive_command cmd)
    (fun cmd member => carries_command cmd (commands cmd member))
  refine carries_seq _ _ _ _ _ _ _ inputLoop ?_ framedCommands
  intro inputValues inputsMatched
  refine carries_map _ _ _ _ _ _ commandLoop ?_
  intro commandValues commandsMatched
  exact ⟨inputsMatched, means_of_allowed _ _ _ _ commandsMatched⟩

-- What reading the bytes of a transaction gives where only its slots are known to fit.
structure TransactionData.ReadAs (tx : TransactionData) (value : TransactionValue) : Prop where
  kind : ∃ out, emitted (writeTransactionKind tx.kind) = .ok out ∧
    Reads readTransactionKind out (value.inputs, value.commands)
  sender : tx.sender = value.sender
  gas : tx.gas = value.gas
  expirationEpoch : tx.expirationEpoch = value.expirationEpoch
  denotes : tx.WellFormed → tx.Denotes value

theorem carries_transaction_data (tx : TransactionData) (slotted : tx.Slotted) :
    Carries (writeSerialized tx.serialize) readTransactionData wireLimit tx.ReadAs := by
  refine carries_serialized _ _ _ ?_
  have framedGas := framed_bind _ _ (framed_serialized tx.gas.serialize) fun _ => framed_expiration tx.expirationEpoch
  have framedSender := framed_bind _ _ (framed_fixed_bytes tx.sender) fun _ => framedGas
  have kind := carries_read _ _ _ _ (carries_transaction_kind tx.kind slotted.inputs slotted.commands)
  refine carries_tagged 0 (by decide) _ _ _ ?_
  rw [← bind_assoc]
  refine carries_seq _ _ _ _ _ _ _ kind ?_ framedSender
  intro value ⟨⟨inputs, commands⟩, reads⟩
  refine carries_seq _ _ _ _ _ _ _ (carries_fixed_bytes tx.sender 32 slotted.sender) ?_ framedGas
  rintro _ rfl
  refine carries_seq _ _ _ _ _ _ _ (carries_gas_payment tx.gas slotted.owner slotted.payment) ?_ (framed_expiration _)
  rintro _ rfl
  refine carries_map _ _ _ _ _ _ (carries_expiration tx.expirationEpoch) ?_
  rintro _ rfl
  exact ⟨reads, rfl, rfl, rfl, fun valid => ⟨inputs, commands valid.commands, rfl, rfl, rfl⟩⟩

-- Transactions that differ only behind their kind are read alike up to there.
theorem same_kind_read (tx other : TransactionData) (value otherValue : TransactionValue) (same : other.kind = tx.kind)
    (readAs : tx.ReadAs value) (otherReadAs : other.ReadAs otherValue) :
    otherValue.inputs = value.inputs ∧ otherValue.commands = value.commands := by
  obtain ⟨out, written, reads⟩ := readAs.kind
  obtain ⟨second, secondWritten, secondReads⟩ := otherReadAs.kind
  rw [same, written] at secondWritten
  obtain rfl := Except.ok.inj secondWritten
  exact Prod.mk.inj (reads_prefix_free readTransactionKind out out _ _ secondReads reads (List.prefix_refl out)).1

theorem command_denotes_unique (cmd : Command) (value other : CommandValue) (denotes : cmd.Denotes value)
    (alike : cmd.Denotes other) : other = value := by
  cases denotes with
  | moveCall mc types kind hasCall spelled =>
      cases alike with
      | moveCall second others _ hasSecond alike =>
          obtain rfl := Option.some.inj (hasCall.symm.trans hasSecond)
          have unique : Relator.RightUnique (fun text tag => Spells tag text) :=
            fun text tag second first alike => (spells_unique tag second text first alike).symm
          rw [List.right_unique_forall₂' unique spelled alike]
      | _ => simp_all
  | transferObjects objects recipient kind hasObjects hasRecipient => cases alike <;> simp_all
  | splitCoins coin amounts kind hasCoin hasAmounts => cases alike <;> simp_all
  | mergeCoins destination sources kind hasDestination hasSources => cases alike <;> simp_all
  | publish modules dependencies kind hasModules hasDependencies => cases alike <;> simp_all

theorem transaction_denotes_unique (tx : TransactionData) (value other : TransactionValue)
    (denotes : tx.Denotes value) (alike : tx.Denotes other) : other = value := by
  have inputsUnique : Relator.RightUnique (fun (arg : CallArg) argValue => arg.value = some argValue) :=
    fun arg left right first second => Option.some.inj (first.symm.trans second)
  have commandsUnique : Relator.RightUnique Command.Denotes :=
    fun cmd left right first second => (command_denotes_unique cmd left right first second).symm
  exact TransactionValue.ext (List.right_unique_forall₂' inputsUnique alike.inputs denotes.inputs)
    (List.right_unique_forall₂' commandsUnique alike.commands denotes.commands)
    (alike.sender.symm.trans denotes.sender) (alike.gas.symm.trans denotes.gas)
    (alike.expirationEpoch.symm.trans denotes.expirationEpoch)

-- What the bytes encode, whatever stands behind them.
def DecodesTo (bytes : Bytes) (value : TransactionValue) : Prop :=
  ∀ rest, readTransactionData.run (BcsReader.init (bytes ++ rest)) = .ok value ⟨bytes ++ rest, bytes.length⟩

theorem decodes_to_unique (bytes : Bytes) (value other : TransactionValue) (decodes : DecodesTo bytes value)
    (alike : DecodesTo bytes other) : other = value :=
  (EStateM.Result.ok.inj ((alike []).symm.trans (decodes []))).1

theorem decode_slotted (tx : TransactionData) (slotted : tx.Slotted) (data : Bytes)
    (serialized : tx.serialize = .ok data) (short : data.length < 2 ^ 64) :
    ∃ value, tx.ReadAs value ∧ Reads readTransactionData data value := by
  have carries := carries_transaction_data tx slotted
  rw [write_serialized_eq] at carries
  exact carries.2 data (by rw [emitted_write, serialized]) short

-- The decoder recovers what the transaction says and stops where its bytes end.
theorem decode_serialized (tx : TransactionData) (valid : tx.WellFormed) (data : Bytes)
    (serialized : tx.serialize = .ok data) (short : data.length < 2 ^ 64) :
    ∃ value, tx.Denotes value ∧ Reads readTransactionData data value := by
  obtain ⟨value, readAs, reads⟩ := decode_slotted tx (well_formed_slotted tx valid) data serialized short
  exact ⟨value, readAs.denotes valid, reads⟩

theorem decodes_slotted (tx : TransactionData) (slotted : tx.Slotted) (data : Bytes)
    (serialized : tx.serialize = .ok data) (short : data.length < 2 ^ 64) :
    ∃ value, tx.ReadAs value ∧ DecodesTo data value := by
  obtain ⟨value, readAs, reads⟩ := decode_slotted tx slotted data serialized short
  exact ⟨value, readAs, fun rest => reads [] rest⟩

theorem decodes_serialized (tx : TransactionData) (valid : tx.WellFormed) (data : Bytes)
    (serialized : tx.serialize = .ok data) (short : data.length < 2 ^ 64) :
    ∃ value, tx.Denotes value ∧ DecodesTo data value := by
  obtain ⟨value, readAs, decodes⟩ := decodes_slotted tx (well_formed_slotted tx valid) data serialized short
  exact ⟨value, readAs.denotes valid, decodes⟩

theorem signed_bytes_determine_transaction (tx : TransactionData) (valid : tx.WellFormed) (data : Bytes)
    (serialized : tx.serialize = .ok data) (short : data.length < 2 ^ 64) :
    ∃ value, (∀ other, tx.Denotes other ↔ other = value) ∧
      (∀ rest, readTransactionData.run (BcsReader.init (data ++ rest)) = .ok value ⟨data ++ rest, data.length⟩) ∧
      ∀ (other : TransactionData) (otherData : Bytes), other.WellFormed → other.serialize = .ok otherData →
        otherData.length < 2 ^ 64 → data <+: otherData → otherData = data ∧ other.Denotes value := by
  obtain ⟨value, denotes, reads⟩ := decode_serialized tx valid data serialized short
  refine ⟨value, ?_, ?_, ?_⟩
  · intro other
    exact ⟨transaction_denotes_unique tx value other denotes, fun same => by rw [same]; exact denotes⟩
  · intro rest
    exact reads [] rest
  · intro other otherData otherValid otherSerialized otherShort extends_
    obtain ⟨otherValue, otherDenotes, otherReads⟩ := decode_serialized other otherValid otherData otherSerialized otherShort
    obtain ⟨same, sameData⟩ := reads_prefix_free readTransactionData data otherData value otherValue reads otherReads extends_
    rw [same]
    exact ⟨sameData.symm, otherDenotes⟩

theorem write_variant_index_small (index : Nat) (small : index < 0x80) :
    writeVariantIndex index = append [UInt8.ofNat index] := by
  rw [write_variant_index_eq, Leb128.encode_small index small]

theorem write_vector_small {α : Type} (items : List α) (writeItem : α → Writer Unit) (small : items.length < 0x80) :
    writeVector items writeItem = (append [UInt8.ofNat items.length] >>= fun _ => items.forM writeItem) := by
  rw [writeVector, write_vector_length_eq, Leb128.encode_small _ small]

theorem write_bytes_small (data : Bytes) (small : data.length < 0x80) :
    writeBytes data = append (UInt8.ofNat data.length :: data) := by
  rw [write_bytes_eq, encodeBytes, Leb128.encode_small _ small]
  rfl

-- One input, split off the gas coin.
def splitTransaction : TransactionData := {
  kind := {
    inputs := [{ kind := .pure, pureData := [7] }]
    commands := [{ kind := .splitCoins, splitCoin := some gasCoin, splitAmounts := some [inputArg 0] }] }
  sender := List.replicate 32 1
  gas := { payment := [], owner := List.replicate 32 1, price := 1, budget := 2 } }

def splitTransactionBytes : Bytes :=
  [0, 0, 1, 0, 1, 7, 1, 2, 0, 1, 1, 0, 0] ++ (List.replicate 32 1 ++
    ((0 :: (List.replicate 32 1 ++ [1, 0, 0, 0, 0, 0, 0, 0, 2, 0, 0, 0, 0, 0, 0, 0])) ++ [0]))

theorem split_transaction_serialized : splitTransaction.serialize = .ok splitTransactionBytes := by
  have coin : gasCoin.serialize = .ok [0] := by
    rw [Argument.serialize, finish, write_variant_index_small _ (by decide)]
    rfl
  have amount : (inputArg 0).serialize = .ok [1, 0, 0] := by
    rw [Argument.serialize, finish, write_variant_index_small _ (by decide)]
    rfl
  have input : CallArg.serialize { kind := .pure, pureData := [7] } = .ok [0, 1, 7] := by
    rw [CallArg.serialize, finish, write_variant_index_small _ (by decide), CallArg.writeContents]
    simp only
    rw [write_bytes_small _ (by decide)]
    rfl
  have command : Command.serialize { kind := .splitCoins, splitCoin := some gasCoin, splitAmounts := some [inputArg 0] } =
      .ok [2, 0, 1, 1, 0, 0] := by
    rw [Command.serialize, finish, write_variant_index_small _ (by decide), Command.writeContents]
    simp only [Command.writeSplitCoins, assertSome, pure_bind]
    rw [write_vector_small _ _ (by decide)]
    simp only [writeArgument, coin, List.forM, amount]
    rfl
  have kind : splitTransaction.kind.serialize = .ok [1, 0, 1, 7, 1, 2, 0, 1, 1, 0, 0] := by
    rw [ProgrammableTransaction.serialize, finish, write_vector_small _ _ (by decide),
      write_vector_small _ _ (by decide)]
    simp only [splitTransaction, List.forM, input, command]
    rfl
  have gas : splitTransaction.gas.serialize =
      .ok (0 :: (List.replicate 32 1 ++ [1, 0, 0, 0, 0, 0, 0, 0, 2, 0, 0, 0, 0, 0, 0, 0])) := by
    rw [GasPayment.serialize, finish, write_vector_small _ _ (by decide)]
    rfl
  rw [TransactionData.serialize, finish, kind, gas,
    write_variant_index_small TransactionKindVariant.programmableTransaction.index (by decide)]
  simp only [splitTransaction, writeExpiration]
  rw [write_variant_index_small TransactionExpiration.none.index (by decide),
    show writeVariantIndex 0 = append [0] from write_variant_index_small 0 (by decide)]
  rfl

theorem split_transaction_well_formed : splitTransaction.WellFormed where
  inputs := by
    intro arg member
    rw [List.mem_singleton.mp member]
    exact ⟨fun ref present => (nomatch present), fun ref present => (nomatch present)⟩
  commands := by
    intro cmd member
    rw [List.mem_singleton.mp member]
    exact ⟨rfl, rfl⟩
  sender := rfl
  owner := rfl
  payment := by
    intro ref member
    cases member

theorem split_transaction_determined : ∃ value, (∀ other, splitTransaction.Denotes other ↔ other = value) ∧
    (∀ rest, readTransactionData.run (BcsReader.init (splitTransactionBytes ++ rest)) =
      .ok value ⟨splitTransactionBytes ++ rest, splitTransactionBytes.length⟩) ∧
    ∀ (other : TransactionData) (otherData : Bytes), other.WellFormed → other.serialize = .ok otherData →
      otherData.length < 2 ^ 64 → splitTransactionBytes <+: otherData →
        otherData = splitTransactionBytes ∧ other.Denotes value :=
  signed_bytes_determine_transaction splitTransaction split_transaction_well_formed splitTransactionBytes
    split_transaction_serialized (by decide)

end PyIota
