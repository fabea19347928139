import PyIota.TransactionWire

set_option autoImplicit false

namespace PyIota

open Emitter Fallible

abbrev Encodes {α : Type} (encoding : α → Except PyError Bytes) (items : List α) (pieces : List Bytes) : Prop :=
  List.Forall₂ (fun item piece => encoding item = .ok piece) items pieces

def vectorLayout (pieces : List Bytes) : Bytes := Leb128.encode pieces.length ++ pieces.flatten

def CommandKind.Supported : CommandKind → Prop
  | .makeMoveVec => False
  | .upgrade => False
  | _ => True

-- The fields each variant is made of, in the order of its layout. Two kinds have
-- no fields in a Command, and so no body.
inductive Command.Body (cmd : Command) : Bytes → Prop where
  | moveCall (mc : ProgrammableMoveCall) (module function : Bytes) (types arguments : List Bytes)
      (kind : cmd.kind = .moveCall) (hasCall : cmd.moveCall = some mc)
      (moduleText : encodeStr mc.module = .ok module) (functionText : encodeStr mc.function = .ok function)
      (typeTags : Encodes serializeTypeTag mc.typeArguments types)
      (encoded : Encodes Argument.serialize mc.arguments arguments) :
      cmd.Body (mc.package ++ (module ++ (function ++ (vectorLayout types ++ vectorLayout arguments))))
  | transferObjects (objects : List Argument) (recipient : Argument) (pieces : List Bytes) (last : Bytes)
      (kind : cmd.kind = .transferObjects) (hasObjects : cmd.transferObjects = some objects)
      (hasRecipient : cmd.transferRecipient = some recipient) (encoded : Encodes Argument.serialize objects pieces)
      (lastEncoded : recipient.serialize = .ok last) : cmd.Body (vectorLayout pieces ++ last)
  | splitCoins (coin : Argument) (amounts : List Argument) (first : Bytes) (pieces : List Bytes)
      (kind : cmd.kind = .splitCoins) (hasCoin : cmd.splitCoin = some coin)
      (hasAmounts : cmd.splitAmounts = some amounts) (firstEncoded : coin.serialize = .ok first)
      (encoded : Encodes Argument.serialize amounts pieces) : cmd.Body (first ++ vectorLayout pieces)
  | mergeCoins (destination : Argument) (sources : List Argument) (first : Bytes) (pieces : List Bytes)
      (kind : cmd.kind = .mergeCoins) (hasDestination : cmd.mergeDestination = some destination)
      (hasSources : cmd.mergeSources = some sources) (firstEncoded : destination.serialize = .ok first)
      (encoded : Encodes Argument.serialize sources pieces) : cmd.Body (first ++ vectorLayout pieces)
  | publish (modules dependencies : List Bytes) (kind : cmd.kind = .publish)
      (hasModules : cmd.publishModules = some modules) (hasDependencies : cmd.publishDependencies = some dependencies) :
      cmd.Body (vectorLayout (modules.map encodeBytes) ++ vectorLayout dependencies)

def Command.Written (cmd : Command) (piece : Bytes) : Prop :=
  ∃ body, piece = Leb128.encode cmd.kind.index ++ body ∧ body ≠ [] ∧ cmd.Body body

theorem vector_layout_ne_nil (pieces : List Bytes) : vectorLayout pieces ≠ [] := by
  simp [vectorLayout, Leb128.encode_ne_nil]

theorem body_ne_nil (cmd : Command) (body : Bytes) (isBody : cmd.Body body) : body ≠ [] := by
  cases isBody <;> simp [vector_layout_ne_nil]

theorem encodes_map {α : Type} (items : List α) (f : α → Bytes) (pieces : List Bytes) :
    Encodes (fun item => .ok (f item)) items pieces ↔ pieces = items.map f := by
  refine ⟨?_, ?_⟩
  · intro encoded
    induction encoded with
    | nil => rfl
    | cons same _ ih => rw [List.map_cons, ← ih, Except.ok.inj same]
  · intro same
    rw [same]
    induction items generalizing pieces with
    | nil => exact .nil
    | cons item items ih => exact .cons rfl (ih _ rfl)

theorem emitted_vector {α : Type} (items : List α) (writeItem : α → Writer Unit) (encoding : α → Except PyError Bytes)
    (same : ∀ item, writeItem item = write (encoding item)) (out : Bytes) :
    emitted (writeVector items writeItem) = .ok out ↔
      ∃ pieces, Encodes encoding items pieces ∧ out = vectorLayout pieces := by
  have each : writeItem = fun item => write (encoding item) := funext same
  have framed := framed_for_m items writeItem fun item => by rw [same item]; exact framed_write _
  rw [writeVector, emitted_seq_ok _ _ framed, write_vector_length_eq, emitted_append, each, emitted_for_m_write]
  refine ⟨?_, ?_⟩
  · intro made
    obtain ⟨head, tail, headEq, tailEq, outEq⟩ := made
    obtain ⟨pieces, mapped, tailFlat⟩ := (map_ok_iff _ _ _).mp tailEq
    have encoded := (map_m_ok_iff encoding items pieces).mp mapped
    refine ⟨pieces, encoded, ?_⟩
    rw [outEq, ← Except.ok.inj headEq, tailFlat, vectorLayout, encoded.length_eq]
  · intro made
    obtain ⟨pieces, encoded, outEq⟩ := made
    have mapped := (map_m_ok_iff encoding items pieces).mpr encoded
    refine ⟨_, pieces.flatten, rfl, (map_ok_iff _ _ _).mpr ⟨pieces, mapped, rfl⟩, ?_⟩
    rw [outEq, vectorLayout, encoded.length_eq]

theorem emitted_arguments (args : List Argument) (out : Bytes) :
    emitted (writeVector args writeArgument) = .ok out ↔
      ∃ pieces, Encodes Argument.serialize args pieces ∧ out = vectorLayout pieces :=
  emitted_vector args writeArgument Argument.serialize (fun arg => write_serialized_eq arg.serialize) out

theorem emitted_assert_some {α : Type} (field : Option α) (next : α → Writer Unit) (out : Bytes) :
    emitted (assertSome field >>= next) = .ok out ↔ ∃ value, field = some value ∧ emitted (next value) = .ok out := by
  cases field with
  | none =>
      refine ⟨?_, ?_⟩
      · intro raised
        cases raised
      · intro ⟨value, absent, _⟩
        cases absent
  | some value =>
      refine ⟨?_, ?_⟩
      · intro done
        exact ⟨value, rfl, done⟩
      · intro ⟨other, same, done⟩
        cases same
        exact done

theorem emitted_argument (arg : Argument) : emitted (writeArgument arg) = arg.serialize := by
  rw [writeArgument, write_serialized_eq, emitted_write]

theorem emitted_str (text : Str) : emitted (writeStr text) = encodeStr text := by
  rw [write_str_eq, emitted_write]

theorem framed_arguments (args : List Argument) : Framed (writeVector args writeArgument) :=
  framed_vector args writeArgument framed_argument

theorem move_call_body (cmd : Command) (kind : cmd.kind = .moveCall) (out : Bytes) :
    emitted cmd.writeMoveCall = .ok out ↔ cmd.Body out := by
  rw [Command.writeMoveCall, emitted_assert_some]
  have layout (mc : ProgrammableMoveCall) := emitted_vector mc.typeArguments
    (fun text => writeSerialized (serializeTypeTag text)) serializeTypeTag fun text => write_serialized_eq _
  have framedTail (mc : ProgrammableMoveCall) := framed_bind _ _ (framed_vector mc.typeArguments
    (fun text => writeSerialized (serializeTypeTag text)) fun _ => framed_serialized _) fun _ => framed_arguments mc.arguments
  have framedFunction (mc : ProgrammableMoveCall) := framed_bind _ _ (framed_str mc.function) fun _ => framedTail mc
  have framedModule (mc : ProgrammableMoveCall) := framed_bind _ _ (framed_str mc.module) fun _ => framedFunction mc
  refine ⟨?_, ?_⟩
  · intro made
    obtain ⟨mc, hasCall, done⟩ := made
    obtain ⟨package, afterPackage, packageEq, fromModule, rfl⟩ := (emitted_seq_ok _ _ (framedModule mc) out).mp done
    obtain ⟨module, afterModule, moduleEq, fromFunction, rfl⟩ := (emitted_seq_ok _ _ (framedFunction mc) _).mp fromModule
    obtain ⟨function, afterFunction, functionEq, vectors, rfl⟩ := (emitted_seq_ok _ _ (framedTail mc) _).mp fromFunction
    obtain ⟨typeBytes, argumentBytes, typesEq, argumentsEq, rfl⟩ :=
      (emitted_seq_ok _ _ (framed_arguments mc.arguments) _).mp vectors
    obtain ⟨types, typeTags, rfl⟩ := (layout mc typeBytes).mp typesEq
    obtain ⟨arguments, encoded, rfl⟩ := (emitted_arguments mc.arguments argumentBytes).mp argumentsEq
    rw [emitted_str] at moduleEq functionEq
    cases packageEq
    exact .moveCall mc module function types arguments kind hasCall moduleEq functionEq typeTags encoded
  · intro isBody
    cases isBody with
    | moveCall mc module function types arguments _ hasCall moduleText functionText typeTags encoded =>
        refine ⟨mc, hasCall, (emitted_seq_ok _ _ (framedModule mc) _).mpr ⟨mc.package, _, rfl, ?_, rfl⟩⟩
        refine (emitted_seq_ok _ _ (framedFunction mc) _).mpr ⟨module, _, by rw [emitted_str, moduleText], ?_, rfl⟩
        refine (emitted_seq_ok _ _ (framedTail mc) _).mpr ⟨function, _, by rw [emitted_str, functionText], ?_, rfl⟩
        exact (emitted_seq_ok _ _ (framed_arguments mc.arguments) _).mpr ⟨_, _, (layout mc _).mpr ⟨types, typeTags, rfl⟩,
          (emitted_arguments mc.arguments _).mpr ⟨arguments, encoded, rfl⟩, rfl⟩
    | _ => simp_all

theorem emitted_argument_then_vector (arg : Argument) (args : List Argument) (out : Bytes) :
    emitted (writeArgument arg >>= fun _ => writeVector args writeArgument) = .ok out ↔
      ∃ first pieces, arg.serialize = .ok first ∧ Encodes Argument.serialize args pieces ∧
        out = first ++ vectorLayout pieces := by
  rw [emitted_seq_ok _ _ (framed_arguments args), emitted_argument]
  refine ⟨?_, ?_⟩
  · intro ⟨first, tail, firstEq, tailEq, outEq⟩
    obtain ⟨pieces, encoded, tailLayout⟩ := (emitted_arguments args tail).mp tailEq
    exact ⟨first, pieces, firstEq, encoded, by rw [outEq, tailLayout]⟩
  · intro ⟨first, pieces, firstEq, encoded, outEq⟩
    exact ⟨first, _, firstEq, (emitted_arguments args _).mpr ⟨pieces, encoded, rfl⟩, outEq⟩

theorem transfer_objects_body (cmd : Command) (kind : cmd.kind = .transferObjects) (out : Bytes) :
    emitted cmd.writeTransferObjects = .ok out ↔ cmd.Body out := by
  rw [Command.writeTransferObjects, emitted_assert_some]
  simp only [emitted_assert_some, emitted_seq_ok _ _ (framed_argument _), emitted_argument, emitted_arguments]
  refine ⟨?_, ?_⟩
  · intro ⟨objects, hasObjects, recipient, hasRecipient, head, last, ⟨pieces, encoded, headEq⟩, lastEncoded, outEq⟩
    rw [outEq, headEq]
    exact .transferObjects objects recipient pieces last kind hasObjects hasRecipient encoded lastEncoded
  · intro isBody
    cases isBody with
    | transferObjects objects recipient pieces last _ hasObjects hasRecipient encoded lastEncoded =>
        exact ⟨objects, hasObjects, recipient, hasRecipient, _, last, ⟨pieces, encoded, rfl⟩, lastEncoded, rfl⟩
    | _ => simp_all

theorem split_coins_body (cmd : Command) (kind : cmd.kind = .splitCoins) (out : Bytes) :
    emitted cmd.writeSplitCoins = .ok out ↔ cmd.Body out := by
  rw [Command.writeSplitCoins, emitted_assert_some]
  simp only [emitted_assert_some, emitted_argument_then_vector]
  refine ⟨?_, ?_⟩
  · intro made
    obtain ⟨coin, hasCoin, amounts, hasAmounts, first, pieces, firstEncoded, encoded, outEq⟩ := made
    rw [outEq]
    exact .splitCoins coin amounts first pieces kind hasCoin hasAmounts firstEncoded encoded
  · intro isBody
    cases isBody with
    | splitCoins coin amounts first pieces _ hasCoin hasAmounts firstEncoded encoded =>
        exact ⟨coin, hasCoin, amounts, hasAmounts, first, pieces, firstEncoded, encoded, rfl⟩
    | _ => simp_all

theorem merge_coins_body (cmd : Command) (kind : cmd.kind = .mergeCoins) (out : Bytes) :
    emitted cmd.writeMergeCoins = .ok out ↔ cmd.Body out := by
  rw [Command.writeMergeCoins, emitted_assert_some]
  simp only [emitted_assert_some, emitted_argument_then_vector]
  refine ⟨?_, ?_⟩
  · intro ⟨destination, hasDestination, sources, hasSources, first, pieces, firstEncoded, encoded, outEq⟩
    rw [outEq]
    exact .mergeCoins destination sources first pieces kind hasDestination hasSources firstEncoded encoded
  · intro isBody
    cases isBody with
    | mergeCoins destination sources first pieces _ hasDestination hasSources firstEncoded encoded =>
        exact ⟨destination, hasDestination, sources, hasSources, first, pieces, firstEncoded, encoded, rfl⟩
    | _ => simp_all

theorem publish_body (cmd : Command) (kind : cmd.kind = .publish) (out : Bytes) :
    emitted cmd.writePublish = .ok out ↔ cmd.Body out := by
  have modulesLayout (modules : List Bytes) := emitted_vector modules writeBytes (fun data => .ok (encodeBytes data))
    fun data => write_bytes_eq data
  have dependenciesLayout (dependencies : List Bytes) := emitted_vector dependencies writeFixedBytes
    (fun data => .ok data) fun data => rfl
  have framed (dependencies : List Bytes) : Framed (writeVector dependencies writeFixedBytes) :=
    framed_vector dependencies writeFixedBytes fun data => framed_append data
  rw [Command.writePublish, emitted_assert_some]
  simp only [emitted_assert_some, emitted_seq_ok _ _ (framed _), modulesLayout, dependenciesLayout, encodes_map]
  refine ⟨?_, ?_⟩
  · intro ⟨modules, hasModules, dependencies, hasDependencies, head, tail, ⟨pieces, piecesEq, headEq⟩,
      ⟨ids, idsEq, tailEq⟩, outEq⟩
    rw [outEq, headEq, tailEq, piecesEq, idsEq, List.map_id']
    exact .publish modules dependencies kind hasModules hasDependencies
  · intro isBody
    cases isBody with
    | publish modules dependencies _ hasModules hasDependencies =>
        refine ⟨modules, hasModules, dependencies, hasDependencies, _, _, ⟨_, rfl, rfl⟩, ⟨_, rfl, rfl⟩, ?_⟩
        rw [List.map_id']
    | _ => simp_all

theorem contents_body (cmd : Command) (supported : cmd.kind.Supported) (out : Bytes) :
    emitted cmd.writeContents = .ok out ↔ cmd.Body out := by
  unfold Command.writeContents
  cases kind : cmd.kind with
  | moveCall => exact move_call_body cmd kind out
  | transferObjects => exact transfer_objects_body cmd kind out
  | splitCoins => exact split_coins_body cmd kind out
  | mergeCoins => exact merge_coins_body cmd kind out
  | publish => exact publish_body cmd kind out
  | makeMoveVec => simp [kind, CommandKind.Supported] at supported
  | upgrade => simp [kind, CommandKind.Supported] at supported

theorem command_serialize_iff (cmd : Command) (piece : Bytes) :
    cmd.serialize = .ok piece ↔
      ∃ body, emitted cmd.writeContents = .ok body ∧ piece = Leb128.encode cmd.kind.index ++ body := by
  rw [Command.serialize, finish, emitted_seq_ok _ _ (framed_command_contents cmd), write_variant_index_eq,
    emitted_append]
  refine ⟨?_, ?_⟩
  · intro made
    obtain ⟨head, body, headEq, bodyEq, pieceEq⟩ := made
    exact ⟨body, bodyEq, by rw [pieceEq, Except.ok.inj headEq]⟩
  · intro made
    obtain ⟨body, bodyEq, pieceEq⟩ := made
    exact ⟨_, body, rfl, bodyEq, pieceEq⟩

theorem supported_written_iff (cmd : Command) (supported : cmd.kind.Supported) (piece : Bytes) :
    cmd.serialize = .ok piece ↔ cmd.Written piece := by
  rw [command_serialize_iff]
  refine ⟨?_, ?_⟩
  · intro ⟨body, done, pieceEq⟩
    have isBody := (contents_body cmd supported body).mp done
    exact ⟨body, pieceEq, body_ne_nil cmd body isBody, isBody⟩
  · intro ⟨body, pieceEq, _, isBody⟩
    exact ⟨body, (contents_body cmd supported body).mpr isBody, pieceEq⟩

theorem unsupported_bare (cmd : Command) (unsupported : ¬ cmd.kind.Supported) :
    cmd.serialize = .ok (Leb128.encode cmd.kind.index) := by
  rw [command_serialize_iff]
  refine ⟨[], ?_, by rw [List.append_nil]⟩
  unfold Command.writeContents
  cases kind : cmd.kind with
  | makeMoveVec => rfl
  | upgrade => rfl
  | _ =>
      rw [kind] at unsupported
      exact absurd trivial unsupported

theorem written_supported (cmd : Command) (piece : Bytes) (written : cmd.Written piece) : cmd.kind.Supported := by
  obtain ⟨body, _, _, isBody⟩ := written
  cases isBody <;> simp_all [CommandKind.Supported]

theorem programmable_transaction_serialize_iff (ptb : ProgrammableTransaction) (bytes : Bytes) :
    ptb.serialize = .ok bytes ↔ ∃ inputs commands, Encodes CallArg.serialize ptb.inputs inputs ∧
      Encodes Command.serialize ptb.commands commands ∧ bytes = vectorLayout inputs ++ vectorLayout commands := by
  have framed : Framed (writeVector ptb.commands fun cmd => writeSerialized cmd.serialize) :=
    framed_vector _ _ fun _ => framed_serialized _
  have inputsLayout := emitted_vector ptb.inputs (fun inp => writeSerialized inp.serialize) CallArg.serialize
    fun inp => write_serialized_eq _
  have commandsLayout := emitted_vector ptb.commands (fun cmd => writeSerialized cmd.serialize) Command.serialize
    fun cmd => write_serialized_eq _
  rw [ProgrammableTransaction.serialize, finish, emitted_seq_ok _ _ framed]
  refine ⟨?_, ?_⟩
  · intro made
    obtain ⟨head, tail, headEq, tailEq, bytesEq⟩ := made
    obtain ⟨inputs, inputsEncoded, rfl⟩ := (inputsLayout head).mp headEq
    obtain ⟨commands, commandsEncoded, rfl⟩ := (commandsLayout tail).mp tailEq
    exact ⟨inputs, commands, inputsEncoded, commandsEncoded, bytesEq⟩
  · intro made
    obtain ⟨inputs, commands, inputsEncoded, commandsEncoded, bytesEq⟩ := made
    exact ⟨_, _, (inputsLayout _).mpr ⟨inputs, inputsEncoded, rfl⟩,
      (commandsLayout _).mpr ⟨commands, commandsEncoded, rfl⟩, bytesEq⟩

-- The inputs that have an encoding: the reference their kind needs, with a u64 version.
def CallArg.Encodable (arg : CallArg) : Prop :=
  match arg.kind with
  | .pure => True
  | .object =>
      match arg.objectKind with
      | .immOrOwnedObject => ∃ ref, arg.objectRef = some ref ∧ U64Range ref.version
      | .sharedObject => ∃ ref, arg.sharedRef = some ref ∧ U64Range ref.initialSharedVersion
      | .receiving => ∃ ref, arg.objectRef = some ref ∧ U64Range ref.version

theorem emitted_u64_total (value : Int) : (∃ out, emitted (writeU64 value) = .ok out) ↔ U64Range value := by
  rw [writeU64, write_unsigned_eq, emitted_write, encodeUnsigned]
  refine ⟨?_, ?_⟩
  · intro ⟨out, encoded⟩
    by_cases inRange : 0 ≤ value ∧ value ≤ 0xFFFF_FFFF_FFFF_FFFF
    · exact inRange
    · rw [if_neg inRange] at encoded
      cases encoded
  · intro inRange
    exact ⟨_, if_pos inRange⟩

theorem emitted_seq_total (program next : Writer Unit) (framed : Framed next) :
    (∃ out, emitted (program >>= fun _ => next) = .ok out) ↔
      (∃ out, emitted program = .ok out) ∧ ∃ out, emitted next = .ok out := by
  simp only [emitted_seq_ok program next framed]
  refine ⟨?_, ?_⟩
  · intro ⟨out, head, tail, headEq, tailEq, _⟩
    exact ⟨⟨head, headEq⟩, tail, tailEq⟩
  · intro ⟨⟨head, headEq⟩, tail, tailEq⟩
    exact ⟨head ++ tail, head, tail, headEq, tailEq, rfl⟩

theorem emitted_append_total (out : Bytes) : (∃ written, emitted (append out : Writer Unit) = .ok written) ↔ True :=
  ⟨fun _ => trivial, fun _ => ⟨out, rfl⟩⟩

theorem object_ref_total (ref : BcsObjectRef) : (∃ out, ref.serialize = .ok out) ↔ U64Range ref.version := by
  have framedDigest := framed_bytes ref.digest
  have framedVersion : Framed (writeU64 ref.version >>= fun _ => writeBytes ref.digest) :=
    framed_bind _ _ (framed_unsigned _ _ _ _) fun _ => framedDigest
  rw [BcsObjectRef.serialize, finish, emitted_seq_total _ _ framedVersion, emitted_seq_total _ _ framedDigest,
    emitted_u64_total, write_bytes_eq, writeFixedBytes, emitted_append_total, emitted_append_total, true_and, and_true]

theorem shared_ref_total (ref : SharedObjectRef) :
    (∃ out, ref.serialize = .ok out) ↔ U64Range ref.initialSharedVersion := by
  have framedFlag : Framed (writeBool ref.mutable) := framed_append _
  have framedVersion : Framed (writeU64 ref.initialSharedVersion >>= fun _ => writeBool ref.mutable) :=
    framed_bind _ _ (framed_unsigned _ _ _ _) fun _ => framedFlag
  rw [SharedObjectRef.serialize, finish, emitted_seq_total _ _ framedVersion, emitted_seq_total _ _ framedFlag,
    emitted_u64_total, writeBool, writeFixedBytes, emitted_append_total, emitted_append_total, true_and, and_true]

theorem asserted_ref_total {α : Type} (field : Option α) (encoding : α → Except PyError Bytes) (version : α → Int)
    (total : ∀ ref, (∃ out, encoding ref = .ok out) ↔ U64Range (version ref)) :
    (∃ out, emitted (assertSome field >>= fun ref => writeSerialized (encoding ref)) = .ok out) ↔
      ∃ ref, field = some ref ∧ U64Range (version ref) := by
  simp only [emitted_assert_some, write_serialized_eq, emitted_write]
  refine ⟨?_, ?_⟩
  · intro ⟨out, ref, present, encoded⟩
    exact ⟨ref, present, (total ref).mp ⟨out, encoded⟩⟩
  · intro ⟨ref, present, inRange⟩
    obtain ⟨out, encoded⟩ := (total ref).mpr inRange
    exact ⟨out, ref, present, encoded⟩

theorem call_arg_total (arg : CallArg) : (∃ out, arg.serialize = .ok out) ↔ arg.Encodable := by
  have index (n : Nat) : (∃ out, emitted (writeVariantIndex n) = .ok out) ↔ True := by
    rw [write_variant_index_eq, emitted_append_total]
  rw [CallArg.serialize, finish, emitted_seq_total _ _ (framed_call_arg_contents arg), index, true_and]
  unfold CallArg.writeContents CallArg.Encodable
  cases arg.kind with
  | pure => rw [write_bytes_eq, emitted_append_total]
  | object =>
      cases arg.objectKind with
      | immOrOwnedObject =>
          rw [emitted_seq_total _ _ (framed_assert_some _ _ fun _ => framed_serialized _), index, true_and]
          exact asserted_ref_total arg.objectRef BcsObjectRef.serialize BcsObjectRef.version object_ref_total
      | sharedObject =>
          rw [emitted_seq_total _ _ (framed_assert_some _ _ fun _ => framed_serialized _), index, true_and]
          exact asserted_ref_total arg.sharedRef SharedObjectRef.serialize SharedObjectRef.initialSharedVersion
            shared_ref_total
      | receiving =>
          rw [emitted_seq_total _ _ (framed_assert_some _ _ fun _ => framed_serialized _), index, true_and]
          exact asserted_ref_total arg.objectRef BcsObjectRef.serialize BcsObjectRef.version object_ref_total

def ProgrammableTransaction.FailsClosed (ptb : ProgrammableTransaction) : Prop :=
  ∀ bytes, ptb.serialize = .ok bytes → ∃ inputs commands, Encodes CallArg.serialize ptb.inputs inputs ∧
    List.Forall₂ Command.Written ptb.commands commands ∧ bytes = vectorLayout inputs ++ vectorLayout commands

-- The call raises whatever the unsupported commands are: an input has no encoding,
-- or a command of a supported kind lacks a field or has one without an encoding.
def ProgrammableTransaction.Refused (ptb : ProgrammableTransaction) : Prop :=
  (∃ arg ∈ ptb.inputs, ¬ arg.Encodable) ∨ ∃ cmd ∈ ptb.commands, cmd.kind.Supported ∧ ∀ body, ¬ cmd.Body body

theorem encodes_total {α : Type} (encoding : α → Except PyError Bytes) (items : List α) :
    (∃ pieces, Encodes encoding items pieces) ↔ ∀ item ∈ items, ∃ piece, encoding item = .ok piece :=
  each_total encoding items

theorem serialize_total_of_not_refused (ptb : ProgrammableTransaction) (accepted : ¬ ptb.Refused) :
    ∃ bytes, ptb.serialize = .ok bytes := by
  have inputsTotal : ∃ inputs, Encodes CallArg.serialize ptb.inputs inputs := by
    rw [encodes_total]
    intro arg member
    rw [call_arg_total]
    by_contra unencodable
    exact accepted (Or.inl ⟨arg, member, unencodable⟩)
  have commandsTotal : ∃ commands, Encodes Command.serialize ptb.commands commands := by
    rw [encodes_total]
    intro cmd member
    by_cases supported : cmd.kind.Supported
    · by_contra failed
      apply accepted
      right
      refine ⟨cmd, member, supported, ?_⟩
      intro body isBody
      have written : cmd.Written (Leb128.encode cmd.kind.index ++ body) := ⟨body, rfl, body_ne_nil cmd body isBody, isBody⟩
      exact failed ⟨_, (supported_written_iff cmd supported _).mpr written⟩
    · exact ⟨_, unsupported_bare cmd supported⟩
  obtain ⟨inputs, inputsEncoded⟩ := inputsTotal
  obtain ⟨commands, commandsEncoded⟩ := commandsTotal
  exact ⟨_, (programmable_transaction_serialize_iff ptb _).mpr ⟨inputs, commands, inputsEncoded, commandsEncoded, rfl⟩⟩

theorem refused_raises (ptb : ProgrammableTransaction) (refused : ptb.Refused) (bytes : Bytes) :
    ptb.serialize ≠ .ok bytes := by
  intro done
  obtain ⟨inputs, commands, inputsEncoded, commandsEncoded, _⟩ := (programmable_transaction_serialize_iff ptb bytes).mp done
  rcases refused with ⟨arg, member, unencodable⟩ | ⟨cmd, member, supported, bodiless⟩
  · exact unencodable ((call_arg_total arg).mp ((encodes_total _ _).mp ⟨inputs, inputsEncoded⟩ arg member))
  · obtain ⟨piece, encoded⟩ := (encodes_total _ _).mp ⟨commands, commandsEncoded⟩ cmd member
    obtain ⟨body, _, _, isBody⟩ := (supported_written_iff cmd supported piece).mp encoded
    exact bodiless body isBody

theorem written_of_supported (commands : List Command) (pieces : List Bytes)
    (supported : ∀ cmd ∈ commands, cmd.kind.Supported) (encoded : Encodes Command.serialize commands pieces) :
    List.Forall₂ Command.Written commands pieces := by
  induction encoded with
  | nil => exact .nil
  | cons head _ ih =>
      rw [List.forall_mem_cons] at supported
      exact .cons ((supported_written_iff _ supported.1 _).mp head) (ih supported.2)

theorem supported_of_written (commands : List Command) (pieces : List Bytes)
    (written : List.Forall₂ Command.Written commands pieces) : ∀ cmd ∈ commands, cmd.kind.Supported := by
  induction written with
  | nil => simp
  | cons head _ ih =>
      rw [List.forall_mem_cons]
      exact ⟨written_supported _ _ head, ih⟩

theorem fails_closed_iff (ptb : ProgrammableTransaction) :
    ptb.FailsClosed ↔ (∀ cmd ∈ ptb.commands, cmd.kind.Supported) ∨ ptb.Refused := by
  refine ⟨?_, ?_⟩
  · intro closed
    by_cases refused : ptb.Refused
    · right
      exact refused
    · left
      obtain ⟨bytes, done⟩ := serialize_total_of_not_refused ptb refused
      obtain ⟨_, commands, _, written, _⟩ := closed bytes done
      exact supported_of_written ptb.commands commands written
  · intro allowed bytes done
    rcases allowed with supported | refused
    · obtain ⟨inputs, commands, inputsEncoded, commandsEncoded, bytesEq⟩ :=
        (programmable_transaction_serialize_iff ptb bytes).mp done
      exact ⟨inputs, commands, inputsEncoded, written_of_supported _ _ supported commandsEncoded, bytesEq⟩
    · exact absurd done (refused_raises ptb refused bytes)

def emptyPublish : Command := { kind := .publish, publishModules := some [], publishDependencies := some [] }

def moveVecThenPublish : ProgrammableTransaction := ⟨[], [{ kind := .makeMoveVec }, emptyPublish]⟩

-- 05 stands alone, and 04 begins the next command.
theorem make_move_vec_written_bare :
    moveVecThenPublish.serialize = .ok [0, 2, 5, 4, 0, 0] ∧ ¬ moveVecThenPublish.FailsClosed := by
  have small (n : Nat) (low : n < 0x80) := Leb128.encode_small n low
  have moveVec : Command.serialize { kind := .makeMoveVec } = .ok [5] := by
    rw [unsupported_bare _ id]
    exact congrArg Except.ok (small 5 (by omega))
  have publish : emptyPublish.serialize = .ok [4, 0, 0] := by
    rw [command_serialize_iff]
    refine ⟨[0, 0], (publish_body emptyPublish rfl _).mpr ?_, ?_⟩
    · have empty : vectorLayout [] = [0] := by
        rw [vectorLayout, List.length_nil, small 0 (by omega)]
        rfl
      have body : emptyPublish.Body _ := .publish [] [] rfl rfl rfl
      rwa [List.map_nil, empty] at body
    · have tag : Leb128.encode emptyPublish.kind.index = [4] := small 4 (by omega)
      rw [tag]
      rfl
  have serialized : moveVecThenPublish.serialize = .ok [0, 2, 5, 4, 0, 0] := by
    rw [programmable_transaction_serialize_iff]
    refine ⟨[], [[5], [4, 0, 0]], .nil, .cons moveVec (.cons publish .nil), ?_⟩
    rw [vectorLayout, vectorLayout, List.length_nil, small 0 (by omega), List.length_cons, List.length_singleton,
      small 2 (by omega)]
    rfl
  refine ⟨?_, ?_⟩
  · exact serialized
  · intro closed
    obtain ⟨_, commands, _, written, _⟩ := closed _ serialized
    exact supported_of_written moveVecThenPublish.commands commands written { kind := .makeMoveVec } List.mem_cons_self

end PyIota
