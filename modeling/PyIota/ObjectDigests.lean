import PyIota.Settings

set_option autoImplicit false

namespace PyIota

open Coroutine Fallible LastWrite

def digestLength : Nat := 32

-- The string is 32 bytes in Base58, or no Base58 at all.
def DigestSized (digest : Str) : Prop := ∀ bytes, base58Decode digest = .ok bytes → bytes.length = digestLength

def BcsObjectRef.Sized (ref : BcsObjectRef) : Prop := ref.digest.length = digestLength

def InputsSized (tx : Transaction) : Prop := ∀ arg ∈ tx.inputs, ∀ ref, arg.objectRef = some ref → ref.Sized

def Call.DigestSized : Call → Prop
  | .object objectId version digest initialSharedVersion _ =>
      initialSharedVersion = none → version.isSome → (∃ address, addressBytes objectId = .ok address) →
        ∀ text, digest = some text → PyIota.DigestSized text
  | _ => True

def Step.DigestSized : Step → Prop
  | .call builderCall => builderCall.DigestSized
  | _ => True

theorem inputs_sized_extend (tx : Transaction) (added : List CallArg) (made : List Command) :
    InputsSized (tx.extend added made) ↔
      InputsSized tx ∧ ∀ arg ∈ added, ∀ ref, arg.objectRef = some ref → ref.Sized := by
  simp only [InputsSized, extend_inputs, List.forall_mem_append]

theorem all_pure_sized (added : List CallArg) (allPure : AllPure added) :
    ∀ arg ∈ added, ∀ ref, arg.objectRef = some ref → ref.Sized := by
  intro arg member ref present
  obtain ⟨data, rfl⟩ := allPure arg member
  cases present

theorem pure_extension_sized_iff (tx : Transaction) (added : List CallArg) (made : List Command)
    (allPure : AllPure added) : InputsSized (tx.extend added made) ↔ InputsSized tx := by
  rw [inputs_sized_extend]
  exact and_iff_left (all_pure_sized added allPure)

theorem object_input_sized_iff (objectId : Str) (version : Option Int) (digest : Option Str)
    (initialSharedVersion : Option Int) (mutable : Bool) :
    (∀ callArg, objectInput objectId version digest initialSharedVersion mutable = .ok callArg →
      ∀ ref, callArg.objectRef = some ref → ref.Sized) ↔
      (Call.object objectId version digest initialSharedVersion mutable).DigestSized := by
  cases initialSharedVersion with
  | some sharedVersion =>
      refine ⟨?_, ?_⟩
      · intro _ owned
        cases owned
      · intro _ callArg made ref present
        obtain ⟨objBytes, _, same⟩ := (bind_ok _ _ _).mp made
        cases same
        cases present
  | none =>
      cases version with
      | none =>
          refine ⟨?_, ?_⟩
          · intro _ _ versioned
            cases versioned
          · intro _ callArg made
            cases made
      | some version =>
          cases digest with
          | none =>
              refine ⟨?_, ?_⟩
              · intro _ _ _ _ text absent
                cases absent
              · intro _ callArg made
                cases made
          | some digest =>
              refine ⟨?_, ?_⟩
              · intro sized _ _ ⟨objBytes, idEq⟩ text same digestBytes digestEq
                obtain rfl := Option.some.inj same
                have made : objectInput objectId (some version) (some digest) none mutable = .ok {
                    kind := .object, objectKind := .immOrOwnedObject,
                    objectRef := some ⟨objBytes, version, digestBytes⟩ } := by
                  simp only [objectInput, idEq, digestEq]
                  rfl
                exact sized _ made ⟨objBytes, version, digestBytes⟩ rfl
              · intro sized callArg made ref present
                obtain ⟨objBytes, idEq, rest⟩ := (bind_ok _ _ _).mp made
                obtain ⟨digestBytes, digestEq, same⟩ := (bind_ok _ _ _).mp rest
                cases same
                cases present
                exact sized rfl rfl ⟨objBytes, idEq⟩ digest rfl digestBytes digestEq

theorem after_object_sized_iff (tx : Transaction) (objectId : Str) (version : Option Int) (digest : Option Str)
    (initialSharedVersion : Option Int) (mutable : Bool) :
    InputsSized (tx.after (.object objectId version digest initialSharedVersion mutable)) ↔
      InputsSized tx ∧ (Call.object objectId version digest initialSharedVersion mutable).DigestSized := by
  rw [← object_input_sized_iff]
  unfold Transaction.after
  rw [Call.run, run_return, object_run]
  cases made : objectInput objectId version digest initialSharedVersion mutable with
  | error error => simp
  | ok callArg =>
      rw [inputs_sized_extend]
      simp

theorem plain_call_sized_iff (tx : Transaction) (call : Call) (plain : call.DigestSized)
    (allPure : ∀ handle next, call.run.run tx = .ok handle next →
      ∃ added made, next = tx.extend added made ∧ AllPure added) :
    InputsSized (tx.after call) ↔ InputsSized tx ∧ call.DigestSized := by
  have outcome := call_outcome tx call
  rw [and_iff_left plain]
  unfold Transaction.after
  cases run : call.run.run tx with
  | ok handle next =>
      obtain ⟨added, made, nextEq, pureInputs⟩ := allPure handle next run
      simp only [nextEq]
      exact pure_extension_sized_iff tx added made pureInputs
  | error error next =>
      rw [run] at outcome
      obtain ⟨added, nextEq, pureInputs, _⟩ := outcome
      simp only [nextEq]
      exact pure_extension_sized_iff tx added [] pureInputs

theorem pure_call_sized_iff (tx : Transaction) (value : PyValue) (typeHint : Option Str) :
    InputsSized (tx.after (.pure value typeHint)) ↔ InputsSized tx ∧ (Call.pure value typeHint).DigestSized := by
  apply plain_call_sized_iff tx (.pure value typeHint) trivial
  intro handle next run
  rw [Call.run, run_return, pure_run] at run
  cases encoded : serializePure value typeHint with
  | error error =>
      rw [encoded] at run
      cases run
  | ok data =>
      rw [encoded] at run
      cases run
      refine ⟨[pureInput data], [], rfl, ?_⟩
      intro arg member
      exact ⟨data, List.mem_singleton.mp member⟩

-- A call that makes a command puts its amounts and addresses in as pure inputs.
theorem command_call_sized_iff (tx : Transaction) (call : Call) (plain : call.DigestSized)
    (command : ∀ inputs commands before handle, call.Denotes inputs commands before handle →
      ∃ result, handle = .result result) :
    InputsSized (tx.after call) ↔ InputsSized tx ∧ call.DigestSized := by
  apply plain_call_sized_iff tx call plain
  intro handle next run
  have outcome := call_outcome tx call
  rw [run] at outcome
  obtain ⟨_, added, made, nextEq, denotes, commandMade | ⟨_, callArg, _, argument⟩⟩ := outcome
  · exact ⟨added, made, nextEq, commandMade.1⟩
  · obtain ⟨result, handleEq⟩ := command _ _ _ _ denotes
    rw [handleEq] at argument
    cases argument

theorem after_call_sized_iff (tx : Transaction) (call : Call) :
    InputsSized (tx.after call) ↔ InputsSized tx ∧ call.DigestSized := by
  cases call with
  | object objectId version digest initialSharedVersion mutable =>
      exact after_object_sized_iff tx objectId version digest initialSharedVersion mutable
  | pure value typeHint => exact pure_call_sized_iff tx value typeHint
  | transferObjects objects recipient =>
      apply command_call_sized_iff tx (.transferObjects objects recipient) trivial
      intro inputs commands before handle denotes
      cases denotes
      exact ⟨_, rfl⟩
  | splitCoins coin amounts =>
      apply command_call_sized_iff tx (.splitCoins coin amounts) trivial
      intro inputs commands before handle denotes
      cases denotes
      exact ⟨_, rfl⟩
  | mergeCoins destination sources =>
      apply command_call_sized_iff tx (.mergeCoins destination sources) trivial
      intro inputs commands before handle denotes
      cases denotes
      exact ⟨_, rfl⟩
  | moveCall target arguments typeArguments =>
      apply command_call_sized_iff tx (.moveCall target arguments typeArguments) trivial
      intro inputs commands before handle denotes
      cases denotes
      exact ⟨_, rfl⟩

theorem step_sized_iff (tx : Transaction) (step : Step) :
    InputsSized (tx.step step) ↔ InputsSized tx ∧ step.DigestSized := by
  cases step with
  | call made =>
      rw [step_call]
      exact after_call_sized_iff tx made
  | _ => exact (and_iff_left trivial).symm

theorem steps_sized_iff (tx : Transaction) (steps : List Step) :
    InputsSized (tx.steps steps) ↔ InputsSized tx ∧ ∀ step ∈ steps, step.DigestSized := by
  induction steps generalizing tx with
  | nil => simp [Transaction.steps]
  | cons step steps ih =>
      have rest := ih (tx.step step)
      rw [step_sized_iff] at rest
      rw [List.forall_mem_cons, ← and_assoc]
      exact rest

section

variable (models : Models) (node : Node) (world : World Transaction Request) (sender : Str)

def GasSized : Prop := ∀ refs, ResolvesGas models node world sender refs → ∀ ref ∈ refs, ref.Sized

theorem explicit_resolves_iff (coins : List Json) (refs : List BcsObjectRef)
    (explicit : world.state.gasPayment = some coins) :
    ResolvesGas models node world sender refs ↔ List.Forall₂ GasCoinRef coins refs := by
  refine ⟨?_, ?_⟩
  · intro resolves
    obtain ⟨final, run⟩ := resolves_gas_sync models node world sender refs resolves
    exact explicit_gas_payment_ok models node world final sender coins refs explicit run
  · intro made
    have mapped : coins.mapM gasCoinRef = .ok refs :=
      (map_m_ok_iff gasCoinRef coins refs).mpr (made.imp fun c ref => (gas_coin_ref_iff c ref).mpr)
    refine ⟨world, Or.inl ((direct_bind_ok _ _ _ _ _).mpr ⟨world.state, world, rfl, ?_⟩)⟩
    simp only [explicit]
    exact (direct_check_ok _ _ _ _).mpr ⟨mapped, rfl⟩

def CoinDigestSized (c : Json) : Prop :=
  ∀ value bytes, c.getItem (str "digest") = .ok value → value.base58Decode = .ok bytes → bytes.length = digestLength

theorem gas_coin_sized (c : Json) (ref : BcsObjectRef) (made : GasCoinRef c ref) :
    ref.Sized ↔ CoinDigestSized c := by
  obtain ⟨value, item, decoded⟩ := made.digest
  refine ⟨?_, ?_⟩
  · intro sized other bytes otherItem otherDecoded
    rw [item] at otherItem
    cases otherItem
    rw [decoded] at otherDecoded
    cases otherDecoded
    exact sized
  · intro sized
    exact sized value ref.digest item decoded

-- One bad coin refuses the whole list, whatever the digests of the others are.
def PaymentSized (coins : List Json) : Prop :=
  (∃ c ∈ coins, ∀ ref, ¬ GasCoinRef c ref) ∨ ∀ c ∈ coins, CoinDigestSized c

theorem made_refs_total (coins : List Json) :
    (∃ refs, List.Forall₂ GasCoinRef coins refs) ↔ ∀ c ∈ coins, ∃ ref, GasCoinRef c ref := by
  have same : GasCoinRef = fun c ref => gasCoinRef c = .ok ref := by
    funext c ref
    rw [gas_coin_ref_iff]
  rw [same]
  exact each_total gasCoinRef coins

theorem made_refs_sized_iff (coins : List Json) (refs : List BcsObjectRef) (made : List.Forall₂ GasCoinRef coins refs) :
    (∀ ref ∈ refs, ref.Sized) ↔ ∀ c ∈ coins, CoinDigestSized c := by
  induction made with
  | nil => simp
  | cons head _ ih => rw [List.forall_mem_cons, List.forall_mem_cons, ih, gas_coin_sized _ _ head]

theorem explicit_gas_sized_iff (coins : List Json) (explicit : world.state.gasPayment = some coins) :
    GasSized models node world sender ↔ PaymentSized coins := by
  refine ⟨?_, ?_⟩
  · intro sized
    by_cases each : ∀ c ∈ coins, ∃ ref, GasCoinRef c ref
    · right
      obtain ⟨refs, made⟩ := (made_refs_total coins).mpr each
      exact (made_refs_sized_iff coins refs made).mp
        (sized refs ((explicit_resolves_iff models node world sender coins refs explicit).mpr made))
    · left
      push Not at each
      exact each
  · intro payment refs resolves
    have made := (explicit_resolves_iff models node world sender coins refs explicit).mp resolves
    apply (made_refs_sized_iff coins refs made).mpr
    rcases payment with ⟨c, member, refused⟩ | sized
    · obtain ⟨ref, madeRef⟩ := (made_refs_total coins).mp ⟨refs, made⟩ c member
      exact absurd madeRef (refused ref)
    · exact sized

def AnswerSized : Prop :=
  ∀ obj, SelectsObject models node world sender obj → (∃ address, addressBytes obj.objectId = .ok address) →
    DigestSized obj.digest

theorem selected_gas_sized_iff (unset : world.state.gasPayment = none) :
    GasSized models node world sender ↔ AnswerSized models node world sender := by
  refine ⟨?_, ?_⟩
  · intro sized obj ⟨coins, afterCoins, firstCoin, rest, final, coinsRun, data, objectRun⟩ ⟨address, idEq⟩ bytes digestEq
    have resolves : ResolvesGas models node world sender [⟨address, obj.version, bytes⟩] := by
      refine ⟨final, Or.inl ((direct_bind_ok _ _ _ _ _).mpr ⟨world.state, world, rfl, ?_⟩)⟩
      simp only [unset]
      refine (direct_bind_ok _ _ _ _ _).mpr ⟨coins, afterCoins, coinsRun, ?_⟩
      simp only [data]
      refine (direct_bind_ok _ _ _ _ _).mpr ⟨obj, final, objectRun, (direct_check_ok _ _ _ _).mpr ⟨?_, rfl⟩⟩
      rw [idEq, digestEq]
      rfl
    exact sized _ resolves _ List.mem_cons_self
  · intro answer refs resolves ref member
    obtain ⟨final, run⟩ := resolves_gas_sync models node world sender refs resolves
    obtain ⟨coins, afterCoins, firstCoin, rest, obj, only, coinsRun, data, objectRun, refsEq, idEq, _, digestEq⟩ :=
      selected_gas_payment_ok models node world final sender refs unset run
    rw [refsEq, List.mem_singleton] at member
    rw [member]
    exact answer obj ⟨coins, afterCoins, firstCoin, rest, final, coinsRun, data, objectRun⟩ ⟨_, idEq⟩ _ digestEq

end

section

variable (models : Models) (node : Node) (steps : List Step) (sent : List Request) (sender : Str)

structure ReferencesSized : Prop where
  inputs : InputsSized (Transaction.steps {} steps)
  gas : GasSized models node (afterSteps steps sent) sender

-- What has to hold of the digest strings that were given to the steps, and to the
-- gas resolution by its own source.
structure DigestsGivenSized : Prop where
  objects : ∀ step ∈ steps, step.DigestSized
  payment : ∀ coins, last Step.gasPayment? steps = some coins → PaymentSized coins
  answer : last Step.gasPayment? steps = none → AnswerSized models node (afterSteps steps sent) sender

theorem references_sized_iff :
    ReferencesSized models node steps sent sender ↔ DigestsGivenSized models node steps sent sender := by
  have inputs := steps_sized_iff {} steps
  have empty : InputsSized {} := by
    intro arg member
    cases member
  have paymentSet : (afterSteps steps sent).state.gasPayment = last Step.gasPayment? steps := gas_payment_after_steps steps
  rw [and_iff_right empty] at inputs
  refine ⟨?_, ?_⟩
  · intro ⟨inputsSized, gasSized⟩
    refine ⟨inputs.mp inputsSized, ?_, ?_⟩
    · intro coins wasSet
      exact (explicit_gas_sized_iff models node _ sender coins (paymentSet.trans wasSet)).mp gasSized
    · intro unset
      exact (selected_gas_sized_iff models node _ sender (paymentSet.trans unset)).mp gasSized
  · intro ⟨objects, payment, answer⟩
    refine ⟨inputs.mpr objects, ?_⟩
    cases chosen : last Step.gasPayment? steps with
    | some coins =>
        exact (explicit_gas_sized_iff models node _ sender coins (paymentSet.trans chosen)).mpr (payment coins chosen)
    | none => exact (selected_gas_sized_iff models node _ sender (paymentSet.trans chosen)).mpr (answer chosen)

end

def emptyDigestStep : Step := .call (.object (str "0x1") (some 1) (some []) none true)

theorem empty_digest_accepted :
    (∃ arg ref, (Transaction.steps {} [emptyDigestStep]).inputs = [arg] ∧ arg.objectRef = some ref ∧ ref.digest = []) ∧
      ¬ ReferencesSized refusingModels silentNode [emptyDigestStep] [] senderOfOnes := by
  have made : (Transaction.steps {} [emptyDigestStep]).inputs = [{
      kind := .object, objectKind := .immOrOwnedObject, objectRef := some ⟨List.replicate 31 0 ++ [1], 1, []⟩ }] := rfl
  refine ⟨⟨_, _, made, rfl, rfl⟩, ?_⟩
  intro sized
  have each := sized.inputs
  rw [InputsSized, made, List.forall_mem_singleton] at each
  have same : 0 = digestLength := each _ rfl
  exact absurd same (by decide)

end PyIota
