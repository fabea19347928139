import PyIota.BuilderSafety
import PyIota.ClientTransactions
import PyIota.Settings
import PyIota.Library.Interleaving

set_option autoImplicit false

namespace PyIota

open Coroutine Interleaving

-- The lists as they can be encoded at any moment: every argument names an input
-- that is there or an earlier command, and no field is missing.
structure Transaction.Sound (tx : Transaction) : Prop where
  arguments : ∀ index cmd, tx.commands[index]? = some cmd →
    ∀ arg ∈ cmd.arguments, ArgumentSafe tx.inputs.length index arg
  inputs : ∀ arg ∈ tx.inputs, arg.Complete
  commands : ∀ cmd ∈ tx.commands, cmd.Complete

-- The references a caller may pass now: what it has been handed stays in range.
def Step.Permitted (tx : Transaction) : Step → Prop
  | .call builderCall =>
      ∀ ref ∈ builderCall.refs, ArgumentSafe tx.inputs.length tx.commands.length (resolveArgument ref)
  | _ => True

-- Whoever else holds the transaction makes one method call.
def Caller (tx next : Transaction) : Prop := ∃ step : Step, step.Permitted tx ∧ next = tx.step step

def IsBuild (program : AsyncMethod Bytes) : Prop := ∃ models signer, program = Transaction.build models signer

theorem sound_add_inputs (tx : Transaction) (added : List CallArg) (sound : tx.Sound)
    (complete : ∀ arg ∈ added, arg.Complete) : (tx.extend added []).Sound where
  arguments := by
    intro index cmd found
    exact extend_keeps_arguments tx added [] index cmd (no_new_command tx added index cmd found) found sound.arguments
  inputs := List.forall_mem_append.mpr ⟨sound.inputs, complete⟩
  commands := by
    rw [extend_commands, List.append_nil]
    exact sound.commands

theorem sound_add_command (tx : Transaction) (added : List CallArg) (cmd : Command) (sound : tx.Sound)
    (complete : ∀ arg ∈ added, arg.Complete) (cmdComplete : cmd.Complete)
    (safe : ∀ arg ∈ cmd.arguments, ArgumentSafe (tx.inputs ++ added).length tx.commands.length arg) :
    (tx.extend added [cmd]).Sound where
  arguments := by
    intro index other found
    by_cases within : index < tx.commands.length
    · exact extend_keeps_arguments tx added [cmd] index other within found sound.arguments
    · have bound := (List.getElem?_eq_some_iff.mp found).1
      have last : index = tx.commands.length := by
        simp only [extend_commands, List.length_append, List.length_singleton] at bound
        omega
      subst last
      rw [extend_commands, List.getElem?_concat_length] at found
      rw [← Option.some.inj found]
      exact safe
  inputs := List.forall_mem_append.mpr ⟨sound.inputs, complete⟩
  commands := by
    rw [extend_commands, List.forall_mem_append, List.forall_mem_singleton]
    exact ⟨sound.commands, cmdComplete⟩

theorem call_sound (tx : Transaction) (call : Call) (sound : tx.Sound)
    (permitted : Step.Permitted tx (.call call)) : (tx.after call).Sound := by
  have outcome := call_outcome tx call
  unfold Transaction.after
  cases run : call.run.run tx with
  | error error next =>
      rw [run] at outcome
      obtain ⟨added, rfl, allPure, _⟩ := outcome
      exact sound_add_inputs tx added sound (pure_input_complete added allPure)
  | ok handle next =>
      rw [run] at outcome
      obtain ⟨_, added, made, rfl, denotes, shape⟩ := outcome
      rcases shape with ⟨allPure, cmd, rfl, rfl⟩ | ⟨rfl, callArg, rfl, rfl⟩
      · have refs : ∀ ref ∈ call.refs,
            ArgumentSafe (tx.inputs ++ added).length tx.commands.length (resolveArgument ref) := by
          intro ref member
          exact argument_safe_mono tx.inputs.length _ _ _ _ (by simp) le_rfl (permitted ref member)
        have made := denoted_command_safe _ _ _ _ call cmd denotes refs (by simp)
        exact sound_add_command tx added cmd sound (pure_input_complete added allPure) made.2 made.1
      · apply sound_add_inputs tx [callArg] sound
        intro arg member
        have found : (tx.inputs ++ [callArg])[tx.inputs.length]? = some arg := by
          rw [List.mem_singleton.mp member]
          simp
        exact denoted_input_complete _ _ _ _ call arg denotes found

theorem caller_sound (tx next : Transaction) (sound : tx.Sound) (caller : Caller tx next) : next.Sound := by
  obtain ⟨step, permitted, rfl⟩ := caller
  cases step with
  | call call =>
      rw [step_call]
      exact call_sound tx call sound permitted
  | setSender address => exact ⟨sound.arguments, sound.inputs, sound.commands⟩
  | setGasBudget budget => exact ⟨sound.arguments, sound.inputs, sound.commands⟩
  | setGasPrice price => exact ⟨sound.arguments, sound.inputs, sound.commands⟩
  | setGasPayment coins => exact ⟨sound.arguments, sound.inputs, sound.commands⟩

theorem caller_extends (tx next : Transaction) (caller : Caller tx next) :
    tx.inputs <+: next.inputs ∧ tx.commands <+: next.commands := by
  obtain ⟨step, _, rfl⟩ := caller
  cases step with
  | call call =>
      obtain ⟨added, made, afterEq⟩ := after_extends tx call
      rw [step_call, afterEq]
      exact ⟨List.prefix_append _ _, List.prefix_append _ _⟩
  | setSender address => exact ⟨List.prefix_rfl, List.prefix_rfl⟩
  | setGasBudget budget => exact ⟨List.prefix_rfl, List.prefix_rfl⟩
  | setGasPrice price => exact ⟨List.prefix_rfl, List.prefix_rfl⟩
  | setGasPayment coins => exact ⟨List.prefix_rfl, List.prefix_rfl⟩

theorem changes_sound (tx later : Transaction) (sound : tx.Sound) (changed : Changes Caller tx later) :
    later.Sound := by
  induction changed with
  | refl => exact sound
  | tail _ caller ih => exact caller_sound _ _ ih caller

theorem changes_extend (tx later : Transaction) (changed : Changes Caller tx later) :
    tx.inputs <+: later.inputs ∧ tx.commands <+: later.commands := by
  induction changed with
  | refl => exact ⟨List.prefix_rfl, List.prefix_rfl⟩
  | tail _ caller ih =>
      obtain ⟨inputs, commands⟩ := caller_extends _ _ caller
      exact ⟨ih.1.trans inputs, ih.2.trans commands⟩

section

variable (models : Models)

theorem request_leaves (method : Str) (params : Option (List Json)) :
    LeavesState (AsyncRpcTransport.request method params) := by
  apply leaves_bind _ _ (leaves_await _)
  intro response
  apply leaves_bind _ _ (leaves_check response)
  intro responseJson
  exact leaves_check (extractResult responseJson)

theorem coins_leaves (owner coinType : Str) (cursor limit : Json) :
    LeavesState (IotaClient.getCoins models owner coinType cursor limit) := by
  apply leaves_bind _ _ (request_leaves _ _)
  intro result
  exact leaves_check _

theorem object_leaves {δ ε : Type} (objectResponse : List (Str × Json) → Except PyError (ObjectResponse δ ε))
    (objectId : Str) (show_ : ShowOptions) : LeavesState (IotaClient.getObjectAs objectResponse objectId show_) := by
  apply leaves_bind _ _ (request_leaves _ _)
  intro result
  apply leaves_bind _ _ (leaves_check _)
  intro response
  exact leaves_check (response.orNotFound objectId)

theorem gas_payment_leaves (sender : Str) : LeavesState (Transaction.resolveGasPayment models sender) := by
  apply leaves_bind _ _ leaves_read
  intro self
  cases self.gasPayment with
  | some gasPayment => exact leaves_check _
  | none =>
      apply leaves_bind _ _ (coins_leaves models sender _ _ _)
      intro coins
      cases coins.data with
      | nil => exact leaves_raise _
      | cons firstCoin rest =>
          apply leaves_bind _ _ (object_leaves models.objectResponse _ _)
          intro obj
          exact leaves_check _

theorem gas_price_leaves : LeavesState Transaction.gasPriceOrReference := by
  apply leaves_bind _ _ leaves_read
  intro self
  cases self.gasPrice with
  | some gasPrice => exact leaves_pure gasPrice
  | none =>
      apply leaves_bind _ _ (request_leaves _ _)
      intro result
      exact leaves_check result.toInt

theorem build_leaves (signer : Option Ed25519Keypair) : LeavesState (Transaction.build models signer) := by
  have transactionData : LeavesState (Transaction.transactionData models signer) := by
    apply leaves_bind _ _ leaves_read
    intro self
    cases senderOrSigner self.sender signer with
    | none => exact leaves_raise _
    | some sender =>
        apply leaves_bind _ _ (leaves_check _)
        intro senderBytes
        apply leaves_bind _ _ gas_price_leaves
        intro gasPrice
        apply leaves_bind _ _ leaves_read
        intro self
        apply leaves_bind _ _ (gas_payment_leaves models sender)
        intro gasRefs
        apply leaves_bind _ _ leaves_read
        intro self
        exact leaves_pure _
  apply leaves_bind _ _ transactionData
  intro txData
  exact leaves_check txData.serialize

end

theorem started_builds_leave (program : AsyncMethod Bytes) (isBuild : IsBuild program) : LeavesState program := by
  obtain ⟨models, signer, rfl⟩ := isBuild
  exact build_leaves models signer

def Returns {α : Type} (method : Node → SyncMethod α) (answer : Answer) (value : α) : Prop :=
  ∀ world, ∃ final, (method fun _ => answer).run world = .ok value final

def priceRequest : Request := ⟨str "iotax_getReferenceGasPrice", []⟩

def coinsRequest (owner : Str) : Request :=
  ⟨str "iotax_getCoins", [.str owner, .str iotaCoinType, .null, .null]⟩

inductive PriceRead (began : Transaction) : List (Request × Answer) → Int → Transaction → Prop where
  | set (price : Int) (explicit : began.gasPrice = some price) : PriceRead began [] price began
  | asked (answer : Answer) (price : Int) (priced : Transaction) (unset : began.gasPrice = none)
      (returned : Returns SyncIotaClient.getReferenceGasPrice answer price) :
      PriceRead began [(priceRequest, answer)] price priced

inductive PaymentRead (models : Models) (sender : Str) (priced : Transaction) :
    List (Request × Answer) → List BcsObjectRef → Transaction → Prop where
  | set (coins : List Json) (refs : List BcsObjectRef) (explicit : priced.gasPayment = some coins)
      (made : List.Forall₂ GasCoinRef coins refs) : PaymentRead models sender priced [] refs priced
  | selected (coinsAnswer objectAnswer : Answer) (coins : CoinPage) (firstCoin : CoinData) (rest : List CoinData)
      (obj : ObjectData) (ref : BcsObjectRef) (ended : Transaction) (unset : priced.gasPayment = none)
      (listed : Returns (SyncIotaClient.getCoins models · sender iotaCoinType .null .null) coinsAnswer coins)
      (data : coins.data = firstCoin :: rest)
      (found : Returns (SyncIotaClient.getObject models · firstCoin.coinObjectId {}) objectAnswer obj)
      (objectId : addressBytes obj.objectId = .ok ref.objectId) (version : ref.version = obj.version)
      (digest : base58Decode obj.digest = .ok ref.digest) :
      PaymentRead models sender priced
        [(coinsRequest sender, coinsAnswer), (objectRequest firstCoin.coinObjectId {}, objectAnswer)] [ref] ended

-- What the bytes of a build() say that began with one builder, knew its gas price
-- with another and ended with a third.
structure Snapshot (models : Models) (signer : Option Ed25519Keypair) (began priced ended : Transaction)
    (exchanges : List (Request × Answer)) (txData : TransactionData) : Prop where
  settings : ∃ sender asked paid, senderOrSigner began.sender signer = some sender ∧ exchanges = asked ++ paid ∧
    addressBytes sender = .ok txData.sender ∧ PriceRead began asked txData.gas.price priced ∧
    PaymentRead models sender priced paid txData.gas.payment ended
  owner : txData.gas.owner = txData.sender
  budget : txData.gas.budget = priced.gasBudgetOrDefault
  kind : txData.kind = ⟨ended.inputs, ended.commands⟩

section

variable (models : Models) (others : Transaction → Transaction → Prop) (exchanges : List (Request × Answer))

theorem request_ends (method : Str) (params : Option (List Json)) (state final : Transaction) (result : Json)
    (ends : Ends (Changes others) (AsyncRpcTransport.request method params) state exchanges (.ok result final)) :
    ∃ answer, exchanges = [(⟨method, orEmpty params⟩, answer)] ∧ ∀ world,
      (SyncRpcTransport.request (fun _ => answer) method params).run world =
        .ok result ⟨world.state, world.sent ++ [⟨method, orEmpty params⟩]⟩ := by
  obtain ⟨answer, _, first, second, rfl, awaited, rest⟩ := ends_bind _ _ _ _ _ _ ends
  obtain ⟨rfl, _⟩ := ends_await _ _ _ _ _ awaited
  obtain ⟨responseJson, rfl, rest⟩ := ends_check_next _ _ _ _ _ _ rest
  obtain ⟨rfl, extracted, _⟩ := ends_check _ _ _ _ _ rest
  refine ⟨_, rfl, ?_⟩
  intro world
  change (Direct.check (extractResult responseJson)).run _ = _
  rw [extracted]
  rfl

theorem checked_request_ends {α : Type} (method : Str) (params : Option (List Json)) (decode : Json → Except PyError α)
    (state final : Transaction) (value : α)
    (ends : Ends (Changes others)
      (AsyncRpcTransport.request method params >>= fun result => Async.check (decode result)) state exchanges
      (.ok value final)) :
    ∃ answer, exchanges = [(⟨method, orEmpty params⟩, answer)] ∧
      Returns (fun node => SyncRpcTransport.request node method params >>= fun result => Direct.check (decode result))
        answer value := by
  obtain ⟨result, _, first, second, rfl, asked, rest⟩ := ends_bind _ _ _ _ _ _ ends
  obtain ⟨answer, rfl, answered⟩ := request_ends others first method params _ _ result asked
  obtain ⟨rfl, decoded, _⟩ := ends_check _ _ _ _ _ rest
  refine ⟨answer, rfl, ?_⟩
  intro world
  let after : World Transaction Request := ⟨world.state, world.sent ++ [⟨method, orEmpty params⟩]⟩
  have checked : (Direct.check (decode result)).run after = .ok value after :=
    (direct_check_ok _ _ _ _).mpr ⟨decoded, rfl⟩
  exact ⟨after, (direct_bind_ok _ _ _ _ _).mpr ⟨result, after, answered world, checked⟩⟩

theorem object_ends (objectId : Str) (state final : Transaction) (obj : ObjectData)
    (ends : Ends (Changes others) (IotaClient.getObject models objectId {}) state exchanges (.ok obj final)) :
    ∃ answer, exchanges = [(objectRequest objectId {}, answer)] ∧
      Returns (SyncIotaClient.getObject models · objectId {}) answer obj := by
  obtain ⟨result, _, first, second, rfl, asked, rest⟩ := ends_bind _ _ _ _ _ _ ends
  obtain ⟨answer, rfl, answered⟩ := request_ends others first _ _ _ _ result asked
  obtain ⟨response, decoded, rest⟩ := ends_check_next _ _ _ _ _ _ rest
  obtain ⟨rfl, found, _⟩ := ends_check _ _ _ _ _ rest
  refine ⟨answer, rfl, ?_⟩
  intro world
  let after : World Transaction Request := ⟨world.state, world.sent ++ [objectRequest objectId {}]⟩
  refine ⟨after, (direct_bind_ok _ _ _ _ _).mpr ⟨result, after, answered world, ?_⟩⟩
  exact (direct_bind_ok _ _ _ _ _).mpr ⟨response, after, (direct_check_ok _ _ _ _).mpr ⟨decoded, rfl⟩,
    (direct_check_ok _ _ _ _).mpr ⟨found, rfl⟩⟩

theorem gas_price_ends (began priced : Transaction) (price : Int)
    (ends : Ends (Changes others) Transaction.gasPriceOrReference began exchanges (.ok price priced)) :
    PriceRead began exchanges price priced := by
  have rest := ends_read_next _ _ _ _ ends
  cases setting : began.gasPrice with
  | some known =>
      simp only [setting] at rest
      obtain ⟨rfl, rfl, rfl⟩ := ends_pure _ _ _ _ _ rest
      exact .set _ setting
  | none =>
      simp only [setting] at rest
      obtain ⟨answer, rfl, returned⟩ := checked_request_ends others exchanges _ _ _ _ _ _ rest
      exact .asked answer price priced setting returned

theorem gas_payment_ends (priced ended : Transaction) (sender : Str) (refs : List BcsObjectRef)
    (ends : Ends (Changes others) (Transaction.resolveGasPayment models sender) priced exchanges (.ok refs ended)) :
    PaymentRead models sender priced exchanges refs ended := by
  have rest := ends_read_next _ _ _ _ ends
  cases setting : priced.gasPayment with
  | some coins =>
      simp only [setting] at rest
      obtain ⟨rfl, mapped, rfl⟩ := ends_check _ _ _ _ _ rest
      let world : World Transaction Request := ⟨ended, []⟩
      have sync : (Transaction.resolveGasPaymentSync models silentNode sender).run world = .ok refs world := by
        refine (direct_bind_ok _ _ _ _ _).mpr ⟨ended, world, rfl, ?_⟩
        simp only [setting]
        exact (direct_check_ok _ _ _ _).mpr ⟨mapped, rfl⟩
      exact .set coins refs setting (explicit_gas_payment_ok models silentNode world world sender coins refs setting sync)
  | none =>
      simp only [setting] at rest
      obtain ⟨coins, _, first, second, rfl, listed, selected⟩ := ends_bind _ _ _ _ _ _ rest
      obtain ⟨coinsAnswer, rfl, coinsReturned⟩ := checked_request_ends others first _ _ _ _ _ _ listed
      cases data : coins.data with
      | nil =>
          rw [data] at selected
          exact absurd selected (ends_raise _ _ _ _ _)
      | cons firstCoin otherCoins =>
          rw [data] at selected
          obtain ⟨obj, _, third, fourth, rfl, asked, referenced⟩ := ends_bind _ _ _ _ _ _ selected
          obtain ⟨objectAnswer, rfl, objectReturned⟩ := object_ends models others third _ _ _ obj asked
          obtain ⟨rfl, made, _⟩ := ends_check _ _ _ _ _ referenced
          obtain ⟨objectId, objectIdEq, made⟩ := (Fallible.bind_ok _ _ _).mp made
          obtain ⟨digest, digestEq, made⟩ := (Fallible.bind_ok _ _ _).mp made
          cases made
          exact .selected coinsAnswer objectAnswer coins firstCoin otherCoins obj _ ended setting coinsReturned data
            objectReturned objectIdEq rfl digestEq

theorem build_snapshot (signer : Option Ed25519Keypair) (began ended : Transaction) (bytes : Bytes)
    (ends : Ends (Changes others) (Transaction.build models signer) began exchanges (.ok bytes ended)) :
    ∃ priced txData, Changes others began priced ∧ Changes others priced ended ∧
      Snapshot models signer began priced ended exchanges txData ∧ txData.serialize = .ok bytes := by
  obtain ⟨txData, _, _, _, rfl, built, rest⟩ := ends_bind _ _ _ _ _ _ ends
  obtain ⟨rfl, serialized, rfl⟩ := ends_check _ _ _ _ _ rest
  have rest := ends_read_next _ _ _ _ built
  cases chosen : senderOrSigner began.sender signer with
  | none =>
      rw [chosen] at rest
      exact absurd rest (ends_raise _ _ _ _ _)
  | some sender =>
      simp only [chosen] at rest
      obtain ⟨senderBytes, senderEq, rest⟩ := ends_check_next _ _ _ _ _ _ rest
      obtain ⟨gasPrice, priced, asked, _, rfl, priceEnds, rest⟩ := ends_bind _ _ _ _ _ _ rest
      obtain ⟨gasRefs, _, payments, _, rfl, paymentEnds, rest⟩ :=
        ends_bind _ _ _ _ _ _ (ends_read_next _ _ _ _ rest)
      have rest := ends_read_next _ _ _ _ rest
      obtain ⟨rfl, rfl, rfl⟩ := ends_pure _ _ _ _ _ rest
      have priceChanged := leaves_changed _ _ _ _ _ gas_price_leaves priceEnds
      have paymentChanged := leaves_changed _ _ _ _ _ (gas_payment_leaves models sender) paymentEnds
      refine ⟨priced, _, priceChanged, paymentChanged, ?_, serialized⟩
      exact {
        settings := ⟨sender, asked, payments, chosen, by simp, senderEq,
          gas_price_ends others asked _ priced gasPrice priceEnds,
          gas_payment_ends models others payments priced _ sender gasRefs paymentEnds⟩
        owner := rfl
        budget := rfl
        kind := rfl
      }

end

-- However answers and method calls fall between the parts of the builds under
-- way, the bytes of each are those of one moment of a sound builder.
theorem interleaved_build_snapshot (first : Transaction) (sound : first.Sound)
    (pool : Pool Transaction PyError Request Answer Bytes)
    (runs : Pool.Later IsBuild Caller ⟨first, []⟩ pool)
    (thread : Thread Transaction PyError Request Answer Bytes) (member : thread ∈ pool.threads) (bytes : Bytes)
    (ended : Transaction) (over_ : thread.task = .done (.ok bytes ended)) :
    IsBuild thread.program ∧ ∀ models signer, thread.program = Transaction.build models signer →
      ∃ priced txData, Changes Caller first thread.began ∧ Changes Caller thread.began priced ∧
        Changes Caller priced ended ∧ Changes Caller ended pool.state ∧ ended.Sound ∧
        thread.began.inputs <+: ended.inputs ∧ thread.began.commands <+: ended.commands ∧
        Snapshot models signer thread.began priced ended thread.exchanged txData ∧ txData.serialize = .ok bytes := by
  have valid := pool_later_valid started_builds_leave first _ pool (fresh_pool_valid first) runs
  obtain ⟨isBuild, beganLater⟩ := valid.began thread member
  refine ⟨isBuild, ?_⟩
  intro models signer programEq
  have thread_valid := valid.threads thread member
  have reached := thread_valid.reached
  have since := thread_valid.since
  rw [over_, programEq] at reached
  rw [over_] at since
  obtain ⟨priced, txData, priceChanged, paymentChanged, snapshot, serialized⟩ :=
    build_snapshot models Caller thread.exchanged signer thread.began ended bytes reached
  have whole := priceChanged.trans paymentChanged
  obtain ⟨inputs, commands⟩ := changes_extend _ _ whole
  exact ⟨priced, txData, beganLater, priceChanged, paymentChanged, since,
    changes_sound first ended sound (beganLater.trans whole), inputs, commands, snapshot, serialized⟩

def openBuilder : Transaction := Transaction.steps {} [
  .call (.pure (.int 7) (some (str "u8"))), .setGasBudget 2, .setSender senderOfOnes, .setGasPayment []]

def lateSplit : Call := .splitCoins (.argument Transaction.gas) [.ref (.argument (inputArg 0))]

def closedBuilder : Transaction := openBuilder.step (.call lateSplit)

def priceOfOne : Answer := .ok (.dict [(str "result", .int 1)])

theorem open_builder_sound : openBuilder.Sound where
  arguments := by simp [show openBuilder.commands = [] from rfl]
  inputs := by
    intro arg member
    rw [List.mem_singleton.mp (show arg ∈ [pureInput [7]] from member)]
    trivial
  commands := by simp [show openBuilder.commands = [] from rfl]

theorem late_split_permitted : Caller openBuilder closedBuilder := by
  refine ⟨.call lateSplit, ?_, rfl⟩
  change ∀ ref ∈ lateSplit.refs, ArgumentSafe 1 0 (resolveArgument ref)
  intro ref member
  have cases_ : ref = .argument Transaction.gas ∨ ref = .argument (inputArg 0) := by
    simpa [lateSplit, Call.refs, Amount.refs] using member
  rcases cases_ with rfl | rfl
  · trivial
  · exact ⟨le_rfl, Int.one_pos⟩

theorem build_awaits_price (began : Transaction) (known : began = openBuilder ∨ began = closedBuilder) : ∃ resume,
    (Transaction.build refusingModels none).start began = .await priceRequest began resume ∧
      resume priceOfOne closedBuilder = .done (.ok splitTransactionBytes closedBuilder) := by
  have encoded : (Async.check splitTransaction.serialize : AsyncMethod Bytes).start closedBuilder =
      .done (.ok splitTransactionBytes closedBuilder) := by
    rw [split_transaction_serialized]
    rfl
  rcases known with rfl | rfl
  · exact ⟨_, rfl, encoded⟩
  · exact ⟨_, rfl, encoded⟩

theorem build_started (began : Transaction) (threads : List (Thread Transaction PyError Request Answer Bytes))
    (others : Transaction → Transaction → Prop)
    (resume : Answer → Transaction → Task Transaction PyError Request Answer Bytes)
    (awaits : (Transaction.build refusingModels none).start began = .await priceRequest began resume) :
    Pool.Step IsBuild others ⟨began, threads⟩
      ⟨began, threads ++ [⟨Transaction.build refusingModels none, began, [], .await priceRequest began resume⟩]⟩ := by
  have step : Pool.Step IsBuild others ⟨began, threads⟩ _ :=
    .start ⟨began, threads⟩ (Transaction.build refusingModels none) ⟨refusingModels, none, rfl⟩
  rw [awaits] at step
  exact step

theorem late_split_encoded : ∃ priced txData,
    Changes Caller openBuilder priced ∧ Changes Caller priced closedBuilder ∧
      Snapshot refusingModels none openBuilder priced closedBuilder [(priceRequest, priceOfOne)] txData ∧
      txData.serialize = .ok splitTransactionBytes := by
  obtain ⟨resume, awaits, done⟩ := build_awaits_price openBuilder (Or.inl rfl)
  let waiting : Thread Transaction PyError Request Answer Bytes :=
    ⟨Transaction.build refusingModels none, openBuilder, [], .await priceRequest openBuilder resume⟩
  have runs : Pool.Later IsBuild Caller ⟨openBuilder, []⟩ ⟨left (resume priceOfOne closedBuilder),
      [⟨Transaction.build refusingModels none, openBuilder, [(priceRequest, priceOfOne)],
        resume priceOfOne closedBuilder⟩]⟩ :=
    .tail (.tail (.tail .refl (build_started openBuilder [] Caller resume awaits))
      (.change ⟨openBuilder, [waiting]⟩ closedBuilder late_split_permitted))
      (.answer ⟨closedBuilder, [waiting]⟩ 0 waiting priceRequest openBuilder resume priceOfOne rfl rfl)
  obtain ⟨priced, txData, _, before, after, _, _, _, _, snapshot, serialized⟩ :=
    (interleaved_build_snapshot openBuilder open_builder_sound _ runs _ List.mem_cons_self splitTransactionBytes
      closedBuilder done).2 refusingModels none rfl
  exact ⟨priced, txData, before, after, snapshot, serialized⟩

end PyIota
