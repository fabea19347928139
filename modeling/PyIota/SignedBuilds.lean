import PyIota.BuildSucceeds
import PyIota.Signing

set_option autoImplicit false

namespace PyIota

open Coroutine

section

variable (nacl : Nacl) (keypair : Keypair)

def Keypair.signer : Ed25519Keypair := ⟨keypair.address nacl⟩

-- The method as the client calls it, a SigningError coming out as what the
-- caller sees of it.
def Keypair.signerMethod (raised : SigningError → PyError) (txBytes : Bytes) : Except PyError Str :=
  (keypair.signTransaction nacl txBytes).mapError raised

end

section

variable (pydantic : Pydantic) (node : Node) (signTransaction : Bytes → Except PyError Str) (txBytes : Bytes)
  (showEffects showEvents showObjectChanges showBalanceChanges : Bool) (world : World Transaction Request)

-- sign_and_execute_transaction() of either client sends these requests and ends so.
def Submits (requests : List Request) (result : Except PyError TransactionResponse) : Prop :=
  let final : World Transaction Request := ⟨world.state, world.sent ++ requests⟩
  Settles (SyncIotaClient.signAndExecuteTransaction pydantic node signTransaction txBytes showEffects showEvents
      showObjectChanges showBalanceChanges) world result final ∧
    drive node ((IotaClient.signAndExecuteTransaction pydantic signTransaction txBytes showEffects showEvents
      showObjectChanges showBalanceChanges).start world.state) world.sent = settled result final

theorem submits_of_settles (requests : List Request) (result : Except PyError TransactionResponse)
    (settles : Settles (SyncIotaClient.signAndExecuteTransaction pydantic node signTransaction txBytes showEffects
      showEvents showObjectChanges showBalanceChanges) world result ⟨world.state, world.sent ++ requests⟩) :
    Submits pydantic node signTransaction txBytes showEffects showEvents showObjectChanges showBalanceChanges world
      requests result := by
  refine ⟨settles, ?_⟩
  rw [sign_and_execute_mirrors pydantic node signTransaction txBytes showEffects showEvents showObjectChanges
    showBalanceChanges world.state world.sent]
  exact settles

theorem unsigned_submits_nothing (error : PyError) (failed : signTransaction txBytes = .error error) :
    Submits pydantic node signTransaction txBytes showEffects showEvents showObjectChanges showBalanceChanges world []
      (.error error) := by
  apply submits_of_settles
  rw [List.append_nil]
  apply settles_fail
  rw [failed]
  exact settles_check (.error error) world

theorem signed_submits_once (text : Str) (signed : signTransaction txBytes = .ok text) : ∃ result,
    Submits pydantic node signTransaction txBytes showEffects showEvents showObjectChanges showBalanceChanges world
      [executeRequest (base64Encode txBytes) [text]
        { showEffects, showEvents, showObjectChanges, showBalanceChanges } (str "WaitForLocalExecution")] result := by
  have known : Settles (Direct.check (signTransaction txBytes)) world (.ok text) world := by
    rw [signed]
    exact settles_check (.ok text) world
  let request := executeRequest (base64Encode txBytes) [text]
    { showEffects, showEvents, showObjectChanges, showBalanceChanges } (str "WaitForLocalExecution")
  refine ⟨do
    let result ← reply node world.sent request
    let response ← construct pydantic.transactionResponse result
    response.orFailure, ?_⟩
  apply submits_of_settles
  apply settles_next _ _ text world world _ _ known
  exact execute_settles pydantic node _ _ _ _ world

end

theorem keypair_address_named (nacl : Nacl) (keypair : Keypair) (address : Bytes) :
    addressBytes (keypair.address nacl) = .ok address ↔ NamesAddress (keypair.address nacl) address := by
  have normal : normalizeIotaAddress (keypair.address nacl) = .ok (keypair.address nacl) :=
    (hex_address_normal _ (Blake2b.length_digest 32 _ (by omega))).1
  exact clean_address_iff _ address fun slip => address_slip_not_normal _ _ slip normal

-- From the builder to the node: what is submitted encodes the transaction that was
-- built, and its signature passes for exactly one sender.
theorem submitted_build_authenticates (nacl : Nacl) (documented : nacl.Documented) (keypair : Keypair)
    (raised : SigningError → PyError) (pydantic : Pydantic) (models : Models) (node : Node) (session : Session)
    (sent : List Request) (bytes : Bytes) (sender : Str) (reachable : session.Reachable)
    (clean : ∀ made ∈ session.made, made.call.Clean)
    (settings : CleanSettings models node ⟨session.tx, sent⟩ (some (keypair.signer nacl)))
    (chosen : senderOrSigner session.tx.sender (some (keypair.signer nacl)) = some sender)
    (built : BuildReturns models node (some (keypair.signer nacl)) session.tx sent bytes)
    (short : bytes.length < 2 ^ 64) (showEffects showEvents showObjectChanges showBalanceChanges : Bool)
    (world : World Transaction Request) :
    (∀ error, keypair.signTransaction nacl bytes = .error error →
      Submits pydantic node (keypair.signerMethod nacl raised) bytes showEffects showEvents showObjectChanges
        showBalanceChanges world [] (.error (raised error))) ∧
    ∀ text, keypair.signTransaction nacl bytes = .ok text → ∃ (txBytes : Str) (result : Except PyError TransactionResponse)
        (senderBytes : Bytes) (price : Int) (payment : List BcsObjectRef) (value : TransactionValue),
      Submits pydantic node (keypair.signerMethod nacl raised) bytes showEffects showEvents showObjectChanges
        showBalanceChanges world [executeRequest txBytes [text]
          { showEffects, showEvents, showObjectChanges, showBalanceChanges } (str "WaitForLocalExecution")] result ∧
      Base64.decode base64Alphabet txBytes = some bytes ∧
      Builds models node ⟨session.tx, sent⟩ (some (keypair.signer nacl)) (session.tx.data senderBytes price payment) ∧
      (session.tx.data senderBytes price payment).serialize = .ok bytes ∧
      (session.tx.data senderBytes price payment).Denotes value ∧ DecodesTo bytes value ∧
      NamesAddress sender value.sender ∧
      (Authenticates nacl value.sender bytes text ↔ NamesAddress (keypair.address nacl) value.sender) := by
  obtain ⟨txData, final, dataRun, serialized⟩ :=
    (build_returns_data models node (some (keypair.signer nacl)) session.tx sent bytes).mp built
  have valid := clean_session_well_formed session reachable clean
  obtain ⟨value, denotes, decodes⟩ :=
    well_formed_build_decodes models node _ final _ txData bytes valid settings dataRun serialized short
  obtain ⟨used, usedEq, usedBytes, made⟩ := transaction_data_made models node _ final _ txData dataRun
  obtain rfl : used = sender := Option.some.inj (usedEq.symm.trans chosen)
  refine ⟨?_, ?_⟩
  · intro error failed
    apply unsigned_submits_nothing
    rw [Keypair.signerMethod, failed]
    rfl
  · intro text signed
    have method : keypair.signerMethod nacl raised bytes = .ok text := by
      rw [Keypair.signerMethod, signed]
      rfl
    obtain ⟨result, submits⟩ := signed_submits_once pydantic node (keypair.signerMethod nacl raised) bytes showEffects
      showEvents showObjectChanges showBalanceChanges world text method
    refine ⟨base64Encode bytes, result, txData.sender, txData.gas.price, txData.gas.payment, value, submits,
      base64_decode_encode bytes, ?_⟩
    rw [← made]
    refine ⟨⟨final, Or.inl dataRun⟩, serialized, denotes, decodes, ?_, ?_⟩
    · rw [← denotes.sender]
      exact (clean_address_iff used txData.sender (settings.sender used chosen)).mp usedBytes
    · rw [signed_authenticates_iff nacl documented keypair value.sender bytes text signed]
      exact keypair_address_named nacl keypair value.sender

def seedKeypair : Keypair := ⟨(List.range 32).map UInt8.ofNat, rfl⟩

def seedPublicKey : Bytes := [
  0x03, 0xA1, 0x07, 0xBF, 0xF3, 0xCE, 0x10, 0xBE, 0x1D, 0x70, 0xDD, 0x18, 0xE7, 0x4B, 0xC0, 0x99,
  0x67, 0xE4, 0xD6, 0x30, 0x9B, 0xA5, 0x0D, 0x5F, 0x1D, 0xDC, 0x86, 0x64, 0x12, 0x55, 0x31, 0xB8]

-- Its signature of the intent hash of splitTransactionBytes.
def seedSignature : Bytes := [
  0x55, 0xB9, 0x3E, 0x15, 0xFC, 0x99, 0xA5, 0xF3, 0xCE, 0x87, 0x6E, 0xF2, 0x1C, 0xDA, 0xF2, 0xF1,
  0x12, 0xDC, 0x80, 0xEB, 0x8F, 0xAE, 0xDE, 0xB9, 0x9E, 0x0D, 0x4F, 0x61, 0x8C, 0x29, 0x5B, 0x56,
  0x63, 0xE0, 0xF6, 0x17, 0x45, 0xE8, 0x24, 0xAD, 0x10, 0xAE, 0xA0, 0xB7, 0xFC, 0xCC, 0x75, 0xE6,
  0xAD, 0x1C, 0x5D, 0x85, 0xCA, 0xC4, 0xA8, 0x5F, 0x17, 0xB3, 0x6C, 0xAD, 0xEA, 0xF6, 0xA3, 0x01]

def seedNacl : Nacl where
  verifyKey _ := seedPublicKey
  sign _ _ := .ok seedSignature
  verify _ _ signature := signature == seedSignature

example : seedKeypair.address seedNacl =
    str "0x9d24e2eeaf27c2a088a564a32fc03a882dcd9804dbc0d03a119491e54ba0c933" := by decide +kernel

theorem seed_nacl_documented : seedNacl.Documented where
  verifyKeySized := by
    intro seed sized
    rfl
  signatureSized := by
    intro seed message signature signed
    cases signed
    rfl
  verifies := by
    intro seed message signature sized signed
    cases signed
    exact beq_self_eq_true seedSignature

-- set_sender() named another address, and the signer does not change that.
theorem other_sender_refused : ∃ text txBytes result senderBytes price payment value,
    seedKeypair.signTransaction seedNacl splitTransactionBytes = .ok text ∧
      Submits strictPydantic silentNode (seedKeypair.signerMethod seedNacl fun _ => typeError) splitTransactionBytes
        true true true true ⟨splitSession.tx, []⟩
        [executeRequest txBytes [text] ⟨true, true, true, true, false⟩ (str "WaitForLocalExecution")] result ∧
      Base64.decode base64Alphabet txBytes = some splitTransactionBytes ∧
      (splitSession.tx.data senderBytes price payment).Denotes value ∧ DecodesTo splitTransactionBytes value ∧
      NamesAddress senderOfOnes value.sender ∧ ¬ Authenticates seedNacl value.sender splitTransactionBytes text := by
  have signed : seedKeypair.signTransaction seedNacl splitTransactionBytes =
      .ok (toSerializedSignature .ed25519 seedSignature seedPublicKey) := rfl
  obtain ⟨_, submitted⟩ := submitted_build_authenticates seedNacl seed_nacl_documented seedKeypair
    (fun _ => typeError) strictPydantic refusingModels silentNode splitSession [] splitTransactionBytes
    senderOfOnes split_session_reachable split_session_clean (split_session_settings _ []) rfl
    (split_session_returns _ []) (by decide) true true true true ⟨splitSession.tx, []⟩
  obtain ⟨txBytes, result, senderBytes, price, payment, value, submits, encoded, _, _, denotes, decodes, named,
    authenticates⟩ := submitted _ signed
  refine ⟨_, txBytes, result, senderBytes, price, payment, value, signed, submits, encoded, denotes, decodes, named, ?_⟩
  intro accepted
  have signer := (keypair_address_named seedNacl seedKeypair value.sender).mpr (authenticates.mp accepted)
  have other := (named_address senderOfOnes value.sender named).2
  rw [keypair_address_bytes, ← other] at signer
  have first : (Blake2b.digest 32 seedPublicKey).head? = some 0x9D := by decide +kernel
  have ones : (Blake2b.digest 32 seedPublicKey).head? = some 1 := congrArg List.head? (Except.ok.inj signer)
  rw [first] at ones
  cases ones

end PyIota
