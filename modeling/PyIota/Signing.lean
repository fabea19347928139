import PyIota.ClientTransactions
import PyIota.NormalAddress
import PyIota.Library.Base64
import PyIota.Library.Blake2b

set_option autoImplicit false

namespace PyIota

inductive SignatureScheme where
  | ed25519
  | secp256k1
  | secp256r1
  | multisig

def SignatureScheme.value : SignatureScheme → UInt8
  | .ed25519 => 0
  | .secp256k1 => 1
  | .secp256r1 => 2
  | .multisig => 3

-- scope TransactionData, version V0, application Iota
def transactionDataIntent : Bytes := [0, 0, 0]

def makeIntentMessage (txDataBcs : Bytes) : Bytes := transactionDataIntent ++ txDataBcs

def hashIntentMessage (intentMessage : Bytes) : Bytes := Blake2b.digest 32 intentMessage

def toSerializedSignature (scheme : SignatureScheme) (signature publicKey : Bytes) : Str :=
  base64Encode ([scheme.value] ++ signature ++ publicKey)

structure SigningError where
  message : Str

-- What PyNaCl makes of a seed: the key that goes with it and its signatures, or
-- the text of what it raises; and how such a key checks a signature.
structure Nacl where
  verifyKey : Bytes → Bytes
  sign : Bytes → Bytes → Except Str Bytes
  verify : Bytes → Bytes → Bytes → Bool

structure Nacl.Documented (nacl : Nacl) : Prop where
  verifyKeySized : ∀ seed, seed.length = 32 → (nacl.verifyKey seed).length = 32
  signatureSized : ∀ seed message signature, nacl.sign seed message = .ok signature → signature.length = 64
  verifies : ∀ seed message signature, seed.length = 32 → nacl.sign seed message = .ok signature →
    nacl.verify (nacl.verifyKey seed) message signature = true

-- An Ed25519Keypair with the key it wraps; nacl.signing.SigningKey takes 32 bytes.
structure Keypair where
  seed : Bytes
  sized : seed.length = 32

section

variable (nacl : Nacl) (keypair : Keypair)

def Keypair.publicKey : Bytes := nacl.verifyKey keypair.seed

def Keypair.address : Str :=
  let addrBytes := Blake2b.digest 32 (keypair.publicKey nacl)
  str "0x" ++ hex addrBytes

def Keypair.sign (message : Bytes) : Except SigningError Bytes :=
  (nacl.sign keypair.seed message).mapError fun text => ⟨str "Ed25519 signing failed: " ++ text⟩

def Keypair.signTransaction (txDataBcs : Bytes) : Except SigningError Str := do
  let intentMsg := makeIntentMessage txDataBcs
  let msgHash := hashIntentMessage intentMsg
  let signature ← keypair.sign nacl msgHash
  return toSerializedSignature .ed25519 signature (keypair.publicKey nacl)

end

structure Credentials where
  flag : UInt8
  signature : Bytes
  publicKey : Bytes

def base64Value (c : CodePoint) : Option Nat :=
  (str "ABCDEFGHIJKLMNOPQRSTUVWXYZabcdefghijklmnopqrstuvwxyz0123456789+/").idxOf? c

def base64Alphabet : Base64.Alphabet CodePoint where
  symbol := base64Digit
  value := base64Value
  pad := cp '='
  value_symbol := by
    have table : ∀ sextet : Fin 64, base64Value (base64Digit sextet.val) = some sextet.val := by decide +kernel
    intro sextet small
    exact table ⟨sextet, small⟩
  value_pad := by decide +kernel

def readSignature (text : Str) : Option Credentials :=
  match Base64.decode base64Alphabet text with
  | some (flag :: rest) => if rest.length = 96 then some ⟨flag, rest.take 64, rest.drop 64⟩ else none
  | _ => none

-- The check a node makes before it executes a transaction of `sender`: the key is
-- the one the sender's address is the hash of, and it signed these very bytes.
def Authenticates (nacl : Nacl) (sender txData : Bytes) (text : Str) : Prop :=
  ∃ credentials, readSignature text = some credentials ∧ credentials.flag = 0 ∧
    Blake2b.digest 32 credentials.publicKey = sender ∧
    nacl.verify credentials.publicKey (Blake2b.digest 32 ([0, 0, 0] ++ txData)) credentials.signature = true

theorem base64_encode_eq (data : Bytes) : base64Encode data = Base64.encode base64Alphabet data := by
  fun_induction base64Encode data with
  | case1 => rfl
  | case2 a => rfl
  | case3 a b => rfl
  | case4 a b c rest ih =>
      rw [ih]
      rfl

theorem base64_decode_encode (data : Bytes) : Base64.decode base64Alphabet (base64Encode data) = some data := by
  rw [base64_encode_eq]
  exact Base64.decode_encode base64Alphabet data

theorem read_serialized_signature (scheme : SignatureScheme) (signature publicKey : Bytes)
    (signatureSized : signature.length = 64) (publicKeySized : publicKey.length = 32) :
    readSignature (toSerializedSignature scheme signature publicKey) = some ⟨scheme.value, signature, publicKey⟩ := by
  have whole : (signature ++ publicKey).length = 96 := by
    rw [List.length_append, signatureSized, publicKeySized]
  have first : (signature ++ publicKey).take 64 = signature := by
    rw [← signatureSized, List.take_left]
  have last : (signature ++ publicKey).drop 64 = publicKey := by
    rw [← signatureSized, List.drop_left]
  rw [readSignature, toSerializedSignature, base64_decode_encode]
  simp only [List.cons_append, List.nil_append, whole, if_pos, first, last]

theorem keypair_address_bytes (nacl : Nacl) (keypair : Keypair) :
    addressBytes (keypair.address nacl) = .ok (Blake2b.digest 32 (keypair.publicKey nacl)) :=
  (hex_address_normal _ (Blake2b.length_digest 32 _ (by omega))).2

theorem sign_transaction_ok (nacl : Nacl) (keypair : Keypair) (txDataBcs : Bytes) (text : Str)
    (signed : keypair.signTransaction nacl txDataBcs = .ok text) : ∃ signature,
      nacl.sign keypair.seed (Blake2b.digest 32 ([0, 0, 0] ++ txDataBcs)) = .ok signature ∧
        text = toSerializedSignature .ed25519 signature (keypair.publicKey nacl) := by
  obtain ⟨signature, signatureEq, same⟩ := (Fallible.bind_ok _ _ _).mp signed
  cases made : nacl.sign keypair.seed (Blake2b.digest 32 ([0, 0, 0] ++ txDataBcs)) with
  | error reason =>
      have raised : keypair.sign nacl (Blake2b.digest 32 ([0, 0, 0] ++ txDataBcs)) = .ok signature := signatureEq
      rw [Keypair.sign, made] at raised
      cases raised
  | ok value =>
      have done : keypair.sign nacl (Blake2b.digest 32 ([0, 0, 0] ++ txDataBcs)) = .ok signature := signatureEq
      rw [Keypair.sign, made] at done
      cases done
      cases same
      exact ⟨_, rfl, rfl⟩

-- The signature is good for one sender, whichever one the transaction names.
theorem signed_authenticates_iff (nacl : Nacl) (documented : nacl.Documented) (keypair : Keypair)
    (sender txDataBcs : Bytes) (text : Str) (signed : keypair.signTransaction nacl txDataBcs = .ok text) :
    Authenticates nacl sender txDataBcs text ↔ addressBytes (keypair.address nacl) = .ok sender := by
  obtain ⟨signature, signatureEq, rfl⟩ := sign_transaction_ok nacl keypair txDataBcs text signed
  have reads := read_serialized_signature .ed25519 signature (keypair.publicKey nacl)
    (documented.signatureSized _ _ _ signatureEq) (documented.verifyKeySized _ keypair.sized)
  have verified := documented.verifies _ _ _ keypair.sized signatureEq
  rw [keypair_address_bytes]
  refine ⟨?_, ?_⟩
  · intro authenticated
    obtain ⟨credentials, read, _, hashed, _⟩ := authenticated
    rw [reads] at read
    cases read
    rw [← hashed]
  · intro same
    exact ⟨_, reads, rfl, Except.ok.inj same, verified⟩

end PyIota
