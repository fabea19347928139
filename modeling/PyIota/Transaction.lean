import PyIota.Base58
import PyIota.BcsTypes

set_option autoImplicit false

namespace PyIota

-- What a caller may hand to pure(). A value of any other type answers each
-- named serializer in its own way.
inductive PyValue where
  | int (value : Int)
  | bool (value : Bool)
  | str (value : Str)
  | bytes (data : Bytes)
  | none
  | foreign (typeName : Str) (answer : Str → Except PyError Bytes)

def typeError : PyError := .builtin .typeError
def attributeError : PyError := .builtin .attributeError

-- True and False are the ints 1 and 0; nothing else compares with an int.
def onInt (serializer : Int → Except PyError Bytes) : PyValue → Except PyError Bytes
  | .int value => serializer value
  | .bool value => serializer (if value then 1 else 0)
  | _ => .error typeError

def onTruth (serializer : Bool → Except PyError Bytes) : PyValue → Except PyError Bytes
  | .int value => serializer (value ≠ 0)
  | .bool value => serializer value
  | .str value => serializer (value ≠ [])
  | .bytes data => serializer (data ≠ [])
  | _ => serializer false

def onString (serializer : Str → Except PyError Bytes) : PyValue → Except PyError Bytes
  | .str value => serializer value
  | _ => .error attributeError

-- bytes has lower() too, but its removeprefix does not take a str.
def onAddress (serializer : Str → Except PyError Bytes) : PyValue → Except PyError Bytes
  | .str value => serializer value
  | .bytes _ => .error typeError
  | _ => .error attributeError

-- A str has a length but only the empty one extends a bytearray.
def onBytes (serializer : Bytes → Except PyError Bytes) : PyValue → Except PyError Bytes
  | .bytes data => serializer data
  | .str [] => serializer []
  | _ => .error typeError

def serializers : List (Str × (PyValue → Except PyError Bytes)) := [
  (str "u8", onInt serializePureU8),
  (str "u16", onInt serializePureU16),
  (str "u32", onInt serializePureU32),
  (str "u64", onInt serializePureU64),
  (str "u128", onInt serializePureU128),
  (str "u256", onInt serializePureU256),
  (str "bool", onTruth serializePureBool),
  (str "string", onString serializePureString),
  (str "address", onAddress serializePureAddress),
  (str "bytes", onBytes serializePureBytes)]

def serializePure (value : PyValue) (typeHint : Option Str) : Except PyError Bytes :=
  match typeHint with
  | some hint =>
      match serializers.lookup hint with
      | none => .error (.valueError (str "Unknown type hint: " ++ hint))
      | some serializer =>
          match value with
          | .foreign _ answer => answer hint
          | known => serializer known
  | none =>
      let cannot (typeName : Str) : PyError :=
        .valueError (str "Cannot auto-serialize type " ++ typeName ++ str ". Use a type hint.")
      match value with
      | .bool value => serializePureBool value
      | .int value => serializePureU64 value
      | .str value => if startswith value (str "0x") then serializePureAddress value else serializePureString value
      | .bytes data => serializePureBytes data
      | .none => .error (cannot (str "NoneType"))
      | .foreign typeName _ => .error (cannot typeName)

structure TransactionResult where
  index : Int
deriving DecidableEq

def TransactionResult.toArgument (result : TransactionResult) : Argument := resultArg result.index

def TransactionResult.getItem (result : TransactionResult) (nestedIndex : Int) : Argument :=
  nestedResultArg result.index nestedIndex

inductive Ref where
  | argument (arg : Argument)
  | result (result : TransactionResult)
deriving DecidableEq

def resolveArgument : Ref → Argument
  | .argument arg => arg
  | .result result => result.toArgument

structure Transaction where
  inputs : List CallArg := []
  commands : List Command := []
  gasBudget : Option Int := none
  gasPrice : Option Int := none
  gasPayment : Option (List Json) := none
  sender : Option Str := none

-- A method that raises leaves the object as it had changed it by then.
abbrev Builder (α : Type) := EStateM PyError Transaction α

def Transaction.gas : Argument := gasCoin

def addInput (callArg : CallArg) : Builder Argument := do
  let tx ← get
  set { tx with inputs := tx.inputs ++ [callArg] }
  return inputArg tx.inputs.length

def addCommand (cmd : Command) : Builder TransactionResult := do
  let tx ← get
  set { tx with commands := tx.commands ++ [cmd] }
  return ⟨tx.commands.length⟩

def Transaction.pure (value : PyValue) (typeHint : Option Str) : Builder Argument := do
  let data ← MonadExcept.ofExcept (serializePure value typeHint)
  addInput { kind := .pure, pureData := data }

def Transaction.pureU8 (value : PyValue) : Builder Argument := Transaction.pure value (some (str "u8"))
def Transaction.pureU16 (value : PyValue) : Builder Argument := Transaction.pure value (some (str "u16"))
def Transaction.pureU32 (value : PyValue) : Builder Argument := Transaction.pure value (some (str "u32"))
def Transaction.pureU64 (value : PyValue) : Builder Argument := Transaction.pure value (some (str "u64"))
def Transaction.pureU128 (value : PyValue) : Builder Argument := Transaction.pure value (some (str "u128"))
def Transaction.pureU256 (value : PyValue) : Builder Argument := Transaction.pure value (some (str "u256"))
def Transaction.pureBool (value : PyValue) : Builder Argument := Transaction.pure value (some (str "bool"))
def Transaction.pureString (value : PyValue) : Builder Argument := Transaction.pure value (some (str "string"))
def Transaction.pureAddress (address : PyValue) : Builder Argument := Transaction.pure address (some (str "address"))

def missingReference (objectId : Str) : PyError :=
  .valueError (str "Object reference for " ++ objectId ++ str " requires version and digest. " ++
    str "Use client.get_object() to fetch them, or pass them directly: " ++
    str "tx.object(object_id, version=..., digest=...)")

def Transaction.object (objectId : Str) (version : Option Int) (digest : Option Str)
    (initialSharedVersion : Option Int) (mutable : Bool) : Builder Argument :=
  match initialSharedVersion with
  | some sharedVersion => do
      let objBytes ← MonadExcept.ofExcept (addressBytes objectId)
      addInput { kind := .object, objectKind := .sharedObject, sharedRef := some ⟨objBytes, sharedVersion, mutable⟩ }
  | none =>
      match version, digest with
      | some version, some digest => do
          let objBytes ← MonadExcept.ofExcept (addressBytes objectId)
          let digestBytes ← MonadExcept.ofExcept (base58Decode digest)
          addInput { kind := .object, objectKind := .immOrOwnedObject, objectRef := some ⟨objBytes, version, digestBytes⟩ }
      | _, _ => throw (missingReference objectId)

inductive Recipient where
  | address (address : Str)
  | ref (ref : Ref)

def resolveRecipient : Recipient → Builder Argument
  | .address address => Transaction.pureAddress (.str address)
  | .ref ref => return resolveArgument ref

def Transaction.transferObjects (objects : List Ref) (recipient : Recipient) : Builder TransactionResult := do
  let resolvedObjects := objects.map resolveArgument
  let recipientArg ← resolveRecipient recipient
  addCommand { kind := .transferObjects, transferObjects := some resolvedObjects, transferRecipient := some recipientArg }

-- A bool amount is an int as well, and pure_u64 encodes it as 0 or 1.
inductive Amount where
  | int (value : Int)
  | ref (ref : Ref)

def resolveAmount : Amount → Builder Argument
  | .int value => Transaction.pureU64 (.int value)
  | .ref ref => return resolveArgument ref

def resolveAmounts : List Amount → Builder (List Argument)
  | [] => return []
  | amount :: rest => do
      let arg ← resolveAmount amount
      let args ← resolveAmounts rest
      return arg :: args

def Transaction.splitCoins (coin : Ref) (amounts : List Amount) : Builder TransactionResult := do
  let coinArg := resolveArgument coin
  let amountArgs ← resolveAmounts amounts
  addCommand { kind := .splitCoins, splitCoin := some coinArg, splitAmounts := some amountArgs }

def Transaction.mergeCoins (destination : Ref) (sources : List Ref) : Builder TransactionResult :=
  addCommand {
    kind := .mergeCoins
    mergeDestination := some (resolveArgument destination)
    mergeSources := some (sources.map resolveArgument) }

def invalidTarget (target : Str) : PyError :=
  .valueError (str "Invalid target format: " ++ target ++ str ". Expected 'package_id::module::function'")

def Transaction.moveCall (target : Str) (arguments : Option (List Ref)) (typeArguments : Option (List Str)) :
    Builder TransactionResult :=
  match splitColons target with
  | [packageStr, module, function] => do
      let packageBytes ← MonadExcept.ofExcept (addressBytes packageStr)
      addCommand { kind := .moveCall, moveCall := some {
        package := packageBytes
        module := module
        function := function
        typeArguments := typeArguments.getD []
        arguments := (arguments.getD []).map resolveArgument } }
  | _ => throw (invalidTarget target)

def Transaction.setSender (address : Str) : Builder Unit := modify fun tx => { tx with sender := some address }
def Transaction.setGasBudget (budget : Int) : Builder Unit := modify fun tx => { tx with gasBudget := some budget }
def Transaction.setGasPrice (price : Int) : Builder Unit := modify fun tx => { tx with gasPrice := some price }
def Transaction.setGasPayment (coins : List Json) : Builder Unit := modify fun tx => { tx with gasPayment := some coins }

def Transaction.extend (tx : Transaction) (inputs : List CallArg) (commands : List Command) : Transaction :=
  { tx with inputs := tx.inputs ++ inputs, commands := tx.commands ++ commands }

@[simp] theorem extend_inputs (tx : Transaction) (inputs : List CallArg) (commands : List Command) :
    (tx.extend inputs commands).inputs = tx.inputs ++ inputs := rfl

@[simp] theorem extend_commands (tx : Transaction) (inputs : List CallArg) (commands : List Command) :
    (tx.extend inputs commands).commands = tx.commands ++ commands := rfl

@[simp] theorem extend_nil (tx : Transaction) : tx.extend [] [] = tx := by
  simp [Transaction.extend]

@[simp] theorem extend_extend (tx : Transaction) (inputs later : List CallArg) (commands after : List Command) :
    (tx.extend inputs commands).extend later after = tx.extend (inputs ++ later) (commands ++ after) := by
  simp [Transaction.extend]

def pureInput (data : Bytes) : CallArg := { kind := .pure, pureData := data }

theorem add_input_run (tx : Transaction) (callArg : CallArg) :
    (addInput callArg).run tx = .ok (inputArg tx.inputs.length) (tx.extend [callArg] []) := by
  simp [addInput, Transaction.extend]

theorem add_command_run (tx : Transaction) (cmd : Command) :
    (addCommand cmd).run tx = .ok ⟨tx.commands.length⟩ (tx.extend [] [cmd]) := by
  simp [addCommand, Transaction.extend]

theorem of_except_ok {α : Type} (tx : Transaction) (result : Except PyError α) (value : α) (ok : result = .ok value) :
    (MonadExcept.ofExcept result : Builder α).run tx = .ok value tx := by
  rw [ok]
  rfl

theorem of_except_error {α : Type} (tx : Transaction) (result : Except PyError α) (error : PyError)
    (failed : result = .error error) : (MonadExcept.ofExcept result : Builder α).run tx = .error error tx := by
  rw [failed]
  rfl

theorem pure_run (tx : Transaction) (value : PyValue) (typeHint : Option Str) :
    (Transaction.pure value typeHint).run tx = match serializePure value typeHint with
      | .ok data => .ok (inputArg tx.inputs.length) (tx.extend [pureInput data] [])
      | .error error => .error error tx := by
  cases serialized : serializePure value typeHint with
  | error error => simp only [Transaction.pure, EStateM.run_bind, of_except_error tx _ error serialized]
  | ok data => simp only [Transaction.pure, EStateM.run_bind, of_except_ok tx _ data serialized, add_input_run, pureInput]

def objectInput (objectId : Str) (version : Option Int) (digest : Option Str) (initialSharedVersion : Option Int)
    (mutable : Bool) : Except PyError CallArg :=
  match initialSharedVersion with
  | some sharedVersion => do
      let objBytes ← addressBytes objectId
      pure { kind := .object, objectKind := .sharedObject, sharedRef := some ⟨objBytes, sharedVersion, mutable⟩ }
  | none =>
      match version, digest with
      | some version, some digest => do
          let objBytes ← addressBytes objectId
          let digestBytes ← base58Decode digest
          pure { kind := .object, objectKind := .immOrOwnedObject, objectRef := some ⟨objBytes, version, digestBytes⟩ }
      | _, _ => .error (missingReference objectId)

theorem object_run (tx : Transaction) (objectId : Str) (version : Option Int) (digest : Option Str)
    (initialSharedVersion : Option Int) (mutable : Bool) :
    (Transaction.object objectId version digest initialSharedVersion mutable).run tx =
      match objectInput objectId version digest initialSharedVersion mutable with
      | .ok callArg => .ok (inputArg tx.inputs.length) (tx.extend [callArg] [])
      | .error error => .error error tx := by
  unfold Transaction.object objectInput
  cases initialSharedVersion with
  | some sharedVersion =>
      cases decoded : addressBytes objectId with
      | error error => simp only [EStateM.run_bind, of_except_error tx _ error rfl]; rfl
      | ok objBytes => simp only [EStateM.run_bind, of_except_ok tx _ objBytes rfl, add_input_run]; rfl
  | none =>
      cases version with
      | none => rfl
      | some version =>
          cases digest with
          | none => rfl
          | some digest =>
              cases decoded : addressBytes objectId with
              | error error => simp only [EStateM.run_bind, of_except_error tx _ error rfl]; rfl
              | ok objBytes =>
                  simp only [EStateM.run_bind, of_except_ok tx _ objBytes rfl]
                  cases digestDecoded : base58Decode digest with
                  | error error => simp only [of_except_error tx _ error rfl]; rfl
                  | ok digestBytes => simp only [of_except_ok tx _ digestBytes rfl, add_input_run]; rfl

theorem merge_coins_run (tx : Transaction) (destination : Ref) (sources : List Ref) :
    (Transaction.mergeCoins destination sources).run tx = .ok ⟨tx.commands.length⟩ (tx.extend [] [{
      kind := .mergeCoins
      mergeDestination := some (resolveArgument destination)
      mergeSources := some (sources.map resolveArgument) }]) :=
  add_command_run tx _

def moveCallCommand (target : Str) (arguments : Option (List Ref)) (typeArguments : Option (List Str)) :
    Except PyError Command :=
  match splitColons target with
  | [packageStr, module, function] => do
      let packageBytes ← addressBytes packageStr
      pure { kind := .moveCall, moveCall := some {
        package := packageBytes
        module := module
        function := function
        typeArguments := typeArguments.getD []
        arguments := (arguments.getD []).map resolveArgument } }
  | _ => .error (invalidTarget target)

theorem move_call_run (tx : Transaction) (target : Str) (arguments : Option (List Ref))
    (typeArguments : Option (List Str)) : (Transaction.moveCall target arguments typeArguments).run tx =
      match moveCallCommand target arguments typeArguments with
      | .ok cmd => .ok ⟨tx.commands.length⟩ (tx.extend [] [cmd])
      | .error error => .error error tx := by
  unfold Transaction.moveCall moveCallCommand
  split
  · rename_i packageStr module function parts
    cases decoded : addressBytes packageStr with
    | error error => simp only [EStateM.run_bind, of_except_error tx _ error rfl]; rfl
    | ok packageBytes => simp only [EStateM.run_bind, of_except_ok tx _ packageBytes rfl, add_command_run]; rfl
  · rfl

theorem resolve_recipient_run (tx : Transaction) (recipient : Recipient) :
    (resolveRecipient recipient).run tx = match recipient with
      | .ref ref => .ok (resolveArgument ref) tx
      | .address address =>
          match serializePure (.str address) (some (str "address")) with
          | .ok data => .ok (inputArg tx.inputs.length) (tx.extend [pureInput data] [])
          | .error error => .error error tx := by
  cases recipient with
  | ref ref => rfl
  | address address => exact pure_run tx (.str address) (some (str "address"))

end PyIota
