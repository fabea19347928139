import PyIota.Str

set_option autoImplicit false

namespace PyIota

-- The values json.loads produces. Floats are kept as exact rationals; Python's
-- decoder also accepts the three non-finite literals.
inductive Json where
  | null
  | bool (value : Bool)
  | int (value : Int)
  | float (value : Rat)
  | infinity (negative : Bool)
  | nan
  | str (value : Str)
  | list (items : List Json)
  | dict (entries : List (Str × Json))

-- Exceptions the interpreter raises itself; their texts differ between versions.
inductive Builtin where
  | valueError
  | unicodeEncodeError
  | unicodeDecodeError
  | assertionError
  | indexError
  | keyError
  | typeError
  | attributeError
  | overflowError
  | structError
deriving DecidableEq, Repr

inductive PyError where
  | serializationError (message : Str)
  | objectNotFoundError (objectId : Str)
  | rpcError (code message data : Json)
  | transactionError (digest : Str) (errorMessage : Json)
  | timeoutError (digest : Str) (timeout : Rat)
  | valueError (message : Str)
  | builtin (kind : Builtin)
  | validationError
  | httpError

-- isinstance(e, ValueError): the two Unicode errors are subclasses of it.
def PyError.isValueError : PyError → Prop
  | .valueError _ => True
  | .builtin kind => kind = .valueError ∨ kind = .unicodeEncodeError ∨ kind = .unicodeDecodeError
  | _ => False

def PyError.isSerializationError : PyError → Prop
  | .serializationError _ => True
  | _ => False

end PyIota
