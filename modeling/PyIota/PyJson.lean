import PyIota.Base58
import PyIota.Address

set_option autoImplicit false

namespace PyIota

-- Zeros of the decimal digits outside ASCII, each followed by its nine others.
def decimalZeros : List Nat := [
  0x660, 0x6F0, 0x7C0, 0x966, 0x9E6, 0xA66, 0xAE6, 0xB66, 0xBE6, 0xC66, 0xCE6, 0xD66, 0xDE6, 0xE50, 0xED0, 0xF20,
  0x1040, 0x1090, 0x17E0, 0x1810, 0x1946, 0x19D0, 0x1A80, 0x1A90, 0x1B50, 0x1BB0, 0x1C40, 0x1C50, 0xA620, 0xA8D0,
  0xA900, 0xA9D0, 0xA9F0, 0xAA50, 0xABF0, 0xFF10, 0x104A0, 0x10D30, 0x11066, 0x110F0, 0x11136, 0x111D0, 0x112F0,
  0x11450, 0x114D0, 0x11650, 0x116C0, 0x11730, 0x118E0, 0x11950, 0x11C50, 0x11D50, 0x11DA0, 0x11F50, 0x16A60,
  0x16AC0, 0x16B50, 0x1D7CE, 0x1D7D8, 0x1D7E2, 0x1D7EC, 0x1D7F6, 0x1E140, 0x1E2F0, 0x1E4F0, 0x1E950, 0x1FBF0]

def asciiDigit (c : CodePoint) : Option Nat := if 0x30 ≤ c.val ∧ c.val ≤ 0x39 then some (c.val - 0x30) else none

def decimalAndSpaceToAscii (c : CodePoint) : CodePoint :=
  if c.val < 0x7F then c
  else if isSpace c then cp ' '
  else
    let found := decimalZeros.find? fun first => first ≤ c.val ∧ c.val < first + 10
    found.elim (cp '?') fun first => (str "0123456789").getD (c.val - first) (cp '?')

def parseDigits (value count : Nat) : Str → Option (Nat × Nat)
  | [] => none
  | [c] => (asciiDigit c).map fun digit => (10 * value + digit, count + 1)
  | c :: u :: rest =>
      match asciiDigit c with
      | none => none
      | some digit =>
          if u = cp '_' then parseDigits (10 * value + digit) (count + 1) rest
          else parseDigits (10 * value + digit) (count + 1) (u :: rest)

def stripAscii (s : Str) : Str := ((s.dropWhile isAsciiSpace).reverse.dropWhile isAsciiSpace).reverse

-- int(s). Underscores do not count towards the limit, leading zeros do.
def parseInt (s : Str) : Except PyError Int :=
  let parseNat (digits : Str) : Except PyError Nat :=
    match parseDigits 0 0 digits with
    | some (value, count) => if count ≤ maxStrDigits then .ok value else .error (.builtin .valueError)
    | none => .error (.builtin .valueError)
  match stripAscii (s.map decimalAndSpaceToAscii) with
  | [] => .error (.builtin .valueError)
  | first :: rest => do
      if first = cp '-' then
        let value ← parseNat rest
        return -(value : Int)
      else if first = cp '+' then
        let value ← parseNat rest
        return (value : Int)
      else
        let value ← parseNat (first :: rest)
        return (value : Int)

-- int(value); a float is cut off towards zero.
def Json.toInt : Json → Except PyError Int
  | .int value => .ok value
  | .bool value => .ok (if value then 1 else 0)
  | .float value => .ok (value.num.tdiv value.den)
  | .infinity _ => .error (.builtin .overflowError)
  | .nan => .error (.builtin .valueError)
  | .str s => parseInt s
  | .null => .error (.builtin .typeError)
  | .list _ => .error (.builtin .typeError)
  | .dict _ => .error (.builtin .typeError)

def Json.getItem (value : Json) (key : Str) : Except PyError Json :=
  match value with
  | .dict entries =>
      match entries.lookup key with
      | some item => .ok item
      | none => .error (.builtin .keyError)
  | _ => .error (.builtin .typeError)

-- value.get(key, default); only a dict has the method.
def Json.get (value : Json) (key : Str) (default : Json) : Except PyError Json :=
  match value with
  | .dict entries => .ok ((entries.lookup key).getD default)
  | _ => .error (.builtin .attributeError)

def Json.contains (value : Json) (key : Str) : Except PyError Bool :=
  match value with
  | .dict entries => .ok (entries.lookup key).isSome
  | .list items => .ok (items.any fun item => match item with
      | .str s => s = key
      | _ => false)
  | .str s => .ok (key <:+: s)
  | _ => .error (.builtin .typeError)

def Json.iterate : Json → Except PyError (List Json)
  | .list items => .ok items
  | .dict entries => .ok (entries.map fun entry => .str entry.1)
  | .str s => .ok (s.map fun c => .str [c])
  | _ => .error (.builtin .typeError)

def Json.addressBytes : Json → Except PyError Bytes
  | .str s => PyIota.addressBytes s
  | _ => .error (.builtin .attributeError)

-- base58_decode(value): what is falsy decodes to nothing, and what cannot be
-- iterated fails there, before encode() is looked up.
def Json.base58Decode : Json → Except PyError Bytes
  | .str s => PyIota.base58Decode s
  | .null => .ok []
  | .bool value => if value then .error (.builtin .typeError) else .ok []
  | .int value => if value = 0 then .ok [] else .error (.builtin .typeError)
  | .float value => if value = 0 then .ok [] else .error (.builtin .typeError)
  | .infinity _ => .error (.builtin .typeError)
  | .nan => .error (.builtin .typeError)
  | .list items => if items.isEmpty then .ok [] else .error (.builtin .attributeError)
  | .dict entries => if entries.isEmpty then .ok [] else .error (.builtin .attributeError)

end PyIota
