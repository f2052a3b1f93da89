import MessageBroker.Decimal.Read
import MessageBroker.Text.Hex
/-!
# JSON5 documents

A document is kept as it was written as far as meaning may depend on the reader: numbers stay
text, since an unsigned field and a value that nobody asks for are read by different rules.
-/
namespace MessageBroker.Json5

inductive Value where
  | null
  | bool (b : Bool)
  | number (text : List Char)
  /-- `none` if the escapes of the string name no text. -/
  | string (text : Option String)
  | array (items : List Value)
  | object (members : List (Option String × Value))
deriving Inhabited

/-! ## Numbers -/

/-- The digits after `0x`, in a number that begins so. -/
def hexPart : List Char → Option (List Char)
  | '0' :: 'x' :: ds => some ds
  | '0' :: 'X' :: ds => some ds
  | _ => none

/-- A hexadecimal number has at most 32 bits. -/
def hexNumber (ds : List Char) : Option Nat := (Text.natOfHex? ds).filter (· < UInt32.size)

/-- The number as a float.  Infinity and the undefined value have a sign of their own only with a
minus, and a number too large for a float is none. -/
def floatOf (text : List Char) : Option Float :=
  match String.ofList text with
  | "Infinity" => some (1.0 / 0.0)
  | "-Infinity" => some (-1.0 / 0.0)
  | "NaN" | "-NaN" => some (0.0 / 0.0)
  | _ => match hexPart text with
    | some ds => (hexNumber ds).map Float.ofNat
    | none =>
      let (negative, r) := Decimal.takeSign text
      match Decimal.unsigned? r with
      | some x => if x.isFinite then some (if negative then -x else x) else none
      | none => none

/-- Whether the number is written as an integer. -/
def isInteger (text : List Char) : Bool :=
  !text.contains '.'
    && ((hexPart text).isSome || !(text.contains 'e' || text.contains 'E'))
    && (["Infinity", "-Infinity", "NaN", "-NaN"].contains (String.ofList text) == false)

/-- Whether a number that nobody asks for can be read at all: integers have 64 bits. -/
def soundNumber (text : List Char) : Bool :=
  if isInteger text then match hexPart text with
    | some ds => (hexNumber ds).isSome
    | none => (Decimal.int64? (String.ofList text)).isSome
  else (floatOf text).isSome

/-! ## Values that are passed over -/

mutual

/-- Whether everything in a value can be read, also where nobody asks for it. -/
def Value.sound : Value → Bool
  | .null | .bool _ => true
  | .number text => soundNumber text
  | .string text => text.isSome
  | .array items => soundItems items
  | .object members => soundMembers members

def soundItems : List Value → Bool
  | [] => true
  | v :: vs => v.sound && soundItems vs

def soundMembers : List (Option String × Value) → Bool
  | [] => true
  | (key, v) :: ms => key.isSome && v.sound && soundMembers ms

end

end MessageBroker.Json5
