import MessageBroker.Json5.Value
/-!
# Reading fields

A structure is written as an object, in which other keys are passed over, or as an array with its
fields in their order.  Each reader fails on a value of another shape.
-/
namespace MessageBroker.Json5

/-- The fields that a value gives, by name. -/
abbrev Fields := List (String × Value)

/-- The members of an object among `names`.  None of these may be given twice, and all other
members must be sound. -/
def fieldsOfMembers (names : List String) : List (Option String × Value) → Option Fields
  | [] => some []
  | (none, _) :: _ => none
  | (some key, v) :: ms => do
    let fs ← fieldsOfMembers names ms
    if names.contains key then
      if fs.any (·.1 == key) then none else some ((key, v) :: fs)
    else if v.sound then some fs else none

def fields (names : List String) : Value → Option Fields
  | .object ms => fieldsOfMembers names ms
  | .array vs => some (names.zip vs)
  | _ => none

namespace Fields

def require {α : Type} (fs : Fields) (name : String) (read : Value → Option α) : Option α :=
  (fs.lookup name).bind read

def getD {α : Type} (fs : Fields) (name : String) (read : Value → Option α) (default : α) :
    Option α :=
  match fs.lookup name with
  | none => some default
  | some v => read v

end Fields

def bool? : Value → Option Bool
  | .bool b => some b
  | _ => none

def text? : Value → Option String
  | .string s => s
  | _ => none

/-- A value that may be missing, which `null` says as well. -/
def optional {α : Type} (read : Value → Option α) : Value → Option (Option α)
  | .null => some none
  | v => (read v).map some

def list? {α : Type} (read : Value → Option α) : Value → Option (List α)
  | .array vs => vs.mapM read
  | _ => none

/-- A number of 64 bits without sign, taken from a float: the fraction is dropped, and what is
out of range becomes the nearest number that is not. -/
def unsigned64? : Value → Option Nat
  | .number text => (floatOf text).map fun x => x.toUInt64.toNat
  | _ => none

/-- The same for 32 bits. -/
def unsigned32? : Value → Option Nat
  | .number text => (floatOf text).map fun x => x.toUInt32.toNat
  | _ => none

/-- One of a set of tags: as a string, or as the first key of an object, of which all else is
passed over unread. -/
def tag? {α : Type} (ofName? : String → Option α) : Value → Option α
  | .string (some s) => ofName? s
  | .object ((some s, _) :: _) => ofName? s
  | _ => none

/-- Texts by name; of two with one name the last counts. -/
def texts? : Value → Option (List (String × String))
  | .object ms => ms.mapM fun (key, v) => do pure (← key, ← text? v)
  | _ => none

end MessageBroker.Json5
