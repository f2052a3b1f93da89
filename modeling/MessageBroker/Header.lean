import MessageBroker.Decimal.Layout
/-!
# Header values

A message carries named values of four types.  A selector reads them by name.
-/
namespace MessageBroker

inductive HeaderValue where
  | bool (b : Bool)
  | int (n : Int64)
  | float (x : Float)
  | string (s : String)
deriving Inhabited, Repr

/-- Names and values; of two entries with one name the first counts. -/
abbrev Headers := List (String × HeaderValue)

def Headers.get? (headers : Headers) (name : String) : Option HeaderValue := headers.lookup name

/-- The value for a reader: text in single quotes, floats written out in full. -/
def HeaderValue.display : HeaderValue → String
  | .bool b => toString b
  | .int n => toString n.toInt
  | .float x => Decimal.plain.write x
  | .string s => "'" ++ s ++ "'"

end MessageBroker
