/-!
# Reading numbers

Runs of digits, and the float nearest to a decimal fraction with a power of ten.
-/
namespace MessageBroker.Decimal

def digitValue (c : Char) : Nat := c.toNat - '0'.toNat

/-- The number written by a run of digits. -/
def natOfDigits (ds : List Char) : Nat := ds.foldl (fun n c => n * 10 + digitValue c) 0

/-- The float nearest to `digits · 10^exponent`.  Past the range of floats the exponent no longer
matters, so it is not raised to. -/
def nearest (digits : Nat) (exponent : Int) : Float :=
  let reach := (Nat.toDigits 10 digits).length + exponent
  if digits = 0 ∨ reach < -330 then 0.0
  else if 320 < reach then Float.ofScientific 1 false 400
  else if exponent < 0 then Float.ofScientific digits true exponent.natAbs
  else Float.ofScientific digits false exponent.toNat

/-- The float written by digits before a point and digits after it. -/
def ofParts (whole fraction : List Char) (exponent : Int) : Float :=
  nearest (natOfDigits (whole ++ fraction)) (exponent - fraction.length)

/-- An optional sign, and the rest. -/
def takeSign : List Char → Bool × List Char
  | '-' :: r => (true, r)
  | '+' :: r => (false, r)
  | r => (false, r)

/-- The exponent part `e…` of a number, if the whole of `cs` is one. -/
def exponent? : List Char → Option Int
  | [] => some 0
  | c :: r =>
    if c == 'e' || c == 'E' then
      let (negative, ds) := takeSign r
      if !ds.isEmpty && ds.all Char.isDigit then
        some (if negative then -(natOfDigits ds : Int) else natOfDigits ds)
      else none
    else none

/-- Reads an unsigned decimal number with an optional point and exponent; a digit is required on
one side of the point. -/
def unsigned? (cs : List Char) : Option Float :=
  let whole := cs.takeWhile Char.isDigit
  let rest := cs.dropWhile Char.isDigit
  let fraction := match rest with | '.' :: r => r.takeWhile Char.isDigit | _ => []
  let rest := match rest with | '.' :: r => r.dropWhile Char.isDigit | r => r
  if whole.isEmpty && fraction.isEmpty then none
  else (exponent? rest).map (ofParts whole fraction)

/-- Reads the text of a float: a decimal number, or the names of infinity and of the undefined
value in any case, with an optional sign. -/
def float? (s : String) : Option Float :=
  let (negative, r) := takeSign s.toList
  let magnitude := match (String.ofList r).toLower with
    | "nan" => some (0.0 / 0.0)
    | "inf" | "infinity" => some (1.0 / 0.0)
    | _ => unsigned? r
  magnitude.map fun x => if negative then -x else x

/-- Reads a signed 64-bit integer. -/
def int64? (s : String) : Option Int64 :=
  let (negative, ds) := takeSign s.toList
  if !ds.isEmpty && ds.all Char.isDigit then
    let n : Int := if negative then -(natOfDigits ds : Int) else natOfDigits ds
    if Int64.minValue.toInt ≤ n ∧ n ≤ Int64.maxValue.toInt then some (Int64.ofInt n) else none
  else none

end MessageBroker.Decimal
