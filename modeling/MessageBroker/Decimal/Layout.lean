import MessageBroker.Decimal.Shortest
/-!
# Writing floats

Two layouts of the shortest decimal.  `plain` is always positional and drops the point of a whole
number; `marked` keeps the text recognisable as a float, by `.0` or by an exponent for very large
and very small numbers.
-/
namespace MessageBroker.Decimal

/-- The choices a layout makes. -/
structure Layout where
  /-- What follows the digits of a whole number. -/
  wholeMark : String
  /-- Whether a number with the decimal point at this place is written out in full. -/
  positional : Int → Bool

def plain : Layout := ⟨"", fun _ => true⟩

/-- Written out in full from `10^-4` up to, and without, `10^16`. -/
def marked : Layout := ⟨".0", fun p => -3 ≤ p && p ≤ 16⟩

private def zeros (n : Nat) : String := String.ofList (List.replicate n '0')

/-- `ds` with the point after the first `p` places. -/
def positionalText (ds : List Char) (p : Int) (wholeMark : String) : String :=
  if p ≤ 0 then "0." ++ zeros (-p).toNat ++ String.ofList ds
  else
    let p := p.toNat
    if ds.length ≤ p then String.ofList ds ++ zeros (p - ds.length) ++ wholeMark
    else String.ofList (ds.take p) ++ "." ++ String.ofList (ds.drop p)

/-- One digit before the point, and the power of ten after `e`. -/
def scientificText (ds : List Char) (p : Int) : String :=
  let point := match ds with
    | d :: r@(_ :: _) => String.ofList (d :: '.' :: r)
    | ds => String.ofList ds
  point ++ "e" ++ toString (p - 1)

def Layout.write (layout : Layout) (x : Float) : String :=
  let sign (negative : Bool) : String := if negative then "-" else ""
  match bitsOf x with
  | .nan => "NaN"
  | .infinite negative => sign negative ++ "inf"
  | .zero negative => sign negative ++ "0" ++ layout.wholeMark
  | .finite negative d =>
    let s := d.shortest
    let ds := Nat.toDigits 10 s.digits
    let p := ds.length + s.exponent
    sign negative ++
      if layout.positional p then positionalText ds p layout.wholeMark else scientificText ds p

end MessageBroker.Decimal
