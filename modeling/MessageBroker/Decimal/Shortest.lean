/-!
# The shortest decimal that reads back

A finite float is `m · 2^q`, and the reals that round to it form an interval around it, its ends
included exactly when `m` is even.  `shortest` looks for a decimal in that interval on grids of
one, two, … seventeen digits: the first grid with a hit wins, and of two hits the nearer one, the
upper one when both are equally near.  Everything is compared in exact natural arithmetic.
-/
namespace MessageBroker.Decimal

/-- The value `digits · 10^exponent`. -/
structure Scaled where
  digits : Nat
  exponent : Int
deriving DecidableEq, Repr

/-- How many decimal digits `n` has. -/
def digitCount (n : Nat) : Nat := (Nat.toDigits 10 n).length

/-- A positive binary number `m · 2^q`, with the distance to the number below it in quarters of
`2^q`: two half steps, or one where the numbers below are twice as dense. -/
structure Dyadic where
  m : Nat
  q : Int
  below : Nat
deriving Repr

/-- The position of the decimal point: `x` lies in `[10^(p-1), 10^p)`. -/
def Dyadic.magnitude (x : Dyadic) : Int :=
  let num := x.m * Nat.pow 2 x.q.toNat
  let den := Nat.pow 2 (-x.q).toNat
  if den ≤ num then digitCount (num / den)
  else 1 - (digitCount ((den + num - 1) / num - 1) : Int)

/-- The hit on the grid of `n` digits, if there is one. -/
def Dyadic.onGrid (x : Dyadic) (n : Nat) : Option Scaled :=
  let e := x.magnitude - n
  let up := Nat.pow 2 (x.q - 2).toNat * Nat.pow 10 (-e).toNat
  let down := Nat.pow 2 (2 - x.q).toNat * Nat.pow 10 e.toNat
  let value := 4 * x.m * up
  let low := (4 * x.m - x.below) * up
  let high := (4 * x.m + 2) * up
  let within (d : Nat) : Bool :=
    if x.m % 2 = 0 then low ≤ d * down && d * down ≤ high
    else low < d * down && d * down < high
  let f := value / down
  let pick (d : Nat) : Option Scaled := some (if d = Nat.pow 10 n then ⟨1, e + n⟩ else ⟨d, e⟩)
  if within f && (!within (f + 1) || 2 * (value - f * down) < down) then pick f
  else if within (f + 1) then pick (f + 1)
  else none

def Dyadic.shortest (x : Dyadic) : Scaled :=
  ((List.range 17).findSome? fun n => x.onGrid (n + 1)).getD ⟨0, 0⟩

/-- What the bits of a float stand for. -/
inductive Bits where
  | nan
  | infinite (negative : Bool)
  | zero (negative : Bool)
  | finite (negative : Bool) (magnitude : Dyadic)

def bitsOf (x : Float) : Bits :=
  let b : Nat := x.toBits.toNat
  let negative : Bool := b >>> 63 = 1
  let exponent : Nat := (b >>> 52) % (1 <<< 11)
  let fraction := b % (1 <<< 52)
  if exponent = 2047 then if fraction = 0 then .infinite negative else .nan
  else if exponent = 0 then
    if fraction = 0 then .zero negative else .finite negative ⟨fraction, -1074, 2⟩
  else
    let below := if fraction = 0 ∧ exponent ≠ 1 then 1 else 2
    .finite negative ⟨(1 <<< 52) + fraction, (exponent : Int) - 1075, below⟩

end MessageBroker.Decimal
