/-!
# Hexadecimal

Digits in lower case; bytes are written as two digits each.
-/
namespace MessageBroker.Text

/-- The digits of `n`, without leading zeros. -/
def hexDigits (n : Nat) : String := String.ofList (Nat.toDigits 16 n)

def hexValue? (c : Char) : Option Nat :=
  if c.isDigit then some (c.toNat - '0'.toNat)
  else if 'a' ≤ c ∧ c ≤ 'f' then some (c.toNat - 'a'.toNat + 10)
  else if 'A' ≤ c ∧ c ≤ 'F' then some (c.toNat - 'A'.toNat + 10)
  else none

/-- The number written by hexadecimal digits, if all of them are. -/
def natOfHex? (ds : List Char) : Option Nat :=
  ds.foldlM (fun n c => (hexValue? c).map (n * 16 + ·)) 0

def hexOfBytes (bytes : List UInt8) : String :=
  String.join (bytes.map fun b =>
    String.ofList [Nat.digitChar (b.toNat / 16), Nat.digitChar (b.toNat % 16)])

/-- Reads pairs of digits; other pairs, and an odd digit at the end, are passed over. -/
def bytesOfHex : List Char → List UInt8
  | a :: b :: r => match natOfHex? [a, b] with
    | some n => n.toUInt8 :: bytesOfHex r
    | none => bytesOfHex r
  | _ => []

def bytesOf (s : String) : List UInt8 := s.toUTF8.toList

end MessageBroker.Text
