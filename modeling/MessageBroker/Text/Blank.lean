import MessageBroker.Text.Ranges
/-!
# Blanks

The property White_Space, and what it takes to be empty but for blanks.
-/
namespace MessageBroker.Text

/-- Where the property White_Space begins and ends. -/
def blankBounds : List Nat :=
  [0x9, 0xE, 0x20, 0x21, 0x85, 0x86, 0xA0, 0xA1, 0x1680, 0x1681, 0x2000, 0x200B, 0x2028, 0x202A,
   0x202F, 0x2030, 0x205F, 0x2060, 0x3000, 0x3001]

def isBlank (c : Char) : Bool := inside blankBounds c.toNat

/-- Nothing but blanks. -/
def isAllBlank (s : String) : Bool := s.toList.all isBlank

end MessageBroker.Text
