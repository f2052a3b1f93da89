import MessageBroker.Header
/-!
# Comparing values

Numbers compare with numbers, an integer being read as a float when the other side is one.  Text
and truth values compare for equality only.  Any other pair, and any pair with a float that is not
a number, has no answer.
-/
namespace MessageBroker.Selector

inductive Comparison where
  | eq | ne | lt | le | gt | ge
deriving DecidableEq, Repr

/-- Equality and its negation, the comparisons that every type has. -/
def Comparison.isEquality : Comparison → Bool
  | .eq | .ne => true
  | _ => false

def Comparison.holds : Comparison → Ordering → Bool
  | .eq, o => o == .eq
  | .ne, o => o != .eq
  | .lt, o => o == .lt
  | .le, o => o != .gt
  | .gt, o => o == .gt
  | .ge, o => o != .lt

def floatOrder (l r : Float) : Option Ordering :=
  if l < r then some .lt
  else if l == r then some .eq
  else if r < l then some .gt
  else none

def floatOfInt (n : Int64) : Float := Float.ofInt n.toInt

def order (op : Comparison) : HeaderValue → HeaderValue → Option Ordering
  | .int l, .int r => some (compare l.toInt r.toInt)
  | .int l, .float r => floatOrder (floatOfInt l) r
  | .float l, .int r => floatOrder l (floatOfInt r)
  | .float l, .float r => floatOrder l r
  | .string l, .string r => if op.isEquality then some (compare l r) else none
  | .bool l, .bool r => if op.isEquality then some (compare l r) else none
  | _, _ => none

/-- The comparison of two operands, either of which may be unknown. -/
def compare? (op : Comparison) (l r : Option HeaderValue) : Option Bool := do
  let o ← order op (← l) (← r)
  pure (op.holds o)

/-- An operand as a truth value; anything else is unknown. -/
def truth : Option HeaderValue → Option Bool
  | some (.bool b) => some b
  | _ => none

end MessageBroker.Selector
