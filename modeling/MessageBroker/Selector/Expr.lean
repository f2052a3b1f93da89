import MessageBroker.Selector.Value
import MessageBroker.Selector.Like
/-!
# Selector expressions and what they evaluate to

Evaluation is three-valued: a missing header, an operand of the wrong type, and whatever depends on
one, are unknown.
-/
namespace MessageBroker.Selector

inductive Expr where
  | literal (value : HeaderValue)
  | null
  | identifier (name : String)
  | compare (left : Expr) (op : Comparison) (right : Expr)
  | and (left right : Expr)
  | or (left right : Expr)
  | not (operand : Expr)
  | isNull (operand : Expr) (negated : Bool)
  | within (operand : Expr) (values : List HeaderValue) (negated : Bool)
  | like (operand : Expr) (pattern : List Wildcard) (negated : Bool)
  | between (operand low high : Expr) (negated : Bool)
deriving Inhabited, Repr

/-- False wins over unknown, unknown over true. -/
def conj : Option Bool → Option Bool → Option Bool
  | some false, _ => some false
  | _, some false => some false
  | some true, some true => some true
  | _, _ => none

/-- True wins over unknown, unknown over false. -/
def disj : Option Bool → Option Bool → Option Bool
  | some true, _ => some true
  | _, some true => some true
  | some false, some false => some false
  | _, _ => none

def Expr.evaluate (headers : Headers) : Expr → Option HeaderValue
  | .literal value => some value
  | .null => none
  | .identifier name => headers.get? name
  | .compare l op r => (compare? op (l.evaluate headers) (r.evaluate headers)).map .bool
  | .and l r => (conj (truth (l.evaluate headers)) (truth (r.evaluate headers))).map .bool
  | .or l r => (disj (truth (l.evaluate headers)) (truth (r.evaluate headers))).map .bool
  | .not e => (truth (e.evaluate headers)).map fun b => .bool !b
  | .isNull e negated => some (.bool ((e.evaluate headers).isNone != negated))
  | .within e values negated =>
    (e.evaluate headers).map fun value =>
      .bool ((values.any fun v => compare? .eq (some value) (some v) == some true) != negated)
  | .like e pattern negated => match e.evaluate headers with
    | some (.string text) => some (.bool (likeMatches pattern text.toList != negated))
    | _ => none
  | .between e low high negated => do
    let value := e.evaluate headers
    let above ← compare? .ge value (low.evaluate headers)
    let below ← compare? .le value (high.evaluate headers)
    pure (.bool ((above && below) != negated))

/-- Only what is true, neither false nor unknown, is selected. -/
def Expr.selects (e : Expr) (headers : Headers) : Bool :=
  match e.evaluate headers with
  | some (.bool true) => true
  | _ => false

end MessageBroker.Selector
