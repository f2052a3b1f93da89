import MessageBroker.Selector.Expr
import MessageBroker.Selector.Token
/-!
# From tokens to an expression

One function per level of the grammar: operands, predicates, `NOT`, `AND`, `OR`.  The level of `OR`
comes back inside parentheses; how deep they nest is bounded by the number of tokens, and so is
the length of a chain of `AND`, of `OR`, and of a list of literals.
-/
namespace MessageBroker.Selector

/-- A value read from the front of the tokens, and the tokens after it. -/
abbrev Parsed (α : Type) := α × Tokens

abbrev Reader := Tokens → Except Error (Parsed Expr)

/-- The offset of the next token; `stop` at the end. -/
def place (stop : Nat) : Tokens → Nat
  | [] => stop
  | (offset, _) :: _ => offset

def missing {α : Type} (stop : Nat) (what : Expected) (ts : Tokens) : Except Error α :=
  .error ⟨place stop ts, .expected what⟩

def literal (v : HeaderValue) (ts : Tokens) : Except Error (Parsed Expr) := .ok (.literal v, ts)

/-- The closing parenthesis, or what is missing. -/
def close (stop : Nat) (what : Expected) : Tokens → Except Error Tokens
  | (_, .closeParen) :: ts => .ok ts
  | ts => missing stop what ts

/-- An operand; `inner` reads what stands in parentheses. -/
def operand (stop : Nat) (inner : Reader) : Reader
  | (_, .openParen) :: ts => do
    let (e, ts) ← inner ts
    let ts ← close stop .closeParen ts
    pure (e, ts)
  | (_, .identifier name) :: ts => .ok (.identifier name, ts)
  | (_, .literal v) :: ts => literal v ts
  | (_, .keyword .null) :: ts => .ok (.null, ts)
  | (_, .minus) :: (_, .literal (.int n)) :: ts => literal (.int (-n)) ts
  | (_, .minus) :: (_, .literal (.float x)) :: ts => literal (.float (-x)) ts
  | (offset, .minus) :: _ => .error ⟨offset, .expected .number⟩
  | ts => missing stop .operand ts

/-- An operand that is a literal, as in a list. -/
def literalOperand (stop : Nat) (inner : Reader) (ts : Tokens) :
    Except Error (Parsed HeaderValue) := do
  match ← operand stop inner ts with
  | (.literal v, ts) => pure (v, ts)
  | (_, ts) => missing stop .literal ts

/-- The literals after the first of a list, each after a comma. -/
def moreLiterals (stop : Nat) (inner : Reader) :
    Nat → Tokens → Except Error (Parsed (List HeaderValue))
  | fuel + 1, (_, .comma) :: ts => do
    let (v, ts) ← literalOperand stop inner ts
    let (vs, ts) ← moreLiterals stop inner fuel ts
    pure (v :: vs, ts)
  | _, ts => .ok ([], ts)

def quotedText (stop : Nat) (what : Expected) : Tokens → Except Error (Parsed String)
  | (_, .literal (.string s)) :: ts => .ok (s, ts)
  | ts => missing stop what ts

/-- The escape character after `ESCAPE`, if the word stands there. -/
def escapeCharacter (stop : Nat) : Tokens → Except Error (Parsed (Option Char))
  | (_, .keyword .escape) :: ts => do
    let (s, rest) ← quotedText stop .escapeCharacter ts
    match s.toList with
    | [c] => pure (some c, rest)
    | _ => .error ⟨place stop ts, .longEscape⟩
  | ts => .ok (none, ts)

/-- The predicates that `NOT` may stand before: `IN`, `LIKE` and `BETWEEN`. -/
def negatable (stop : Nat) (inner : Reader) (e : Expr) (negated : Bool) : Reader
  | (_, .keyword .within) :: ts => match ts with
    | (_, .openParen) :: ts => do
      let (v, ts) ← literalOperand stop inner ts
      let (vs, ts) ← moreLiterals stop inner ts.length ts
      let ts ← close stop .closeList ts
      pure (.within e (v :: vs) negated, ts)
    | ts => missing stop .openList ts
  | (_, .keyword .like) :: ts => do
    let (pattern, ts) ← quotedText stop .pattern ts
    let (escape, ts) ← escapeCharacter stop ts
    pure (.like e (compileLike escape pattern.toList) negated, ts)
  | (_, .keyword .between) :: ts => do
    match ← operand stop inner ts with
    | (low, (_, .keyword .and) :: ts) =>
      let (high, ts) ← operand stop inner ts
      pure (.between e low high negated, ts)
    | (_, ts) => missing stop .betweenAnd ts
  | ts => missing stop .predicate ts

/-- An operand, alone or with what is said about it. -/
def predicate (stop : Nat) (inner : Reader) (ts : Tokens) :
    Except Error (Parsed Expr) := do
  let (e, ts) ← operand stop inner ts
  match ts with
  | (_, .compare op) :: ts =>
    let (r, ts) ← operand stop inner ts
    pure (.compare e op r, ts)
  | (_, .keyword .is) :: ts => match ts with
    | (_, .keyword .null) :: ts => pure (.isNull e false, ts)
    | (_, .keyword .not) :: (_, .keyword .null) :: ts => pure (.isNull e true, ts)
    | (_, .keyword .not) :: ts => missing stop .null ts
    | ts => missing stop .null ts
  | (_, .keyword .not) :: ts => negatable stop inner e true ts
  | (_, .keyword .within) :: _ | (_, .keyword .like) :: _ | (_, .keyword .between) :: _ =>
    negatable stop inner e false ts
  | ts => pure (e, ts)

def negation (stop : Nat) (inner : Reader) : Reader
  | (_, .keyword .not) :: ts => do
    let (e, ts) ← negation stop inner ts
    pure (.not e, ts)
  | ts => predicate stop inner ts

/-- Goes on from `e` with every further operand of `AND`, to the left. -/
def moreAnd (stop : Nat) (inner : Reader) : Nat → Expr → Reader
  | fuel + 1, e, (_, .keyword .and) :: ts => do
    let (r, ts) ← negation stop inner ts
    moreAnd stop inner fuel (.and e r) ts
  | _, e, ts => .ok (e, ts)

def conjunction (stop : Nat) (inner : Reader) (ts : Tokens) :
    Except Error (Parsed Expr) := do
  let (e, ts) ← negation stop inner ts
  moreAnd stop inner ts.length e ts

/-- Goes on from `e` with every further operand of `OR`, to the left. -/
def moreOr (stop : Nat) (inner : Reader) : Nat → Expr → Reader
  | fuel + 1, e, (_, .keyword .or) :: ts => do
    let (r, ts) ← conjunction stop inner ts
    moreOr stop inner fuel (.or e r) ts
  | _, e, ts => .ok (e, ts)

def disjunction (stop : Nat) (inner : Reader) (ts : Tokens) :
    Except Error (Parsed Expr) := do
  let (e, ts) ← conjunction stop inner ts
  moreOr stop inner ts.length e ts

/-- An expression with parentheses at most `depth` deep. -/
def nested (stop : Nat) : Nat → Reader
  | 0, ts => missing stop .operand ts
  | depth + 1, ts => disjunction stop (nested stop depth) ts

/-- The expression that all the tokens make up. -/
def ofTokens (stop : Nat) (ts : Tokens) : Except Error Expr := do
  match ← nested stop (ts.length + 1) ts with
  | (e, []) => pure e
  | (_, (offset, token) :: _) => .error ⟨offset, .unexpectedToken token⟩

end MessageBroker.Selector
