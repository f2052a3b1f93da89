import MessageBroker.Selector.Value
import MessageBroker.Decimal.Read
import MessageBroker.Text.Alphabetic
import MessageBroker.Text.Numeric
import MessageBroker.Text.Blank
import MessageBroker.Text.Quoted
/-!
# Tokens of the selector language

A selector's text is cut into tokens, each with the byte offset of its first character.  Words are
keywords in any case of ASCII letters and identifiers otherwise; text stands in single quotes, and
a quote inside it is doubled; a run of digits and points is a number.
-/
namespace MessageBroker.Selector

inductive Keyword where
  | null | and | or | not | is | within | like | escape | between
deriving DecidableEq, Repr

inductive Token where
  | identifier (name : String)
  | literal (value : HeaderValue)
  | keyword (word : Keyword)
  | minus
  | openParen
  | closeParen
  | comma
  | compare (op : Comparison)
deriving Repr

/-- What the grammar asks for at a place where something else stands. -/
inductive Expected where
  | null | openList | closeList | pattern | escapeCharacter | betweenAnd | predicate | closeParen
  | number | operand | literal
deriving DecidableEq, Repr

inductive Fault where
  | unterminatedString
  | malformedNumber
  | integerOutOfRange
  | unexpectedCharacter (c : Char)
  | expected (what : Expected)
  | longEscape
  | unexpectedToken (token : Token)
deriving Repr

/-- A text that is no selector, and the byte offset at which that shows. -/
structure Error where
  offset : Nat
  fault : Fault
deriving Repr

def Comparison.name : Comparison → String
  | .eq => "Eq" | .ne => "Ne" | .lt => "Lt" | .le => "Le" | .gt => "Gt" | .ge => "Ge"

def Keyword.name : Keyword → String
  | .null => "Null" | .and => "And" | .or => "Or" | .not => "Not" | .is => "Is" | .within => "In"
  | .like => "Like" | .escape => "Escape" | .between => "Between"

/-- A literal as it is shown in a diagnostic, with its type. -/
def describeLiteral : HeaderValue → String
  | .bool b => "Bool(" ++ toString b ++ ")"
  | .int n => "Int(" ++ toString n.toInt ++ ")"
  | .float x => "Float(" ++ Decimal.marked.write x ++ ")"
  | .string s => "String(" ++ Text.quoted s ++ ")"

def Token.describe : Token → String
  | .identifier name => "Identifier(" ++ Text.quoted name ++ ")"
  | .literal value => "Literal(" ++ describeLiteral value ++ ")"
  | .keyword word => word.name
  | .minus => "Minus"
  | .openParen => "OpenParen"
  | .closeParen => "CloseParen"
  | .comma => "Comma"
  | .compare op => "Compare(" ++ op.name ++ ")"

def Expected.text : Expected → String
  | .null => "NULL"
  | .openList => "'(' after IN"
  | .closeList => "')' closing IN list"
  | .pattern => "LIKE pattern"
  | .escapeCharacter => "ESCAPE character"
  | .betweenAnd => "AND in BETWEEN"
  | .predicate => "IN, LIKE or BETWEEN"
  | .closeParen => "')'"
  | .number => "number after '-'"
  | .operand => "operand"
  | .literal => "literal"

def Fault.reason : Fault → String
  | .unterminatedString => "unterminated string literal"
  | .malformedNumber => "malformed number"
  | .integerOutOfRange => "integer out of range"
  | .unexpectedCharacter c => "unexpected character '" ++ c.toString ++ "'"
  | .expected what => "expected " ++ what.text
  | .longEscape => "ESCAPE must be a single character"
  | .unexpectedToken token => "unexpected token " ++ token.describe

def Error.reason (e : Error) : String := e.fault.reason

def Error.message (e : Error) : String :=
  "invalid selector at offset " ++ toString e.offset ++ ": " ++ e.reason

/-! ## Words, numbers and quoted text -/

/-- Characters with their byte offsets. -/
abbrev Source := List (Nat × Char)

def locate (offset : Nat) : List Char → Source
  | [] => []
  | c :: cs => (offset, c) :: locate (offset + c.utf8Size) cs

def beginsWord (c : Char) : Bool := Text.isAlphabetic c || c == '_' || c == '$'

def continuesWord (c : Char) : Bool :=
  Text.isAlphabetic c || Text.isNumeric c || c == '_' || c == '$' || c == '.'

def keyword? (word : String) : Option Token :=
  match word.toUpper with
  | "AND" => some (.keyword .and)
  | "OR" => some (.keyword .or)
  | "NOT" => some (.keyword .not)
  | "IS" => some (.keyword .is)
  | "IN" => some (.keyword .within)
  | "LIKE" => some (.keyword .like)
  | "ESCAPE" => some (.keyword .escape)
  | "BETWEEN" => some (.keyword .between)
  | "NULL" => some (.keyword .null)
  | "TRUE" => some (.literal (.bool true))
  | "FALSE" => some (.literal (.bool false))
  | _ => none

def ofWord (word : String) : Token := (keyword? word).getD (.identifier word)

/-- A number has one point at most; without a point it is an integer of 64 bits. -/
def ofNumber (run : List Char) : Except Fault Token :=
  if run.contains '.' then
    match Decimal.unsigned? run with
    | some x => .ok (.literal (.float x))
    | none => .error .malformedNumber
  else
    let n := Decimal.natOfDigits run
    if n < Int64.size / 2 then .ok (.literal (.int (Int64.ofNat n))) else .error .integerOutOfRange

/-- The text up to the closing quote, and what follows it. -/
def closeString : Source → Option (List Char × Source)
  | [] => none
  | (_, '\'') :: (_, '\'') :: r => (closeString r).map fun (s, r) => ('\'' :: s, r)
  | (_, '\'') :: r => some ([], r)
  | (_, c) :: r => (closeString r).map fun (s, r) => (c :: s, r)

/-- The characters at the front that have a property, and the rest. -/
def run (p : Char → Bool) (s : Source) : List Char × Source :=
  ((s.takeWhile fun c => p c.2).map Prod.snd, s.dropWhile fun c => p c.2)

/-- The token that begins with `c`. -/
def lexeme (c : Char) (rest : Source) : Except Fault (Token × Source) :=
  match c with
  | '(' => .ok (.openParen, rest)
  | ')' => .ok (.closeParen, rest)
  | ',' => .ok (.comma, rest)
  | '-' => .ok (.minus, rest)
  | '=' => .ok (.compare .eq, rest)
  | '<' => match rest with
    | (_, '>') :: r => .ok (.compare .ne, r)
    | (_, '=') :: r => .ok (.compare .le, r)
    | r => .ok (.compare .lt, r)
  | '>' => match rest with
    | (_, '=') :: r => .ok (.compare .ge, r)
    | r => .ok (.compare .gt, r)
  | '\'' => match closeString rest with
    | some (s, r) => .ok (.literal (.string (String.ofList s)), r)
    | none => .error .unterminatedString
  | c =>
    if c.isDigit then
      let (digits, r) := run (fun c => c.isDigit || c == '.') rest
      (ofNumber (c :: digits)).map fun t => (t, r)
    else if beginsWord c then
      let (word, r) := run continuesWord rest
      .ok (ofWord (String.ofList (c :: word)), r)
    else .error (.unexpectedCharacter c)

abbrev Tokens := List (Nat × Token)

/-- Every step takes at least one character, so the number of characters is fuel enough. -/
def tokensWithin : Nat → Source → Except Error Tokens
  | 0, _ => .ok []
  | _, [] => .ok []
  | fuel + 1, (offset, c) :: rest =>
    if Text.isBlank c then tokensWithin fuel rest
    else match lexeme c rest with
      | .error fault => .error ⟨offset, fault⟩
      | .ok (token, rest) => do
        let tokens ← tokensWithin fuel rest
        pure ((offset, token) :: tokens)

def tokens (text : String) : Except Error Tokens :=
  let cs := text.toList
  tokensWithin cs.length (locate 0 cs)

end MessageBroker.Selector
