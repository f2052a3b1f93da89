import MessageBroker.Text.Hex
import MessageBroker.Text.Identifier
/-!
# Strings and names in JSON5

A string stands in quotes of either kind; a name needs none.  In both a code unit may be given by
four hexadecimal digits, and two units that make up a pair stand for one character.
-/
namespace MessageBroker.Json5

/-- A character, or a code unit of sixteen bits. -/
inductive Piece where
  | char (c : Char)
  | unit (n : Nat)
deriving Repr

def isHighHalf (n : Nat) : Bool := 0xD800 ≤ n && n < 0xDC00

def isLowHalf (n : Nat) : Bool := 0xDC00 ≤ n && n < 0xE000

/-- The code point that a pair stands for: the ten low bits of each half side by side, in the planes
with bit 16 set. -/
def joinHalves (high low : Nat) : Nat := 0x10000 ||| (high - 0xD800) <<< 10 ||| (low - 0xDC00)

/-- Joins halves of pairs.  Half a pair alone is no character. -/
def joinPieces : List Piece → Option (List Char)
  | [] => some []
  | .char c :: ps => (joinPieces ps).map (c :: ·)
  | .unit h :: .unit l :: ps =>
    if isHighHalf h then
      if isLowHalf l then
        (joinPieces ps).map (Char.ofNat (joinHalves h l) :: ·)
      else none
    else if isLowHalf h then none
    else (joinPieces (.unit l :: ps)).map (Char.ofNat h :: ·)
  | .unit h :: ps =>
    if isHighHalf h || isLowHalf h then none else (joinPieces ps).map (Char.ofNat h :: ·)

def textOf (ps : List Piece) : Option String := (joinPieces ps).map String.ofList

/-- Line feed, carriage return, and the separators of lines and paragraphs. -/
def endsLine (c : Char) : Bool := c == '\n' || c == '\r' || c == '\u2028' || c == '\u2029'

/-- The first `n` characters as a hexadecimal number, and the rest. -/
def takeHex (n : Nat) (cs : List Char) : Option (Nat × List Char) :=
  if cs.length < n then none else (Text.natOfHex? (cs.take n)).map fun x => (x, cs.drop n)

/-- The character that a letter after a backslash stands for. -/
def escaped (c : Char) : Char :=
  match c with
  | 'b' => '\x08'
  | 'f' => '\x0c'
  | 'n' => '\n'
  | 'r' => '\r'
  | 't' => '\t'
  | 'v' => '\x0b'
  | c => c

/-- What stands after a backslash in a string: nothing if the line goes on, or one piece. -/
def escapeSequence : List Char → Option (List Piece × List Char)
  | [] => none
  | '\r' :: '\n' :: cs => some ([], cs)
  | '0' :: cs => some ([.char '\x00'], cs)
  | 'x' :: cs => (takeHex 2 cs).map fun (n, cs) => ([.char (Char.ofNat n)], cs)
  | 'u' :: cs => (takeHex 4 cs).map fun (n, cs) => ([.unit n], cs)
  | c :: cs =>
    if endsLine c then some ([], cs)
    else if c.isDigit then none
    else some ([.char (escaped c)], cs)

/-- The pieces of a string up to its closing quote, and what follows. -/
def stringRest (quote : Char) : Nat → List Char → Option (List Piece × List Char)
  | 0, _ => none
  | _ + 1, [] => none
  | fuel + 1, c :: cs =>
    if c = quote then some ([], cs)
    else if c = '\\' then do
      let (ps, cs) ← escapeSequence cs
      let (qs, cs) ← stringRest quote fuel cs
      pure (ps ++ qs, cs)
    else if endsLine c then none
    else do
      let (qs, cs) ← stringRest quote fuel cs
      pure (.char c :: qs, cs)

/-- A string at the front of the text. -/
def string? : List Char → Option (List Piece × List Char)
  | '"' :: cs => stringRest '"' (cs.length + 1) cs
  | '\'' :: cs => stringRest '\'' (cs.length + 1) cs
  | _ => none

/-- One piece of a name, if `p` allows its character; an escape is always allowed. -/
def namePiece (p : Char → Bool) : List Char → Option (Piece × List Char)
  | '\\' :: 'u' :: cs => (takeHex 4 cs).map fun (n, cs) => (.unit n, cs)
  | c :: cs => if p c then some (.char c, cs) else none
  | [] => none

/-- The pieces of a name after the first. -/
def nameRest : Nat → List Char → List Piece × List Char
  | 0, cs => ([], cs)
  | fuel + 1, cs => match namePiece Text.continuesName cs with
    | none => ([], cs)
    | some (p, cs) =>
      let (ps, cs) := nameRest fuel cs
      (p :: ps, cs)

/-- A name at the front of the text. -/
def name? (cs : List Char) : Option (List Piece × List Char) := do
  let (p, cs) ← namePiece Text.beginsName cs
  let (ps, cs) := nameRest cs.length cs
  pure (p :: ps, cs)

/-- The key of a member: a name or a string. -/
def key? (cs : List Char) : Option (List Piece × List Char) := name? cs <|> string? cs

end MessageBroker.Json5
