import MessageBroker.Json5.Text
import MessageBroker.Json5.Value
/-!
# Reading JSON5

Readers take what they read off the front of the text.  Blanks and comments may stand between any
two of them, and a comma may stand after the last item of an array or object.
-/
namespace MessageBroker.Json5

def isBlank (c : Char) : Bool :=
  endsLine c || c == '\t' || c == '\x0b' || c == '\x0c' || c == '\uFEFF'
    || Text.inside spaceBounds c.toNat
where
  /-- Where the separators of words begin and end. -/
  spaceBounds : List Nat :=
    [0x20, 0x21, 0xA0, 0xA1, 0x1680, 0x1681, 0x2000, 0x200B, 0x202F, 0x2030, 0x205F, 0x2060,
     0x3000, 0x3001]

/-- The text after the end of a comment in slashes and stars. -/
def afterComment : List Char → Option (List Char)
  | [] => none
  | '*' :: '/' :: cs => some cs
  | _ :: cs => afterComment cs

/-- Drops blanks and comments. -/
def skip : Nat → List Char → List Char
  | 0, cs => cs
  | fuel + 1, '/' :: '/' :: cs => skip fuel (cs.dropWhile fun c => !endsLine c)
  | fuel + 1, '/' :: '*' :: cs => match afterComment cs with
    | some cs => skip fuel cs
    | none => '/' :: '*' :: cs
  | fuel + 1, c :: cs => if isBlank c then skip fuel cs else c :: cs
  | _, [] => []

def skipBlank (cs : List Char) : List Char := skip (cs.length + 1) cs

/-- Takes a fixed text off the front. -/
def takeWord (w : String) (cs : List Char) : Option (List Char) :=
  if w.toList.isPrefixOf cs then some (cs.drop w.length) else none

/-! ## Numbers -/

/-- A hexadecimal number without sign: how long it is. -/
def hexLength (cs : List Char) : Option Nat := do
  let ds := (← hexPart cs).takeWhile fun c => (Text.hexValue? c).isSome
  if ds.isEmpty then none else some (2 + ds.length)

/-- How long the exponent at the front is; zero if there is none. -/
def exponentLength : List Char → Nat
  | c :: cs =>
    if c == 'e' || c == 'E' then
      let signLength := match cs with
        | '+' :: _ | '-' :: _ => 1
        | _ => 0
      let ds := (cs.drop signLength).takeWhile Char.isDigit
      if ds.isEmpty then 0 else 1 + signLength + ds.length
    else 0
  | [] => 0

/-- How long the whole part at the front is: a zero, or digits that do not begin with one. -/
def wholeLength (cs : List Char) : Nat :=
  match cs with
  | '0' :: _ => 1
  | cs => (cs.takeWhile Char.isDigit).length

/-- A decimal number without sign: how long it is. -/
def decimalLength (cs : List Char) : Option Nat :=
  let whole := wholeLength cs
  match cs.drop whole with
  | '.' :: r =>
    let ds := r.takeWhile Char.isDigit
    if whole = 0 && ds.isEmpty then none
    else some (whole + 1 + ds.length + exponentLength (r.drop ds.length))
  | r => if whole = 0 then none else some (whole + exponentLength r)

def unsignedLength (cs : List Char) : Option Nat :=
  hexLength cs <|> decimalLength cs
    <|> (takeWord "Infinity" cs).map (fun _ => 8) <|> (takeWord "NaN" cs).map (fun _ => 3)

/-- A number at the front of the text, as it is written. -/
def number? (cs : List Char) : Option (List Char × List Char) := do
  let signLength := match cs with
    | '+' :: _ | '-' :: _ => 1
    | _ => 0
  let n := signLength + (← unsignedLength (cs.drop signLength))
  pure (cs.take n, cs.drop n)

/-! ## Values -/

/-- The values that hold no others. -/
def scalar? (cs : List Char) : Option (Value × List Char) :=
  (takeWord "null" cs).map (Value.null, ·)
    <|> (takeWord "true" cs).map (Value.bool true, ·)
    <|> (takeWord "false" cs).map (Value.bool false, ·)
    <|> (string? cs).map (fun (ps, cs) => (Value.string (textOf ps), cs))
    <|> (number? cs).map (fun (text, cs) => (Value.number text, cs))

mutual

/-- A value at the front of the text; fewer values are nested in it than the text is long. -/
def value? : Nat → List Char → Option (Value × List Char)
  | 0, _ => none
  | fuel + 1, cs => match cs with
    | '\x7b' :: cs => match skipBlank cs with
      | '\x7d' :: cs => some (.object [], cs)
      | cs => (members? fuel cs).map fun (ms, cs) => (.object ms, cs)
    | '[' :: cs => match skipBlank cs with
      | ']' :: cs => some (.array [], cs)
      | cs => (items? fuel cs).map fun (vs, cs) => (.array vs, cs)
    | cs => scalar? cs

/-- The items of an array from the next one on, and what follows its end. -/
def items? : Nat → List Char → Option (List Value × List Char)
  | 0, _ => none
  | fuel + 1, cs => do
    let (v, cs) ← value? fuel cs
    match skipBlank cs with
    | ']' :: cs => pure ([v], cs)
    | ',' :: cs => match skipBlank cs with
      | ']' :: cs => pure ([v], cs)
      | cs =>
        let (vs, cs) ← items? fuel cs
        pure (v :: vs, cs)
    | _ => none

/-- The members of an object from the next one on, and what follows its end. -/
def members? : Nat → List Char → Option (List (Option String × Value) × List Char)
  | 0, _ => none
  | fuel + 1, cs => do
    let (key, cs) ← key? cs
    match skipBlank cs with
    | ':' :: cs =>
      let (v, cs) ← value? fuel (skipBlank cs)
      let m := (textOf key, v)
      match skipBlank cs with
      | '\x7d' :: cs => pure ([m], cs)
      | ',' :: cs => match skipBlank cs with
        | '\x7d' :: cs => pure ([m], cs)
        | cs =>
          let (ms, cs) ← members? fuel cs
          pure (m :: ms, cs)
      | _ => none
    | _ => none

end

/-- The document that a text is, if it is one. -/
def parse (text : String) : Option Value := do
  let cs := text.toList
  let (v, rest) ← value? (2 * cs.length + 2) (skipBlank cs)
  if (skipBlank rest).isEmpty then some v else none

end MessageBroker.Json5
