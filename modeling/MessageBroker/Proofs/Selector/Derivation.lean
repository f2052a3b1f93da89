import MessageBroker.Selector.Grammar
/-!
# The grammar of selectors

    disjunction ::= conjunction {OR conjunction}
    conjunction ::= negation {AND negation}
    negation    ::= NOT negation | predicate
    predicate   ::= operand | operand compare operand | operand IS [NOT] NULL
                  | operand [NOT] IN '(' literal {',' literal} ')'
                  | operand [NOT] LIKE string [ESCAPE string of one character]
                  | operand [NOT] BETWEEN operand AND operand
    operand     ::= '(' disjunction ')' | identifier | value | NULL | '-' number
    literal     ::= value | '-' number | '(' literal ')'

A `Derivation` has one constructor for each alternative.  It spells a sequence of tokens and means an expression, in
which chains of `AND` and of `OR` associate to the left.  No two derivations spell the same (`Derivation.unique`), although
`AND` also stands in `BETWEEN`, and `NOT` before the words of three predicates.
-/
namespace MessageBroker.Selector

/-- What stands between the parts of a chain. -/
inductive Joint where
  | or | and | comma
deriving DecidableEq

inductive Symbol where
  | disjunction | conjunction | negation | predicate | operand | literal
  /-- The parts of a chain after its first one, each after a joint. -/
  | further (joint : Joint)
deriving DecidableEq

/-- What a chain is made of. -/
def Joint.part : Joint → Symbol
  | .or => .conjunction
  | .and => .negation
  | .comma => .literal

def Joint.token : Joint → Token
  | .or => .keyword .or
  | .and => .keyword .and
  | .comma => .comma

inductive Number where
  | int (n : Int64)
  | float (x : Float)

namespace Number

def value : Number → HeaderValue
  | int n => .int n
  | float x => .float x

def negated : Number → HeaderValue
  | int n => .int (-n)
  | float x => .float (-x)

theorem value_inj {n n' : Number} : n.value = n'.value ↔ n = n' := by
  cases n <;> cases n' <;> simp [value]

end Number

/-- **A derivation** from a symbol of the grammar. -/
inductive Derivation : Symbol → Type where
  | disjunction (first : Derivation .conjunction) (more : Derivation (.further .or)) : Derivation .disjunction
  | conjunction (first : Derivation .negation) (more : Derivation (.further .and)) : Derivation .conjunction
  | not (d : Derivation .negation) : Derivation .negation
  | predicate (d : Derivation .predicate) : Derivation .negation
  | operand (d : Derivation .operand) : Derivation .predicate
  | compare (left : Derivation .operand) (op : Comparison) (right : Derivation .operand) : Derivation .predicate
  | isNull (d : Derivation .operand) (negated : Bool) : Derivation .predicate
  | within (d : Derivation .operand) (negated : Bool) (first : Derivation .literal)
      (more : Derivation (.further .comma)) : Derivation .predicate
  | like (d : Derivation .operand) (negated : Bool) (pattern : String) (escape : Option Char) : Derivation .predicate
  | between (d : Derivation .operand) (negated : Bool) (low high : Derivation .operand) : Derivation .predicate
  | nested (d : Derivation .disjunction) : Derivation .operand
  | identifier (name : String) : Derivation .operand
  | value (v : HeaderValue) : Derivation .operand
  | null : Derivation .operand
  | minus (n : Number) : Derivation .operand
  | literal (v : HeaderValue) : Derivation .literal
  | minusLiteral (n : Number) : Derivation .literal
  | nestedLiteral (d : Derivation .literal) : Derivation .literal
  | done {joint : Joint} : Derivation (.further joint)
  | next {joint : Joint} (d : Derivation joint.part) (more : Derivation (.further joint)) :
      Derivation (.further joint)

/-- A word that may be left out. -/
def optional (w : Keyword) (present : Bool) : List Token := if present then [.keyword w] else []

def escapeClause : Option Char → List Token
  | none => []
  | some c => [.keyword .escape, .literal (.string (String.ofList [c]))]

/-- What a derivation from a symbol means. -/
abbrev Symbol.Meaning : Symbol → Type
  | .literal => HeaderValue
  | .further .comma => List HeaderValue
  | .further _ => List Expr
  | _ => Expr

namespace Derivation

/-- **The tokens that a derivation spells.** -/
def tokens : {s : Symbol} → Derivation s → List Token
  | _, disjunction first more => first.tokens ++ more.tokens
  | _, conjunction first more => first.tokens ++ more.tokens
  | _, not d => .keyword .not :: d.tokens
  | _, predicate d => d.tokens
  | _, operand d => d.tokens
  | _, compare left op right => left.tokens ++ .compare op :: right.tokens
  | _, isNull d negated => d.tokens ++ .keyword .is :: (optional .not negated ++ [.keyword .null])
  | _, within d negated first more => d.tokens ++ (optional .not negated ++
      .keyword .within :: .openParen :: (first.tokens ++ (more.tokens ++ [.closeParen])))
  | _, like d negated pattern escape => d.tokens ++ (optional .not negated ++
      .keyword .like :: .literal (.string pattern) :: escapeClause escape)
  | _, between d negated low high => d.tokens ++ (optional .not negated ++
      .keyword .between :: (low.tokens ++ .keyword .and :: high.tokens))
  | _, nested d => .openParen :: (d.tokens ++ [.closeParen])
  | _, identifier name => [.identifier name]
  | _, value v => [.literal v]
  | _, null => [.keyword .null]
  | _, minus n => [.minus, .literal n.value]
  | _, literal v => [.literal v]
  | _, minusLiteral n => [.minus, .literal n.value]
  | _, nestedLiteral d => .openParen :: (d.tokens ++ [.closeParen])
  | _, done => []
  | .further joint, next d more => joint.token :: (d.tokens ++ more.tokens)

/-- **The expression that a derivation means**, or the parts of one. -/
def meaning : {s : Symbol} → Derivation s → s.Meaning
  | _, disjunction first more => List.foldl Expr.or first.meaning more.meaning
  | _, conjunction first more => List.foldl Expr.and first.meaning more.meaning
  | _, not d => Expr.not d.meaning
  | _, predicate d => d.meaning
  | _, operand d => d.meaning
  | _, compare left op right => Expr.compare left.meaning op right.meaning
  | _, isNull d negated => Expr.isNull d.meaning negated
  | _, within d negated first more => Expr.within d.meaning (first.meaning :: more.meaning) negated
  | _, like d negated pattern escape => Expr.like d.meaning (compileLike escape pattern.toList) negated
  | _, between d negated low high => Expr.between d.meaning low.meaning high.meaning negated
  | _, nested d => d.meaning
  | _, identifier name => Expr.identifier name
  | _, value v => Expr.literal v
  | _, null => Expr.null
  | _, minus n => Expr.literal n.negated
  | _, literal v => v
  | _, minusLiteral n => n.negated
  | _, nestedLiteral d => d.meaning
  | .further .or, done => []
  | .further .and, done => []
  | .further .comma, done => []
  | .further .or, next d more => (d.meaning : Expr) :: more.meaning
  | .further .and, next d more => (d.meaning : Expr) :: more.meaning
  | .further .comma, next d more => (d.meaning : HeaderValue) :: more.meaning

end Derivation

/-! ## Literals among the operands -/

namespace Derivation

/-- Every literal is an operand. -/
theorem operand_of_literal : (l : Derivation .literal) →
    ∃ d : Derivation .operand, d.meaning = Expr.literal l.meaning ∧ d.tokens = l.tokens
  | literal v => ⟨value v, rfl, rfl⟩
  | minusLiteral n => ⟨minus n, rfl, rfl⟩
  | nestedLiteral l => by
    obtain ⟨d, hmeaning, htokens⟩ := operand_of_literal l
    exact ⟨nested (disjunction (conjunction (predicate (operand d)) done) done), hmeaning, by simp [tokens, htokens]⟩

/-- A chain of two parts or more is no literal. -/
theorem foldl_eq_literal {join : Expr → Expr → Expr} (compound : ∀ l r v, join l r ≠ .literal v) {es : List Expr}
    {e : Expr} {v : HeaderValue} (h : es.foldl join e = .literal v) : es = [] ∧ e = .literal v := by
  induction es generalizing e with
  | nil => exact ⟨rfl, h⟩
  | cons r es ih => exact absurd (ih h).2 (compound e r v)

theorem done_of_and {more : Derivation (.further .and)} (h : more.meaning = []) : more = done := by
  cases more with
  | done => rfl
  | next d more => cases h

theorem done_of_or {more : Derivation (.further .or)} (h : more.meaning = []) : more = done := by
  cases more with
  | done => rfl
  | next d more => cases h

theorem literal_of_meaning {v : HeaderValue} : (d : Derivation .operand) → d.meaning = Expr.literal v →
    ∃ l : Derivation .literal, l.meaning = v ∧ l.tokens = d.tokens
  | value v, h => ⟨literal v, Expr.literal.inj h, rfl⟩
  | minus n, h => ⟨minusLiteral n, Expr.literal.inj h, rfl⟩
  | nested (disjunction (conjunction (predicate d) more) more'), h => by
    obtain ⟨hmore', h⟩ := foldl_eq_literal (fun _ _ _ => Expr.noConfusion) h
    obtain ⟨hmore, h⟩ := foldl_eq_literal (fun _ _ _ => Expr.noConfusion) h
    obtain rfl := done_of_or hmore'
    obtain rfl := done_of_and hmore
    cases d with
    | operand d =>
      obtain ⟨l, hl, htokens⟩ := literal_of_meaning d h
      exact ⟨nestedLiteral l, hl, by simp [tokens, htokens]⟩
    | _ => cases h
  | nested (disjunction (conjunction (not d) more) more'), h => by
    obtain ⟨-, h⟩ := foldl_eq_literal (fun _ _ _ => Expr.noConfusion) h
    cases (foldl_eq_literal (fun _ _ _ => Expr.noConfusion) h).2
  | identifier _, h => by cases h
  | null, h => by cases h

end Derivation

/-! ## Where a derivation ends -/

/-- The words and signs that may stand after an operand, or after a pattern. -/
def Token.follows : Token → Bool
  | .compare _ | .keyword .is | .keyword .not | .keyword .within | .keyword .like | .keyword .between
  | .keyword .escape => true
  | _ => false

def Token.isWord (w : Keyword) : Token → Bool
  | .keyword w' => w' = w
  | _ => false

def Token.isComma : Token → Bool
  | .comma => true
  | _ => false

/-- The tokens that would go on with what has been derived from a symbol so far. -/
def Symbol.goesOn : Symbol → Token → Bool
  | .operand, _ | .literal, _ => false
  | .predicate, t | .negation, t => t.follows
  | .conjunction, t | .further .and, t => t.follows || t.isWord .and
  | .disjunction, t | .further .or, t => t.follows || t.isWord .and || t.isWord .or
  | .further .comma, t => t.isComma

/-- What comes next does not go on with it. -/
def Symbol.Ends (s : Symbol) (rest : List Token) : Prop := ∀ t ∈ rest.head?, s.goesOn t = false

namespace Symbol

@[simp] theorem ends_nil (s : Symbol) : s.Ends [] := fun t ht => by cases ht

@[simp] theorem ends_cons {s : Symbol} {t : Token} {rest : List Token} : s.Ends (t :: rest) ↔ s.goesOn t = false := by
  simp [Ends]

theorem ends_operand (rest : List Token) : operand.Ends rest := fun _ _ => rfl

theorem ends_literal (rest : List Token) : literal.Ends rest := fun _ _ => rfl

theorem joint_goesOn (joint : Joint) (rest : List Token) : ¬ (further joint).Ends (joint.token :: rest) := by
  cases joint <;> exact fun h => Bool.noConfusion (ends_cons.1 h)

/-- What ends a chain ends each of its parts. -/
theorem Ends.part {joint : Joint} {rest : List Token} (h : (further joint).Ends rest) : joint.part.Ends rest := by
  cases joint with
  | comma => exact ends_literal rest
  | and => exact fun t ht => (Bool.or_eq_false_iff.1 (h t ht)).1
  | or => exact fun t ht => (Bool.or_eq_false_iff.1 (h t ht)).1

end Symbol

namespace Derivation

variable {s : Symbol} {rest rest' : List Token}

/-- What follows a part of a chain ends the part: either the next joint, or what ends the chain. -/
theorem ends_part {joint : Joint} (more : Derivation (.further joint)) (h : (Symbol.further joint).Ends rest) :
    joint.part.Ends (more.tokens ++ rest) := by
  cases more with
  | done => exact h.part
  | next d more => cases joint <;> exact Symbol.ends_cons.2 rfl

/-- An operand does not begin with a word that may stand after one. -/
theorem operand_begins (d : Derivation .operand) : ∃ t more, d.tokens = t :: more ∧ t.follows = false := by
  cases d <;> exact ⟨_, _, rfl, rfl⟩

/-! ## Predicates as subject, verb and object -/

def subject : Derivation .predicate → Derivation .operand
  | operand d => d
  | compare left _ _ => left
  | isNull d _ => d
  | within d _ _ _ => d
  | like d _ _ _ => d
  | between d _ _ _ => d

/-- The token that tells what is said about the subject, and whether `NOT` stands before it. -/
def verb : Derivation .predicate → Option (Bool × Token)
  | operand _ => none
  | compare _ op _ => some (false, .compare op)
  | isNull _ _ => some (false, .keyword .is)
  | within _ negated _ _ => some (negated, .keyword .within)
  | like _ negated _ _ => some (negated, .keyword .like)
  | between _ negated _ _ => some (negated, .keyword .between)

def object : Derivation .predicate → List Token
  | operand _ => []
  | compare _ _ right => right.tokens
  | isNull _ negated => optional .not negated ++ [.keyword .null]
  | within _ _ first more => .openParen :: (first.tokens ++ (more.tokens ++ [.closeParen]))
  | like _ _ pattern escape => .literal (.string pattern) :: escapeClause escape
  | between _ _ low high => low.tokens ++ .keyword .and :: high.tokens

def spellVerb : Option (Bool × Token) → List Token
  | none => []
  | some (negated, t) => optional .not negated ++ [t]

theorem tokens_predicate (d : Derivation .predicate) :
    d.tokens = d.subject.tokens ++ (spellVerb d.verb ++ d.object) := by
  cases d with
  | operand d => exact (List.append_nil _).symm
  | compare left op right => rfl
  | isNull d negated => rfl
  | within d negated first more => cases negated <;> rfl
  | like d negated pattern escape => cases negated <;> rfl
  | between d negated low high => cases negated <;> rfl

theorem object_of_verb (d : Derivation .predicate) (h : d.verb = none) : d.object = [] := by
  cases d <;> first | rfl | cases h

theorem follows_of_verb (d : Derivation .predicate) {negated : Bool} {t : Token} (h : d.verb = some (negated, t)) :
    t.follows = true ∧ t ≠ .keyword .not := by
  cases d <;> cases h <;> exact ⟨rfl, by simp⟩

/-- The verb is seen in what is said, whatever comes after. -/
theorem verb_inj (d d' : Derivation .predicate)
    (h : spellVerb d.verb ++ (d.object ++ rest) = spellVerb d'.verb ++ (d'.object ++ rest'))
    (ends : Symbol.predicate.Ends rest) (ends' : Symbol.predicate.Ends rest') :
    d.verb = d'.verb ∧ d.object ++ rest = d'.object ++ rest' := by
  -- what is said begins with `NOT` or the verb, and what comes after begins with neither
  have silent : ∀ {d : Derivation .predicate} {v} {more rest : List Token}, d.verb = some v →
      rest = spellVerb (some v) ++ more → ¬ Symbol.predicate.Ends rest := by
    rintro d ⟨negated, t⟩ more rest hv rfl hends
    obtain ⟨hfollows, -⟩ := d.follows_of_verb hv
    cases negated
    · have hquiet : t.follows = false := Symbol.ends_cons.1 hends
      rw [hfollows] at hquiet
      cases hquiet
    · cases Symbol.ends_cons.1 hends
  cases hv : d.verb with
  | none =>
    rw [hv, d.object_of_verb hv] at h
    cases hv' : d'.verb with
    | none =>
      rw [hv', d'.object_of_verb hv'] at h
      rw [d.object_of_verb hv, d'.object_of_verb hv']
      exact ⟨rfl, h⟩
    | some v' => exact absurd ends (silent hv' (by rw [← hv']; exact h))
  | some v =>
    cases hv' : d'.verb with
    | none =>
      rw [hv, hv', d'.object_of_verb hv'] at h
      exact absurd ends' (silent hv h.symm)
    | some v' =>
      obtain ⟨negated, t⟩ := v
      obtain ⟨negated', t'⟩ := v'
      obtain ⟨-, hne⟩ := d.follows_of_verb hv
      obtain ⟨-, hne'⟩ := d'.follows_of_verb hv'
      rw [hv, hv'] at h
      cases negated <;> cases negated' <;> simp_all [spellVerb, optional]

theorem predicate_begins (d : Derivation .predicate) : ∃ t more, d.tokens = t :: more ∧ t.follows = false := by
  obtain ⟨t, more, h, ht⟩ := d.subject.operand_begins
  exact ⟨t, more ++ (spellVerb d.verb ++ d.object), by rw [d.tokens_predicate, h]; rfl, ht⟩

/-! ## No two derivations spell the same -/

/-- What was said for a symbol by a derivation. -/
def Sole (d : Derivation s) : Prop := ∀ {rest rest' : List Token} (d' : Derivation s),
  d.tokens ++ rest = d'.tokens ++ rest' → s.Ends rest → s.Ends rest' → d = d' ∧ rest = rest'

theorem same_verb (d d' : Derivation .predicate) (h : d.tokens ++ rest = d'.tokens ++ rest')
    (ends : Symbol.predicate.Ends rest) (ends' : Symbol.predicate.Ends rest') (sole : d.subject.Sole) :
    d.subject = d'.subject ∧ d.verb = d'.verb ∧ d.object ++ rest = d'.object ++ rest' := by
  rw [tokens_predicate, tokens_predicate] at h
  simp only [List.append_assoc] at h
  obtain ⟨hsubject, hsaid⟩ := sole d'.subject h (fun _ _ => rfl) (fun _ _ => rfl)
  exact ⟨hsubject, verb_inj d d' hsaid ends ends'⟩

theorem escapeClause_inj {escape escape' : Option Char}
    (h : escapeClause escape ++ rest = escapeClause escape' ++ rest')
    (ends : Symbol.predicate.Ends rest) (ends' : Symbol.predicate.Ends rest') : escape = escape' ∧ rest = rest' := by
  cases escape with
  | none =>
    cases escape' with
    | none => exact ⟨rfl, h⟩
    | some c =>
      rw [show rest = _ from h] at ends
      cases Symbol.ends_cons.1 ends
  | some c =>
    cases escape' with
    | none =>
      rw [show rest' = _ from h.symm] at ends'
      cases Symbol.ends_cons.1 ends'
    | some c' => simpa [escapeClause, String.ofList_inj] using h

theorem null_inj {negated negated' : Bool} (h : optional .not negated ++ .keyword .null :: rest =
    optional .not negated' ++ .keyword .null :: rest') : negated = negated' ∧ rest = rest' := by
  cases negated <;> cases negated' <;> simp_all [optional]

/-- **No two derivations begin the same sequence**, as long as what follows goes on with neither. -/
theorem unique_append (d d' : Derivation s) (h : d.tokens ++ rest = d'.tokens ++ rest') (ends : s.Ends rest)
    (ends' : s.Ends rest') : d = d' ∧ rest = rest' := by
  induction d generalizing rest rest' with
  | disjunction first more ih ih' =>
    cases d' with
    | disjunction first' more' =>
      simp only [tokens, List.append_assoc] at h
      obtain ⟨rfl, hmore⟩ := ih first' h (ends_part more ends) (ends_part more' ends')
      obtain ⟨rfl, hrest⟩ := ih' more' hmore ends ends'
      exact ⟨rfl, hrest⟩
  | conjunction first more ih ih' =>
    cases d' with
    | conjunction first' more' =>
      simp only [tokens, List.append_assoc] at h
      obtain ⟨rfl, hmore⟩ := ih first' h (ends_part more ends) (ends_part more' ends')
      obtain ⟨rfl, hrest⟩ := ih' more' hmore ends ends'
      exact ⟨rfl, hrest⟩
  | not d ih =>
    cases d' with
    | not d' =>
      simp only [tokens, List.cons_append, List.cons.injEq, true_and] at h
      obtain ⟨rfl, hrest⟩ := ih d' h ends ends'
      exact ⟨rfl, hrest⟩
    | predicate d' =>
      obtain ⟨t, more, ht, hbegins⟩ := d'.predicate_begins
      simp only [tokens, ht, List.cons_append, List.cons.injEq] at h
      rw [← h.1] at hbegins
      cases hbegins
  | predicate d ih =>
    cases d' with
    | not d' =>
      obtain ⟨t, more, ht, hbegins⟩ := d.predicate_begins
      simp only [tokens, ht, List.cons_append, List.cons.injEq] at h
      rw [h.1] at hbegins
      cases hbegins
    | predicate d' =>
      obtain ⟨rfl, hrest⟩ := ih d' h ends ends'
      exact ⟨rfl, hrest⟩
  | operand d ih =>
    obtain ⟨hd, hverb, hrest⟩ := same_verb (operand d) d' h ends ends' ih
    cases d' <;> cases hverb
    exact ⟨by rw [show d = _ from hd]; rfl, hrest⟩
  | compare left op right ih ih' =>
    obtain ⟨hsubject, hverb, hobject⟩ := same_verb (compare left op right) d' h ends ends' ih
    cases d' with
    | compare left' op' right' =>
      cases hsubject
      cases hverb
      obtain ⟨rfl, hrest⟩ := ih' right' hobject (Symbol.ends_operand _) (Symbol.ends_operand _)
      exact ⟨rfl, hrest⟩
    | _ => cases hverb
  | isNull d negated ih =>
    obtain ⟨hsubject, hverb, hobject⟩ := same_verb (isNull d negated) d' h ends ends' ih
    cases d' with
    | isNull d' negated' =>
      cases hsubject
      simp only [object, List.append_assoc, List.cons_append, List.nil_append] at hobject
      obtain ⟨rfl, hrest⟩ := null_inj hobject
      exact ⟨rfl, hrest⟩
    | _ => cases hverb
  | within d negated first more ih ih' ih'' =>
    obtain ⟨hsubject, hverb, hobject⟩ := same_verb (within d negated first more) d' h ends ends' ih
    cases d' with
    | within d' negated' first' more' =>
      cases hsubject
      cases hverb
      simp only [object, List.cons_append, List.append_assoc, List.cons.injEq, true_and] at hobject
      obtain ⟨rfl, hmore⟩ := ih' first' hobject (Symbol.ends_literal _) (Symbol.ends_literal _)
      obtain ⟨rfl, hclose⟩ := ih'' more' hmore (Symbol.ends_cons.2 rfl) (Symbol.ends_cons.2 rfl)
      exact ⟨rfl, (List.cons.inj hclose).2⟩
    | _ => cases hverb
  | like d negated pattern escape ih =>
    obtain ⟨hsubject, hverb, hobject⟩ := same_verb (like d negated pattern escape) d' h ends ends' ih
    cases d' with
    | like d' negated' pattern' escape' =>
      cases hsubject
      cases hverb
      simp only [object, List.cons_append, List.cons.injEq, Token.literal.injEq, HeaderValue.string.injEq] at hobject
      obtain ⟨rfl, hescape⟩ := hobject
      obtain ⟨rfl, hrest⟩ := escapeClause_inj hescape ends ends'
      exact ⟨rfl, hrest⟩
    | _ => cases hverb
  | between d negated low high ih ih' ih'' =>
    obtain ⟨hsubject, hverb, hobject⟩ := same_verb (between d negated low high) d' h ends ends' ih
    cases d' with
    | between d' negated' low' high' =>
      cases hsubject
      cases hverb
      simp only [object, List.cons_append, List.append_assoc] at hobject
      obtain ⟨rfl, hand⟩ := ih' low' hobject (Symbol.ends_operand _) (Symbol.ends_operand _)
      obtain ⟨rfl, hrest⟩ := ih'' high' (List.cons.inj hand).2 (Symbol.ends_operand _) (Symbol.ends_operand _)
      exact ⟨rfl, hrest⟩
    | _ => cases hverb
  | nested d ih =>
    cases d' with
    | nested d' =>
      simp only [tokens, List.cons_append, List.append_assoc, List.cons.injEq, true_and] at h
      obtain ⟨rfl, hclose⟩ := ih d' h (Symbol.ends_cons.2 rfl) (Symbol.ends_cons.2 rfl)
      exact ⟨rfl, (List.cons.inj hclose).2⟩
    | _ => cases (List.cons.inj h).1
  | nestedLiteral d ih =>
    cases d' with
    | nestedLiteral d' =>
      simp only [tokens, List.cons_append, List.append_assoc, List.cons.injEq, true_and] at h
      obtain ⟨rfl, hclose⟩ := ih d' h (Symbol.ends_literal _) (Symbol.ends_literal _)
      exact ⟨rfl, (List.cons.inj hclose).2⟩
    | _ => cases (List.cons.inj h).1
  | identifier | value | null | literal =>
    cases d' <;> cases (List.cons.inj h).1
    exact ⟨rfl, (List.cons.inj h).2⟩
  | minus n =>
    cases d' with
    | minus n' =>
      obtain ⟨hfront, hrest⟩ := List.cons.inj (List.cons.inj h).2
      obtain rfl := Number.value_inj.1 (Token.literal.inj hfront)
      exact ⟨rfl, hrest⟩
    | _ => cases (List.cons.inj h).1
  | minusLiteral n =>
    cases d' with
    | minusLiteral n' =>
      obtain ⟨hfront, hrest⟩ := List.cons.inj (List.cons.inj h).2
      obtain rfl := Number.value_inj.1 (Token.literal.inj hfront)
      exact ⟨rfl, hrest⟩
    | _ => cases (List.cons.inj h).1
  | done =>
    cases d' with
    | done => exact ⟨rfl, h⟩
    | next d more =>
      simp only [tokens, List.nil_append, List.cons_append] at h
      exact absurd (h ▸ ends) (Symbol.joint_goesOn _ _)
  | next d more ih ih' =>
    cases d' with
    | done =>
      simp only [tokens, List.nil_append, List.cons_append] at h
      exact absurd (h ▸ ends') (Symbol.joint_goesOn _ _)
    | next d' more' =>
      simp only [tokens, List.cons_append, List.append_assoc, List.cons.injEq, true_and] at h
      obtain ⟨rfl, hmore⟩ := ih d' h (ends_part more ends) (ends_part more' ends')
      obtain ⟨rfl, hrest⟩ := ih' more' hmore ends ends'
      exact ⟨rfl, hrest⟩

/-- **No two derivations spell the same.** -/
theorem unique {d d' : Derivation s} (h : d.tokens = d'.tokens) : d = d' :=
  (unique_append d d' (by rw [h]) (Symbol.ends_nil s) (Symbol.ends_nil s)).1

end Derivation
end MessageBroker.Selector
