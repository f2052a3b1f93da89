import MessageBroker.Proofs.Results
import MessageBroker.Proofs.Selector.Derivation
import Mathlib.Logic.Function.Iterate
/-!
# The parser accepts exactly its grammar

A reader is sound for a symbol if what it takes from the tokens is derived from the symbol and means what the reader
returns, and complete up to a length if it takes every shorter derivation that stands at the front and is not gone on
with.  Each level of the grammar is sound or complete if the reader for parentheses is, so by induction on the depth the
parser is both.
-/
namespace MessageBroker.Selector

variable {α β : Type} {s : Symbol} {stop n : Nat} {inner : Reader} {ts mid rest : Tokens}

/-! ## The tokens between two places -/

/-- The tokens from one place to a later one. -/
inductive Spans : List Token → Tokens → Tokens → Prop where
  | nil {ts : Tokens} : Spans [] ts ts
  | cons {offset : Nat} {t : Token} {w : List Token} {ts rest : Tokens} (h : Spans w ts rest) :
      Spans (t :: w) ((offset, t) :: ts) rest

namespace Spans

variable {w w' : List Token}

theorem append (h : Spans w ts mid) (h' : Spans w' mid rest) : Spans (w ++ w') ts rest := by
  induction h with
  | nil => exact h'
  | cons _ ih => exact .cons (ih h')

theorem split (h : Spans (w ++ w') ts rest) : ∃ mid, Spans w ts mid ∧ Spans w' mid rest := by
  induction w generalizing ts with
  | nil => exact ⟨ts, .nil, h⟩
  | cons t w ih =>
    obtain _ | h := h
    obtain ⟨mid, hw, hw'⟩ := ih h
    exact ⟨mid, .cons hw, hw'⟩

theorem map_snd (h : Spans w ts rest) : ts.map Prod.snd = w ++ rest.map Prod.snd := by
  induction h with
  | nil => rfl
  | cons _ ih => exact congrArg (List.cons _) ih

theorem length_eq (h : Spans w ts rest) : ts.length = w.length + rest.length := by
  simpa using congrArg List.length h.map_snd

theorem le_length (h : Spans w ts rest) : w.length ≤ ts.length := h.length_eq ▸ Nat.le_add_right _ _

/-- To the end of the tokens there is only one way. -/
theorem to_end : Spans w ts [] ↔ w = ts.map Prod.snd := by
  constructor
  · intro h
    simpa using h.map_snd.symm
  · rintro rfl
    induction ts with
    | nil => exact .nil
    | cons t ts ih => exact .cons ih

end Spans

/-! ## Chains

The three loops of the parser differ in the joint that they go on after and in what they make of the parts.
-/

def Joint.joins : Joint → Token → Bool
  | .or => Token.isWord .or
  | .and => Token.isWord .and
  | .comma => Token.isComma

theorem Joint.joins_iff {joint : Joint} {t : Token} : joint.joins t = true ↔ t = joint.token := by
  cases joint <;> cases t <;> simp [joins, token, Token.isWord, Token.isComma]

theorem Symbol.Ends.silent {joint : Joint} {w : List Token} (h : (Symbol.further joint).Ends w) :
    ∀ t ∈ w.head?, joint.joins t = false := by
  cases joint with
  | comma => exact h
  | and => exact fun t ht => (Bool.or_eq_false_iff.1 (h t ht)).2
  | or => exact fun t ht => (Bool.or_eq_false_iff.1 (h t ht)).2

/-- The parts of a chain after its first one. -/
def chain (joint : Joint) (part : Tokens → Except Error (Parsed α)) : Nat → Tokens → Except Error (Parsed (List α))
  | fuel + 1, (offset, t) :: ts =>
    if joint.joins t then do
      let (a, ts) ← part ts
      let (as, ts) ← chain joint part fuel ts
      pure (a :: as, ts)
    else .ok ([], (offset, t) :: ts)
  | _, ts => .ok ([], ts)

theorem chain_joint {joint : Joint} {part : Tokens → Except Error (Parsed α)} {fuel offset : Nat} :
    chain joint part (fuel + 1) ((offset, joint.token) :: ts) = (do
      let (a, ts) ← part ts
      let (as, ts) ← chain joint part fuel ts
      pure (a :: as, ts)) := by
  rw [chain, if_pos (Joint.joins_iff.2 rfl)]

/-- A chain goes on after its joint only. -/
theorem chain_ends {joint : Joint} {part : Tokens → Except Error (Parsed α)} {fuel : Nat}
    (h : ∀ t ∈ (ts.map Prod.snd).head?, joint.joins t = false) : chain joint part fuel ts = .ok ([], ts) := by
  obtain _ | fuel := fuel
  · cases ts <;> rfl
  obtain _ | ⟨⟨offset, t⟩, ts⟩ := ts
  · rfl
  rw [chain, if_neg (by simp [h t rfl])]

theorem moreLiterals_eq_chain (stop : Nat) (inner : Reader) (fuel : Nat) (ts : Tokens) :
    moreLiterals stop inner fuel ts = chain .comma (literalOperand stop inner) fuel ts := by
  induction fuel generalizing ts with
  | zero => cases ts <;> rfl
  | succ fuel ih =>
    obtain _ | ⟨⟨offset, t⟩, ts⟩ := ts
    · rfl
    · cases t with
      | comma => simp only [moreLiterals, ih]; rfl
      | _ => rfl

/-- A loop that joins each part to what it has so far. -/
theorem loop_eq_chain {joint : Joint} {part : Reader} {join : Expr → Expr → Expr} {loop : Nat → Expr → Reader}
    (zero : ∀ e ts, loop 0 e ts = .ok (e, ts)) (nil : ∀ fuel e, loop (fuel + 1) e [] = .ok (e, []))
    (cons : ∀ fuel e offset t ts, loop (fuel + 1) e ((offset, t) :: ts) =
      if joint.joins t then part ts >>= fun p => loop fuel (join e p.1) p.2 else .ok (e, (offset, t) :: ts))
    (fuel : Nat) (e : Expr) (ts : Tokens) :
    loop fuel e ts = (chain joint part fuel ts).map fun p => (p.1.foldl join e, p.2) := by
  induction fuel generalizing e ts with
  | zero => rw [zero]; cases ts <;> rfl
  | succ fuel ih =>
    obtain _ | ⟨⟨offset, t⟩, ts⟩ := ts
    · exact nil fuel e
    · rw [cons, chain]
      split
      · cases part ts with
        | error _ => rfl
        | ok p =>
          simp only [ok_bind, ih]
          cases chain joint part fuel p.2 <;> rfl
      · rfl

theorem moreAnd_eq_chain (stop : Nat) (inner : Reader) (fuel : Nat) (e : Expr) (ts : Tokens) :
    moreAnd stop inner fuel e ts =
      (chain .and (negation stop inner) fuel ts).map fun p => (p.1.foldl .and e, p.2) := by
  refine loop_eq_chain (fun e ts => ?_) (fun _ _ => rfl) (fun fuel e offset t ts => ?_) fuel e ts
  · cases ts <;> rfl
  · cases t with
    | keyword w => cases w <;> rfl
    | _ => rfl

theorem moreOr_eq_chain (stop : Nat) (inner : Reader) (fuel : Nat) (e : Expr) (ts : Tokens) :
    moreOr stop inner fuel e ts =
      (chain .or (conjunction stop inner) fuel ts).map fun p => (p.1.foldl .or e, p.2) := by
  refine loop_eq_chain (fun e ts => ?_) (fun _ _ => rfl) (fun fuel e offset t ts => ?_) fuel e ts
  · cases ts <;> rfl
  · cases t with
    | keyword w => cases w <;> rfl
    | _ => rfl

/-- A chain means what its parts mean, one after the other. -/
structure Lists {joint : Joint} (means : Derivation joint.part → α) (all : Derivation (.further joint) → List α) :
    Prop where
  done : all .done = []
  next : ∀ d more, all (.next d more) = means d :: all more

theorem lists_or : @Lists Expr .or Derivation.meaning Derivation.meaning := ⟨rfl, fun _ _ => rfl⟩

theorem lists_and : @Lists Expr .and Derivation.meaning Derivation.meaning := ⟨rfl, fun _ _ => rfl⟩

theorem lists_comma : @Lists HeaderValue .comma Derivation.meaning Derivation.meaning := ⟨rfl, fun _ _ => rfl⟩

/-! ## What is read is derived -/

/-- Whatever is read is derived from the symbol. -/
def Sound (means : Derivation s → α) (read : Tokens → Except Error (Parsed α)) : Prop :=
  ∀ ⦃ts a rest⦄, read ts = .ok (a, rest) → ∃ d, means d = a ∧ Spans d.tokens ts rest

theorem close_ok {what : Expected} (h : close stop what ts = .ok rest) : Spans [.closeParen] ts rest := by
  unfold close at h
  split at h
  · cases h
    exact .cons .nil
  · cases h

theorem operand_sound (sound : Sound (@Derivation.meaning .disjunction) inner) :
    Sound (@Derivation.meaning .operand) (operand stop inner) := by
  intro ts e rest h
  unfold operand at h
  split at h
  · obtain ⟨⟨e', mid⟩, hinner, h⟩ := ok_of_bind h
    obtain ⟨rest', hclose, h⟩ := ok_of_bind h
    cases h
    obtain ⟨d, rfl, hd⟩ := sound hinner
    exact ⟨.nested d, rfl, .cons (hd.append (close_ok hclose))⟩
  · next name ts =>
    cases h
    exact ⟨.identifier name, rfl, .cons .nil⟩
  · next v ts =>
    cases h
    exact ⟨.value v, rfl, .cons .nil⟩
  · cases h
    exact ⟨.null, rfl, .cons .nil⟩
  · next n ts =>
    cases h
    exact ⟨.minus (.int n), rfl, .cons (.cons .nil)⟩
  · next x ts =>
    cases h
    exact ⟨.minus (.float x), rfl, .cons (.cons .nil)⟩
  · cases h
  · cases h

theorem literalOperand_sound (sound : Sound (@Derivation.meaning .disjunction) inner) :
    Sound (@Derivation.meaning .literal) (literalOperand stop inner) := by
  intro ts v rest h
  obtain ⟨⟨e, mid⟩, hoperand, h⟩ := ok_of_bind h
  obtain ⟨d, rfl, hd⟩ := operand_sound sound hoperand
  split at h
  · next v mid hv =>
    cases h
    obtain ⟨hmeaning, rfl⟩ := Prod.mk.inj hv
    obtain ⟨l, hl, htokens⟩ := d.literal_of_meaning hmeaning
    exact ⟨l, hl, htokens ▸ hd⟩
  · cases h

theorem chain_sound {joint : Joint} {part : Tokens → Except Error (Parsed α)} {means : Derivation joint.part → α}
    {all : Derivation (.further joint) → List α} (lists : Lists means all) (sound : Sound means part) (fuel : Nat) :
    Sound all (chain joint part fuel) := by
  intro ts as rest h
  induction fuel generalizing ts as rest with
  | zero =>
    cases ts <;> (cases h; exact ⟨.done, lists.done, .nil⟩)
  | succ fuel ih =>
    obtain _ | ⟨⟨offset, t⟩, ts⟩ := ts
    · cases h
      exact ⟨.done, lists.done, .nil⟩
    · rw [chain] at h
      split at h
      · next ht =>
        obtain rfl := Joint.joins_iff.1 ht
        obtain ⟨⟨a, mid⟩, hpart, h⟩ := ok_of_bind h
        obtain ⟨⟨as', rest'⟩, hmore, h⟩ := ok_of_bind h
        cases h
        obtain ⟨d, rfl, hd⟩ := sound hpart
        obtain ⟨more, rfl, hd'⟩ := ih hmore
        exact ⟨.next d more, lists.next d more, .cons (hd.append hd')⟩
      · cases h
        exact ⟨.done, lists.done, .nil⟩

theorem quotedText_ok {what : Expected} {text : String} (h : quotedText stop what ts = .ok (text, rest)) :
    Spans [.literal (.string text)] ts rest := by
  unfold quotedText at h
  split at h
  · cases h
    exact .cons .nil
  · cases h

theorem escapeCharacter_ok {escape : Option Char} (h : escapeCharacter stop ts = .ok (escape, rest)) :
    Spans (escapeClause escape) ts rest := by
  unfold escapeCharacter at h
  split at h
  · obtain ⟨⟨text, rest'⟩, htext, h⟩ := ok_of_bind h
    dsimp only at h
    split at h
    · next c hc =>
      cases h
      have := quotedText_ok htext
      rw [← String.ofList_toList (s := text), hc] at this
      exact .cons this
    · cases h
  · cases h
    exact .nil

/-- The predicates that `NOT` may stand before, from the word that tells which one. -/
theorem negatable_sound (sound : Sound (@Derivation.meaning .disjunction) inner) {subject : Derivation .operand}
    {negated : Bool} {start : Tokens} {e : Expr} (h : negatable stop inner subject.meaning negated ts = .ok (e, rest))
    (hsubject : Spans subject.tokens start mid) (hnot : Spans (optional .not negated) mid ts) :
    ∃ d : Derivation .predicate, d.meaning = e ∧ Spans d.tokens start rest := by
  unfold negatable at h
  split at h
  · split at h
    · obtain ⟨⟨v, mid⟩, hfirst, h⟩ := ok_of_bind h
      obtain ⟨⟨vs, mid'⟩, hmore, h⟩ := ok_of_bind h
      obtain ⟨rest', hclose, h⟩ := ok_of_bind h
      cases h
      obtain ⟨first, rfl, hd⟩ := literalOperand_sound sound hfirst
      rw [moreLiterals_eq_chain] at hmore
      obtain ⟨more, rfl, hd'⟩ := chain_sound lists_comma (literalOperand_sound sound) _ hmore
      exact ⟨.within subject negated first more, rfl,
        hsubject.append (hnot.append (.cons (.cons (hd.append (hd'.append (close_ok hclose))))))⟩
    · cases h
  · obtain ⟨⟨pattern, mid⟩, hpattern, h⟩ := ok_of_bind h
    obtain ⟨⟨escape, rest'⟩, hescape, h⟩ := ok_of_bind h
    cases h
    exact ⟨.like subject negated pattern escape, rfl,
      hsubject.append (hnot.append (.cons ((quotedText_ok hpattern).append (escapeCharacter_ok hescape))))⟩
  · obtain ⟨⟨e', mid⟩, hlow, h⟩ := ok_of_bind h
    obtain ⟨low, rfl, hd⟩ := operand_sound sound hlow
    split at h
    · next low' offset mid heq =>
      obtain ⟨⟨e', rest'⟩, hhigh, h⟩ := ok_of_bind h
      cases h
      cases heq
      obtain ⟨high, rfl, hd'⟩ := operand_sound sound hhigh
      exact ⟨.between subject negated low high, rfl, hsubject.append (hnot.append (.cons (hd.append (.cons hd'))))⟩
    · cases h
  · cases h

theorem predicate_sound (sound : Sound (@Derivation.meaning .disjunction) inner) :
    Sound (@Derivation.meaning .predicate) (predicate stop inner) := by
  intro ts e rest h
  obtain ⟨⟨e', mid⟩, hsubject, h⟩ := ok_of_bind h
  obtain ⟨d, rfl, hd⟩ := operand_sound sound hsubject
  dsimp only at h
  split at h
  · next op mid =>
    obtain ⟨⟨r, rest'⟩, hright, h⟩ := ok_of_bind h
    cases h
    obtain ⟨d', rfl, hd'⟩ := operand_sound sound hright
    exact ⟨.compare d op d', rfl, hd.append (.cons hd')⟩
  · split at h
    · cases h
      exact ⟨.isNull d false, rfl, hd.append (.cons (.cons .nil))⟩
    · cases h
      exact ⟨.isNull d true, rfl, hd.append (.cons (.cons (.cons .nil)))⟩
    · cases h
    · cases h
  · exact negatable_sound sound h hd (.cons .nil)
  · exact negatable_sound sound h hd .nil
  · exact negatable_sound sound h hd .nil
  · exact negatable_sound sound h hd .nil
  · cases h
    exact ⟨.operand d, rfl, hd⟩

theorem negation_sound (sound : Sound (@Derivation.meaning .disjunction) inner) :
    Sound (@Derivation.meaning .negation) (negation stop inner) := by
  intro ts e rest h
  fun_induction negation stop inner ts generalizing e rest with
  | case1 offset ts ih =>
    obtain ⟨⟨e', rest'⟩, hnot, h⟩ := ok_of_bind h
    cases h
    obtain ⟨d, rfl, hd⟩ := ih hnot
    exact ⟨.not d, rfl, .cons hd⟩
  | case2 ts hnot =>
    obtain ⟨d, rfl, hd⟩ := predicate_sound sound h
    exact ⟨.predicate d, rfl, hd⟩

theorem conjunction_sound (sound : Sound (@Derivation.meaning .disjunction) inner) :
    Sound (@Derivation.meaning .conjunction) (conjunction stop inner) := by
  intro ts e rest h
  obtain ⟨⟨e', mid⟩, hfirst, h⟩ := ok_of_bind h
  simp only [moreAnd_eq_chain] at h
  obtain ⟨first, rfl, hd⟩ := negation_sound sound hfirst
  obtain ⟨⟨es, rest'⟩, hmore, h⟩ := ok_of_map h
  cases h
  obtain ⟨more, rfl, hd'⟩ := chain_sound lists_and (negation_sound sound) _ hmore
  exact ⟨.conjunction first more, rfl, hd.append hd'⟩

theorem disjunction_sound (sound : Sound (@Derivation.meaning .disjunction) inner) :
    Sound (@Derivation.meaning .disjunction) (disjunction stop inner) := by
  intro ts e rest h
  obtain ⟨⟨e', mid⟩, hfirst, h⟩ := ok_of_bind h
  simp only [moreOr_eq_chain] at h
  obtain ⟨first, rfl, hd⟩ := conjunction_sound sound hfirst
  obtain ⟨⟨es, rest'⟩, hmore, h⟩ := ok_of_map h
  cases h
  obtain ⟨more, rfl, hd'⟩ := chain_sound lists_or (conjunction_sound sound) _ hmore
  exact ⟨.disjunction first more, rfl, hd.append hd'⟩

theorem nested_sound (stop depth : Nat) : Sound (@Derivation.meaning .disjunction) (nested stop depth) := by
  induction depth with
  | zero => exact fun _ _ _ h => by cases h
  | succ depth ih => exact disjunction_sound ih

/-! ## What is derived is read -/

/-- Every derivation of less than `n` tokens is read, where what comes after it does not go on with it. -/
def Complete (n : Nat) (means : Derivation s → α) (read : Tokens → Except Error (Parsed α)) : Prop :=
  ∀ ⦃d ts rest⦄, d.tokens.length < n → Spans d.tokens ts rest → s.Ends (rest.map Prod.snd) →
    read ts = .ok (means d, rest)

theorem operand_complete (complete : Complete n (@Derivation.meaning .disjunction) inner) :
    Complete (n + 1) (@Derivation.meaning .operand) (operand stop inner) := by
  intro d ts rest hlen h hends
  cases d with
  | nested d =>
    obtain _ | h := h
    obtain ⟨mid, hd, h⟩ := h.split
    obtain _ | ⟨_ | _⟩ := h
    have hlen : d.tokens.length < n := by simp only [Derivation.tokens, List.length_cons] at hlen; grind
    simp only [operand, complete hlen hd (Symbol.ends_cons.2 rfl)]
    rfl
  | identifier | value | null =>
    obtain _ | ⟨_ | _⟩ := h
    rfl
  | minus n =>
    obtain _ | ⟨_ | ⟨_ | _⟩⟩ := h
    cases n <;> rfl

theorem literalOperand_complete (complete : Complete n (@Derivation.meaning .disjunction) inner) :
    Complete (n + 1) (@Derivation.meaning .literal) (literalOperand stop inner) := by
  intro l ts rest hlen h hends
  obtain ⟨d, hmeaning, htokens⟩ := l.operand_of_literal
  rw [← htokens] at hlen h
  rw [literalOperand, operand_complete complete hlen h (Symbol.ends_operand _), hmeaning]
  rfl

theorem chain_complete {joint : Joint} {part : Tokens → Except Error (Parsed α)} {means : Derivation joint.part → α}
    {all : Derivation (.further joint) → List α} (lists : Lists means all) (complete : Complete n means part)
    {fuel : Nat} {d : Derivation (.further joint)} (hlen : d.tokens.length < n) (hfuel : d.tokens.length ≤ fuel)
    (h : Spans d.tokens ts rest) (hends : (Symbol.further joint).Ends (rest.map Prod.snd)) :
    chain joint part fuel ts = .ok (all d, rest) := by
  induction fuel generalizing d ts with
  | zero =>
    cases d with
    | done =>
      obtain _ | _ := h
      rw [lists.done, chain_ends hends.silent]
    | next d more => cases hfuel
  | succ fuel ih =>
    cases d with
    | done =>
      obtain _ | _ := h
      rw [lists.done, chain_ends hends.silent]
    | next d more =>
      obtain _ | h := h
      obtain ⟨mid, hd, hmore⟩ := h.split
      simp only [Derivation.tokens, List.length_cons, List.length_append] at hlen hfuel
      have hpart := complete (by omega) hd (hmore.map_snd ▸ more.ends_part hends)
      rw [chain_joint, hpart, lists.next]
      simp only [ok_bind, ih (d := more) (by omega) (by omega) hmore]
      rfl

theorem escapeCharacter_complete {escape : Option Char} (h : Spans (escapeClause escape) ts rest)
    (hends : Symbol.predicate.Ends (rest.map Prod.snd)) : escapeCharacter stop ts = .ok (escape, rest) := by
  cases escape with
  | none =>
    obtain _ | _ := h
    unfold escapeCharacter
    split
    · cases Symbol.ends_cons.1 hends
    · rfl
  | some c =>
    obtain _ | ⟨_ | ⟨_ | _⟩⟩ := h
    rw [escapeCharacter, quotedText, ok_bind]
    simp only [String.toList_ofList]
    rfl

/-- `NOT` or not, the word after it tells what is said about the subject. -/
theorem predicate_of_negatable (complete : Complete n (@Derivation.meaning .disjunction) inner)
    {d : Derivation .operand} {negated : Bool} {w : Keyword} {offset : Nat} (hlen : d.tokens.length < n + 1)
    (hd : Spans d.tokens ts mid) (hnot : Spans (optional .not negated) mid ((offset, .keyword w) :: rest))
    (hw : w = .within ∨ w = .like ∨ w = .between) :
    predicate stop inner ts = negatable stop inner d.meaning negated ((offset, .keyword w) :: rest) := by
  rw [predicate, operand_complete complete hlen hd (Symbol.ends_operand _), ok_bind]
  cases negated with
  | true =>
    obtain _ | ⟨_ | _⟩ := hnot
    rfl
  | false =>
    obtain _ | _ := hnot
    rcases hw with rfl | rfl | rfl <;> rfl

theorem predicate_complete (complete : Complete n (@Derivation.meaning .disjunction) inner) :
    Complete (n + 1) (@Derivation.meaning .predicate) (predicate stop inner) := by
  intro d ts rest hlen h hends
  cases d with
  | operand d =>
    rw [predicate, operand_complete complete hlen h (Symbol.ends_operand _), ok_bind]
    dsimp only
    split
    case h_7 => rfl
    all_goals cases Symbol.ends_cons.1 hends
  | compare left op right =>
    simp only [Derivation.tokens, List.length_cons, List.length_append] at hlen
    obtain ⟨mid, hleft, _ | hright⟩ := h.split
    rw [predicate, operand_complete complete (by omega) hleft (Symbol.ends_operand _), ok_bind]
    dsimp only
    rw [operand_complete complete (by omega) hright (Symbol.ends_operand _)]
    rfl
  | isNull d negated =>
    simp only [Derivation.tokens, List.length_cons, List.length_append] at hlen
    obtain ⟨mid, hd, _ | h⟩ := h.split
    rw [predicate, operand_complete complete (by omega) hd (Symbol.ends_operand _), ok_bind]
    cases negated with
    | true =>
      obtain _ | ⟨_ | ⟨_ | _⟩⟩ := h
      rfl
    | false =>
      obtain _ | ⟨_ | _⟩ := h
      rfl
  | within d negated first more =>
    simp only [Derivation.tokens, List.length_cons, List.length_append] at hlen
    obtain ⟨mid, hd, h⟩ := h.split
    obtain ⟨mid₁, hnot, _ | ⟨_ | h⟩⟩ := h.split
    obtain ⟨mid₂, hfirst, h⟩ := h.split
    obtain ⟨mid₃, hmore, _ | ⟨_ | _⟩⟩ := h.split
    rw [predicate_of_negatable complete (by omega) hd hnot (.inl rfl), negatable]
    rw [literalOperand_complete complete (by omega) hfirst (Symbol.ends_literal _), ok_bind]
    dsimp only
    rw [moreLiterals_eq_chain, chain_complete lists_comma (literalOperand_complete complete) (by omega) hmore.le_length
      hmore (Symbol.ends_cons.2 rfl)]
    rfl
  | like d negated pattern escape =>
    simp only [Derivation.tokens, List.length_cons, List.length_append] at hlen
    obtain ⟨mid, hd, h⟩ := h.split
    obtain ⟨mid₁, hnot, _ | ⟨_ | h⟩⟩ := h.split
    rw [predicate_of_negatable complete (by omega) hd hnot (.inr (.inl rfl)), negatable, quotedText, ok_bind]
    dsimp only
    rw [escapeCharacter_complete h hends]
    rfl
  | between d negated low high =>
    simp only [Derivation.tokens, List.length_cons, List.length_append] at hlen
    obtain ⟨mid, hd, h⟩ := h.split
    obtain ⟨mid₁, hnot, _ | h⟩ := h.split
    obtain ⟨mid₂, hlow, _ | hhigh⟩ := h.split
    rw [predicate_of_negatable complete (by omega) hd hnot (.inr (.inr rfl)), negatable]
    rw [operand_complete complete (by omega) hlow (Symbol.ends_operand _), ok_bind]
    dsimp only
    rw [operand_complete complete (by omega) hhigh (Symbol.ends_operand _)]
    rfl

theorem negation_complete (complete : Complete n (@Derivation.meaning .disjunction) inner) :
    Complete (n + 1) (@Derivation.meaning .negation) (negation stop inner)
  | .not d, _, rest, hlen, h, hends => by
    obtain _ | h := h
    rw [negation, negation_complete complete (Nat.lt_of_succ_lt hlen) h hends]
    rfl
  | .predicate d, ts, rest, hlen, h, hends => by
    obtain ⟨t, more, ht, hfollows⟩ := d.predicate_begins
    rw [negation, predicate_complete complete hlen h hends]
    · rfl
    · rintro offset ts' rfl
      have hfront := h.map_snd
      rw [Derivation.tokens, ht] at hfront
      obtain rfl := (List.cons.inj hfront).1
      cases hfollows

theorem conjunction_complete (complete : Complete n (@Derivation.meaning .disjunction) inner) :
    Complete (n + 1) (@Derivation.meaning .conjunction) (conjunction stop inner) := by
  intro d ts rest hlen h hends
  cases d with
  | conjunction first more =>
    simp only [Derivation.tokens, List.length_append] at hlen
    obtain ⟨mid, hfirst, hmore⟩ := h.split
    rw [conjunction, negation_complete complete (by omega) hfirst (hmore.map_snd ▸ more.ends_part hends), ok_bind]
    dsimp only
    rw [moreAnd_eq_chain, chain_complete lists_and (negation_complete complete) (by omega) hmore.le_length hmore hends]
    rfl

theorem disjunction_complete (complete : Complete n (@Derivation.meaning .disjunction) inner) :
    Complete (n + 1) (@Derivation.meaning .disjunction) (disjunction stop inner) := by
  intro d ts rest hlen h hends
  cases d with
  | disjunction first more =>
    simp only [Derivation.tokens, List.length_append] at hlen
    obtain ⟨mid, hfirst, hmore⟩ := h.split
    rw [disjunction, conjunction_complete complete (by omega) hfirst (hmore.map_snd ▸ more.ends_part hends), ok_bind]
    dsimp only
    rw [moreOr_eq_chain, chain_complete lists_or (conjunction_complete complete) (by omega) hmore.le_length hmore hends]
    rfl

theorem nested_complete (stop depth : Nat) : Complete depth (@Derivation.meaning .disjunction) (nested stop depth) := by
  induction depth with
  | zero => exact fun _ _ _ h => absurd h (Nat.not_lt_zero _)
  | succ depth ih => exact disjunction_complete ih

/-! ## Neither bound is ever what ends the reading -/

/-- Two readers that read less than `n` tokens alike. -/
def Agree (n : Nat) (read' read : Tokens → Except Error (Parsed α)) : Prop := ∀ ⦃ts⦄, ts.length < n → read' ts = read ts

/-- A sound reader takes tokens from the front. -/
theorem Sound.length_le {means : Derivation s → α} {read : Tokens → Except Error (Parsed α)} (sound : Sound means read)
    {a : α} (h : read ts = .ok (a, rest)) : rest.length ≤ ts.length := by
  obtain ⟨d, -, hd⟩ := sound h
  exact hd.length_eq ▸ Nat.le_add_left _ _

theorem operand_agree {inner' : Reader} (agree : Agree n inner' inner) :
    Agree (n + 1) (operand stop inner') (operand stop inner) := by
  intro ts hlen
  unfold operand
  split
  · rw [agree (Nat.lt_of_succ_lt_succ hlen)]
  all_goals rfl

theorem literalOperand_agree {inner' : Reader} (agree : Agree n inner' inner) :
    Agree (n + 1) (literalOperand stop inner') (literalOperand stop inner) := fun ts hlen => by
  rw [literalOperand, literalOperand, operand_agree agree hlen]

/-- The parts of a chain are shorter than the chain, and no more than there are tokens. -/
theorem chain_agree {joint : Joint} {means : Derivation s → α} {part part' : Tokens → Except Error (Parsed α)}
    (sound : Sound means part) (agree : Agree n part' part) {fuel fuel' : Nat} (hlen : ts.length < n)
    (hfuel : ts.length ≤ fuel) (hfuel' : ts.length ≤ fuel') :
    chain joint part' fuel' ts = chain joint part fuel ts := by
  induction fuel generalizing fuel' ts with
  | zero =>
    obtain rfl := List.eq_nil_of_length_eq_zero (Nat.le_zero.1 hfuel)
    cases fuel' <;> rfl
  | succ fuel ih =>
    obtain _ | ⟨⟨offset, t⟩, ts⟩ := ts
    · cases fuel' <;> rfl
    obtain _ | fuel' := fuel'
    · cases hfuel'
    rw [List.length_cons] at hlen hfuel hfuel'
    rw [chain, chain, agree (Nat.lt_of_succ_lt hlen)]
    split
    · refine bind_congr_of_ok fun p hp => ?_
      have hshort := sound.length_le hp
      dsimp only
      rw [ih (by omega) (by omega) (by omega)]
    · rfl

theorem negatable_agree {inner' : Reader} (sound : Sound (@Derivation.meaning .disjunction) inner)
    (agree : Agree n inner' inner) (e : Expr) (negated : Bool) :
    Agree (n + 1) (negatable stop inner' e negated) (negatable stop inner e negated) := by
  intro ts hlen
  unfold negatable
  split
  · split
    · simp only [List.length_cons] at hlen
      rw [literalOperand_agree agree (by omega)]
      refine bind_congr_of_ok fun p hp => ?_
      have hshort := (literalOperand_sound sound).length_le hp
      dsimp only
      rw [moreLiterals_eq_chain, moreLiterals_eq_chain]
      rw [chain_agree (literalOperand_sound sound) (literalOperand_agree agree) (by omega) (Nat.le_refl _)
        (Nat.le_refl _)]
    · rfl
  · rfl
  · rw [List.length_cons] at hlen
    rw [operand_agree agree (by omega)]
    refine bind_congr_of_ok fun p hp => ?_
    have hshort := (operand_sound sound).length_le hp
    split
    · simp only [List.length_cons] at hshort
      rw [operand_agree agree (by omega)]
    · rfl
  · rfl

theorem predicate_agree {inner' : Reader} (sound : Sound (@Derivation.meaning .disjunction) inner)
    (agree : Agree n inner' inner) : Agree (n + 1) (predicate stop inner') (predicate stop inner) := by
  intro ts hlen
  rw [predicate, predicate, operand_agree agree hlen]
  refine bind_congr_of_ok fun p hp => ?_
  have hshort := (operand_sound sound).length_le hp
  dsimp only
  split
  · next heq => 
    rw [heq, List.length_cons] at hshort
    rw [operand_agree agree (by omega)]
  · rfl
  · next heq =>
    rw [heq, List.length_cons] at hshort
    exact negatable_agree sound agree _ _ (by omega)
  case h_7 => rfl
  all_goals exact negatable_agree sound agree _ _ (Nat.lt_of_le_of_lt hshort hlen)

theorem negation_agree {inner' : Reader} (sound : Sound (@Derivation.meaning .disjunction) inner)
    (agree : Agree n inner' inner) : Agree (n + 1) (negation stop inner') (negation stop inner) := by
  intro ts hlen
  fun_induction negation stop inner ts with
  | case1 offset ts ih => rw [negation, ih (Nat.lt_of_succ_lt hlen)]
  | case2 ts hnot => rw [negation, predicate_agree sound agree hlen]; exact hnot

theorem conjunction_agree {inner' : Reader} (sound : Sound (@Derivation.meaning .disjunction) inner)
    (agree : Agree n inner' inner) : Agree (n + 1) (conjunction stop inner') (conjunction stop inner) := by
  intro ts hlen
  rw [conjunction, conjunction, negation_agree sound agree hlen]
  refine bind_congr_of_ok fun p hp => ?_
  have hshort := (negation_sound sound).length_le hp
  dsimp only
  rw [moreAnd_eq_chain, moreAnd_eq_chain]
  rw [chain_agree (negation_sound sound) (negation_agree sound agree) (by omega) (Nat.le_refl _) (Nat.le_refl _)]

theorem disjunction_agree {inner' : Reader} (sound : Sound (@Derivation.meaning .disjunction) inner)
    (agree : Agree n inner' inner) : Agree (n + 1) (disjunction stop inner') (disjunction stop inner) := by
  intro ts hlen
  rw [disjunction, disjunction, conjunction_agree sound agree hlen]
  refine bind_congr_of_ok fun p hp => ?_
  have hshort := (conjunction_sound sound).length_le hp
  dsimp only
  rw [moreOr_eq_chain, moreOr_eq_chain]
  rw [chain_agree (conjunction_sound sound) (conjunction_agree sound agree) (by omega) (Nat.le_refl _) (Nat.le_refl _)]

/-- Whatever reads the parentheses at some depth is not asked when there are no more tokens than that. -/
theorem iterate_agree (stop : Nat) (base : Reader) {n depth : Nat} (h : n ≤ depth) :
    Agree n ((disjunction stop)^[n] base) (nested stop depth) := by
  induction n generalizing depth with
  | zero => exact fun _ h => absurd h (Nat.not_lt_zero _)
  | succ n ih =>
    obtain _ | depth := depth
    · cases h
    rw [Function.iterate_succ_apply']
    exact disjunction_agree (nested_sound stop depth) (ih (Nat.le_of_succ_le_succ h))

/-! ## The parser and the grammar -/

/-- What is derived from tokens is what they are read as. -/
theorem ofTokens_of_derivation {d : Derivation .disjunction} (h : d.tokens = ts.map Prod.snd) :
    ofTokens stop ts = .ok d.meaning := by
  have hlen : d.tokens.length < ts.length + 1 := by rw [h, List.length_map]; exact Nat.lt_succ_self _
  have hread := nested_complete stop _ hlen (Spans.to_end.2 h) (Symbol.ends_nil _)
  rw [ofTokens, hread]
  rfl

theorem derivation_of_ofTokens {e : Expr} (h : ofTokens stop ts = .ok e) :
    ∃ d : Derivation .disjunction, d.tokens = ts.map Prod.snd ∧ d.meaning = e := by
  obtain ⟨⟨e', rest⟩, hread, h⟩ := ok_of_bind h
  cases rest with
  | nil =>
    cases h
    obtain ⟨d, hd, hspan⟩ := nested_sound stop _ hread
    exact ⟨d, Spans.to_end.1 hspan, hd⟩
  | cons t rest => cases h

/-- **The parser accepts exactly its grammar.**  It succeeds, and leaves no token, if and only if the tokens are
derivable; what it returns is the meaning of their derivation, and they have one derivation at most.  It ends on every
sequence: whatever would read parentheses that nest deeper than there are tokens is never asked, and no loop goes round
more often than there are tokens. -/
theorem ofTokens_iff_derivation (stop : Nat) (ts : Tokens) :
    (∀ e, ofTokens stop ts = .ok e ↔ ∃ d : Derivation .disjunction, d.tokens = ts.map Prod.snd ∧ d.meaning = e) ∧
    Subsingleton {d : Derivation .disjunction // d.tokens = ts.map Prod.snd} ∧
    (∀ deeper : Reader, (disjunction stop)^[ts.length + 1] deeper ts = nested stop (ts.length + 1) ts) ∧
    ∀ depth more, let inner := nested stop depth
      (∀ e, moreOr stop inner (ts.length + more) e ts = moreOr stop inner ts.length e ts) ∧
      (∀ e, moreAnd stop inner (ts.length + more) e ts = moreAnd stop inner ts.length e ts) ∧
      moreLiterals stop inner (ts.length + more) ts = moreLiterals stop inner ts.length ts := by
  refine ⟨fun e => ⟨derivation_of_ofTokens, ?_⟩, ⟨?_⟩, fun deeper => ?_, fun depth more => ?_⟩
  · rintro ⟨d, hd, rfl⟩
    exact ofTokens_of_derivation hd
  · rintro ⟨d, hd⟩ ⟨d', hd'⟩
    exact Subtype.ext (Derivation.unique (hd.trans hd'.symm))
  · exact iterate_agree stop deeper (Nat.le_refl _) (Nat.lt_succ_self _)
  · intro inner
    have sound : Sound (@Derivation.meaning .disjunction) inner := nested_sound stop depth
    have fuel {α : Type} {s : Symbol} {joint : Joint} {means : Derivation s → α}
        {part : Tokens → Except Error (Parsed α)} (sound : Sound means part) :
        chain joint part (ts.length + more) ts = chain joint part ts.length ts :=
      chain_agree sound (fun _ _ => rfl) (Nat.lt_succ_self _) (Nat.le_refl _) (Nat.le_add_right _ _)
    refine ⟨fun e => ?_, fun e => ?_, ?_⟩
    · rw [moreOr_eq_chain, moreOr_eq_chain, fuel (conjunction_sound sound)]
    · rw [moreAnd_eq_chain, moreAnd_eq_chain, fuel (negation_sound sound)]
    · rw [moreLiterals_eq_chain, moreLiterals_eq_chain, fuel (literalOperand_sound sound)]

/-- The second `AND` joins the two predicates, the first one is part of `BETWEEN`. -/
example : ofTokens 0 [(0, .identifier "a"), (0, .keyword .between), (0, .literal (.int 1)), (0, .keyword .and),
    (0, .literal (.int 2)), (0, .keyword .and), (0, .identifier "b")] =
      .ok (.and (.between (.identifier "a") (.literal (.int 1)) (.literal (.int 2)) false) (.identifier "b")) := rfl

end MessageBroker.Selector
