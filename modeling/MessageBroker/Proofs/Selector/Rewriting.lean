import Mathlib.Data.Fintype.Option
import MessageBroker.Selector
/-!
# Rewriting a selector

`AND`, `OR` and `NOT` read their operands as truth values, which may be unknown, and obey the laws of these
(`Expr.Law`).  What an expression evaluates to depends on the values of its parts alone, so parts that have the same
value may stand for each other anywhere in it (`Expr.Rewrites.evaluate`).
-/
namespace MessageBroker.Selector

/-! ## Three truth values -/

def neg (a : Option Bool) : Option Bool := a.map (!·)

theorem conj_comm : ∀ a b : Option Bool, conj a b = conj b a := by decide

theorem disj_comm : ∀ a b : Option Bool, disj a b = disj b a := by decide

theorem conj_assoc : ∀ a b c : Option Bool, conj (conj a b) c = conj a (conj b c) := by decide

theorem disj_assoc : ∀ a b c : Option Bool, disj (disj a b) c = disj a (disj b c) := by decide

theorem conj_disj : ∀ a b c : Option Bool, conj a (disj b c) = disj (conj a b) (conj a c) := by decide

theorem disj_conj : ∀ a b c : Option Bool, disj a (conj b c) = conj (disj a b) (disj a c) := by decide

theorem neg_conj : ∀ a b : Option Bool, neg (conj a b) = disj (neg a) (neg b) := by decide

theorem neg_disj : ∀ a b : Option Bool, neg (disj a b) = conj (neg a) (neg b) := by decide

@[simp] theorem truth_bool (a : Option Bool) : truth (a.map .bool) = a := by
  cases a <;> rfl

namespace Expr

variable {headers : Headers} {a b c e e' : Expr}

theorem evaluate_and : (Expr.and a b).evaluate headers =
    (conj (truth (a.evaluate headers)) (truth (b.evaluate headers))).map .bool := rfl

theorem evaluate_or : (Expr.or a b).evaluate headers =
    (disj (truth (a.evaluate headers)) (truth (b.evaluate headers))).map .bool := rfl

theorem evaluate_not : (Expr.not a).evaluate headers = (neg (truth (a.evaluate headers))).map .bool := by
  unfold neg
  rw [Option.map_map]
  rfl

/-! ## The laws -/

/-- **Two expressions that a law of three-valued logic makes equal**, whatever their parts are. -/
inductive Law : Expr → Expr → Prop where
  | and_comm (a b : Expr) : Law (.and a b) (.and b a)
  | or_comm (a b : Expr) : Law (.or a b) (.or b a)
  | and_assoc (a b c : Expr) : Law (.and (.and a b) c) (.and a (.and b c))
  | or_assoc (a b c : Expr) : Law (.or (.or a b) c) (.or a (.or b c))
  | and_or (a b c : Expr) : Law (.and a (.or b c)) (.or (.and a b) (.and a c))
  | or_and (a b c : Expr) : Law (.or a (.and b c)) (.and (.or a b) (.or a c))
  | not_and (a b : Expr) : Law (.not (.and a b)) (.or (.not a) (.not b))
  | not_or (a b : Expr) : Law (.not (.or a b)) (.and (.not a) (.not b))

theorem Law.evaluate (h : Law e e') (headers : Headers) : e.evaluate headers = e'.evaluate headers := by
  cases h with
  | and_comm a b => rw [evaluate_and, evaluate_and, conj_comm]
  | or_comm a b => rw [evaluate_or, evaluate_or, disj_comm]
  | and_assoc a b c => simp only [evaluate_and, truth_bool, conj_assoc]
  | or_assoc a b c => simp only [evaluate_or, truth_bool, disj_assoc]
  | and_or a b c => simp only [evaluate_and, evaluate_or, truth_bool, conj_disj]
  | or_and a b c => simp only [evaluate_and, evaluate_or, truth_bool, disj_conj]
  | not_and a b => simp only [evaluate_and, evaluate_or, evaluate_not, truth_bool, neg_conj]
  | not_or a b => simp only [evaluate_and, evaluate_or, evaluate_not, truth_bool, neg_disj]

/-! ## Anywhere in an expression -/

/-- **Rewriting by some laws**: any number of times, in either direction, at any depth and under any operator. -/
inductive Rewrites (law : Expr → Expr → Prop) : Expr → Expr → Prop where
  | law {e e' : Expr} (h : law e e') : Rewrites law e e'
  | refl (e : Expr) : Rewrites law e e
  | symm {e e' : Expr} (h : Rewrites law e e') : Rewrites law e' e
  | trans {e e' e'' : Expr} (h : Rewrites law e e') (h' : Rewrites law e' e'') : Rewrites law e e''
  | compare {l l' r r' : Expr} (op : Comparison) (left : Rewrites law l l') (right : Rewrites law r r') :
      Rewrites law (.compare l op r) (.compare l' op r')
  | and {l l' r r' : Expr} (left : Rewrites law l l') (right : Rewrites law r r') :
      Rewrites law (.and l r) (.and l' r')
  | or {l l' r r' : Expr} (left : Rewrites law l l') (right : Rewrites law r r') : Rewrites law (.or l r) (.or l' r')
  | not {e e' : Expr} (operand : Rewrites law e e') : Rewrites law (.not e) (.not e')
  | isNull {e e' : Expr} (negated : Bool) (operand : Rewrites law e e') :
      Rewrites law (.isNull e negated) (.isNull e' negated)
  | within {e e' : Expr} (values : List HeaderValue) (negated : Bool) (operand : Rewrites law e e') :
      Rewrites law (.within e values negated) (.within e' values negated)
  | like {e e' : Expr} (pattern : List Wildcard) (negated : Bool) (operand : Rewrites law e e') :
      Rewrites law (.like e pattern negated) (.like e' pattern negated)
  | between {e e' low low' high high' : Expr} (negated : Bool) (operand : Rewrites law e e')
      (bottom : Rewrites law low low') (top : Rewrites law high high') :
      Rewrites law (.between e low high negated) (.between e' low' high' negated)

/-- **What laws keep is kept by rewriting**, whatever stands around. -/
theorem Rewrites.evaluate {law : Expr → Expr → Prop}
    (sound : ∀ e e', law e e' → e.evaluate headers = e'.evaluate headers) (h : Rewrites law e e') :
    e.evaluate headers = e'.evaluate headers := by
  induction h with
  | law h => exact sound _ _ h
  | refl e => rfl
  | symm h ih => exact ih.symm
  | trans h h' ih ih' => exact ih.trans ih'
  | compare op left right ihl ihr => simp only [Expr.evaluate, ihl, ihr]
  | and left right ihl ihr => simp only [Expr.evaluate, ihl, ihr]
  | or left right ihl ihr => simp only [Expr.evaluate, ihl, ihr]
  | not operand ih => simp only [Expr.evaluate, ih]
  | isNull negated operand ih => simp only [Expr.evaluate, ih]
  | within values negated operand ih => simp only [Expr.evaluate, ih]
  | like pattern negated operand ih => simp only [Expr.evaluate, ih]
  | between negated operand bottom top ih ihl ihh => simp only [Expr.evaluate, ih, ihl, ihh]

end Expr

/-- **Selectors obey the laws of three-valued logic**: the two sides of a law have the same value under any headers,
true, false or unknown, of whatever kind the operands are; and a selector that is rewritten by these laws, wherever in
it and as often as one likes, selects the same messages. -/
theorem selects_rewritten :
    (∀ e e' : Expr, e.Law e' → ∀ headers, e.evaluate headers = e'.evaluate headers) ∧
      ∀ s s' : Selector, Expr.Rewrites Expr.Law s.expression s'.expression →
        ∀ headers, s.selects headers = s'.selects headers := by
  refine ⟨fun e e' h headers => h.evaluate headers, fun s s' h headers => ?_⟩
  have heq : s.expression.evaluate headers = s'.expression.evaluate headers :=
    h.evaluate fun _ _ law => law.evaluate headers
  unfold Selector.selects Expr.selects
  rw [heq]

/-- `NOT ((a AND b) IS NULL OR c)` and `(b AND a) IS NOT NULL AND NOT c`, written with two `NOT`s. -/
theorem selects_rewritten_beneath_isNull :
    let a := Expr.identifier "a"
    let b := Expr.identifier "b"
    let c := Expr.identifier "c"
    let s : Selector := ⟨"NOT ((a AND b) IS NULL OR c)", .not (.or (.isNull (.and a b) false) c)⟩
    let s' : Selector := ⟨"NOT (b AND a) IS NULL AND NOT c", .and (.not (.isNull (.and b a) false)) (.not c)⟩
    let headers : Headers := [("c", .bool false), ("b", .bool true), ("a", .bool true)]
    s.selects headers = s'.selects headers ∧ s'.selects headers = true := by
  intro a b c s s' headers
  have h : Expr.Rewrites Expr.Law s.expression s'.expression :=
    .trans (.law (.not_or (.isNull (.and a b) false) c)) (.and (.not (.isNull false (.law (.and_comm a b)))) (.refl _))
  exact ⟨selects_rewritten.2 s s' h headers, by decide +kernel⟩

end MessageBroker.Selector
