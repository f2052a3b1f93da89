import Mathlib.Data.Fintype.Option
import MessageBroker.Selector
/-!
# A selector and further headers

What is unknown may become known when headers are added; what is known stays as it is (`Learns`).  Every operator keeps
this, but for `IS NULL`, which answers for an operand that is not there (`Expr.learns_evaluate`).
-/
namespace MessageBroker

/-- Every name keeps its value; names without one may have been given one. -/
def Headers.Extends (headers more : Headers) : Prop :=
  ∀ name value, headers.get? name = some value → more.get? name = some value

theorem Headers.extends_append (headers added : Headers) : headers.Extends (headers ++ added) := by
  intro name value h
  unfold Headers.get? at h ⊢
  rw [List.lookup_append, h]
  rfl

namespace Selector

/-! ## Knowing more -/

variable {α β : Type} {a a' : Option α}

/-- The second is the first, if the first is known at all. -/
def Learns (a a' : Option α) : Prop := ∀ x, a = some x → a' = some x

theorem learns_none (a : Option α) : Learns none a := nofun

theorem learns_refl (a : Option α) : Learns a a := fun _ h => h

theorem learns_iff : Learns a a' ↔ a = none ∨ a = a' := by
  cases a with
  | none => exact iff_of_true (learns_none a') (.inl rfl)
  | some x =>
    constructor
    · intro h
      exact .inr (h x rfl).symm
    · rintro (h | rfl)
      · cases h
      · exact learns_refl _

/-- Whatever has no answer for an unknown operand. -/
theorem Learns.apply {f : Option α → Option β} (strict : f none = none) (h : Learns a a') : Learns (f a) (f a') := by
  obtain rfl | rfl := learns_iff.1 h
  · rw [strict]
    exact learns_none _
  · exact learns_refl _

theorem Learns.bind {f f' : α → Option β} (h : Learns a a') (hf : ∀ x, Learns (f x) (f' x)) :
    Learns (a.bind f) (a'.bind f') := by
  obtain rfl | rfl := learns_iff.1 h
  · exact learns_none _
  · cases a with
    | none => exact learns_none _
    | some x => exact hf x

theorem Learns.map (h : Learns a a') (f : α → β) : Learns (a.map f) (a'.map f) :=
  h.apply (f := Option.map f) rfl

/-! ## Operators -/

section
variable {l l' r r' : Option Bool}

/-- A connective has an answer for an unknown operand only where the other operand alone decides. -/
theorem Learns.connective {f : Option Bool → Option Bool → Option Bool}
    (decided : ∀ l l' r r', (l = none ∨ l = l') → (r = none ∨ r = r') → f l r = none ∨ f l r = f l' r')
    (left : Learns l l') (right : Learns r r') : Learns (f l r) (f l' r') :=
  learns_iff.2 (decided l l' r r' (learns_iff.1 left) (learns_iff.1 right))

theorem Learns.conj (left : Learns l l') (right : Learns r r') : Learns (conj l r) (conj l' r') :=
  left.connective (by decide) right

theorem Learns.disj (left : Learns l l') (right : Learns r r') : Learns (disj l r) (disj l' r') :=
  left.connective (by decide) right

end

section
variable {v v' l l' r r' : Option HeaderValue}

theorem Learns.truth (h : Learns v v') : Learns (truth v) (truth v') := h.apply rfl

theorem Learns.compare? (op : Comparison) (left : Learns l l') (right : Learns r r') :
    Learns (compare? op l r) (compare? op l' r') :=
  left.bind fun _ => right.bind fun _ => learns_refl _

end

/-! ## Expressions -/

section
variable {headers more : Headers} {e e' low low' high high' : Expr}

theorem Learns.like (h : Learns (e.evaluate headers) (e'.evaluate more)) (pattern : List Wildcard) (negated : Bool) :
    Learns ((Expr.like e pattern negated).evaluate headers) ((Expr.like e' pattern negated).evaluate more) := by
  unfold Expr.evaluate
  obtain hnone | heq := learns_iff.1 h
  · rw [hnone]
    exact learns_none _
  · rw [heq]
    exact learns_refl _

theorem Learns.between (h : Learns (e.evaluate headers) (e'.evaluate more))
    (bottom : Learns (low.evaluate headers) (low'.evaluate more))
    (top : Learns (high.evaluate headers) (high'.evaluate more)) (negated : Bool) :
    Learns ((Expr.between e low high negated).evaluate headers)
      ((Expr.between e' low' high' negated).evaluate more) :=
  (h.compare? .ge bottom).bind fun _ => (h.compare? .le top).bind fun _ => learns_refl _

end

/-- Somewhere in the expression there is an `IS NULL` or an `IS NOT NULL`. -/
def Expr.testsNull : Expr → Bool
  | .literal _ | .null | .identifier _ => false
  | .compare l _ r | .and l r | .or l r => l.testsNull || r.testsNull
  | .not e | .within e _ _ | .like e _ _ => e.testsNull
  | .isNull _ _ => true
  | .between e low high _ => e.testsNull || low.testsNull || high.testsNull

/-- **What is known under some headers is known under more.** -/
theorem Expr.learns_evaluate {headers more : Headers} (ext : headers.Extends more) :
    ∀ e : Expr, e.testsNull = false → Learns (e.evaluate headers) (e.evaluate more) := by
  intro e plain
  induction e with
  | literal value => exact learns_refl _
  | null => exact learns_none _
  | identifier name => exact ext name
  | compare l op r ihl ihr =>
    obtain ⟨hl, hr⟩ := Bool.or_eq_false_iff.1 plain
    exact ((ihl hl).compare? op (ihr hr)).map _
  | and l r ihl ihr =>
    obtain ⟨hl, hr⟩ := Bool.or_eq_false_iff.1 plain
    exact ((ihl hl).truth.conj (ihr hr).truth).map _
  | or l r ihl ihr =>
    obtain ⟨hl, hr⟩ := Bool.or_eq_false_iff.1 plain
    exact ((ihl hl).truth.disj (ihr hr).truth).map _
  | not e ih => exact (ih plain).truth.map _
  | isNull e negated ih => cases plain
  | within e values negated ih => exact (ih plain).map _
  | like e pattern negated ih => exact (ih plain).like pattern negated
  | between e low high negated ih ihl ihh =>
    obtain ⟨hel, hh⟩ := Bool.or_eq_false_iff.1 plain
    obtain ⟨he, hl⟩ := Bool.or_eq_false_iff.1 hel
    exact (ih he).between (ihl hl) (ihh hh) negated

theorem Expr.selects_iff {e : Expr} {headers : Headers} :
    e.selects headers = true ↔ e.evaluate headers = some (.bool true) := by
  unfold Expr.selects
  constructor
  · intro h
    split at h
    · assumption
    · cases h
  · intro h
    rw [h]

/-- **Only `IS NULL` sees that a header is missing**: an expression without it that has a value under some headers has
the same value under these and further ones.  So a message that is selected stays selected when headers are added to it,
and one for which the selector is false does not come to be selected. -/
theorem evaluate_extended (s : Selector) (plain : s.expression.testsNull = false) (headers more : Headers)
    (ext : headers.Extends more) :
    (∀ value, s.expression.evaluate headers = some value → s.expression.evaluate more = some value) ∧
      (s.selects headers = true → s.selects more = true) ∧
      (s.expression.evaluate headers = some (.bool false) → s.selects more = false) := by
  have keeps := Expr.learns_evaluate ext s.expression plain
  refine ⟨keeps, fun h => ?_, fun h => ?_⟩
  · exact Expr.selects_iff.2 (keeps _ (Expr.selects_iff.1 h))
  · unfold Selector.selects Expr.selects
    rw [keeps _ h]

/-- `kind NOT IN ('spam') AND (size BETWEEN 1 AND 9 OR urgent)`, before and after the size becomes known. -/
theorem evaluate_extended_size :
    let s : Selector := ⟨"kind NOT IN ('spam') AND (size BETWEEN 1 AND 9 OR urgent)",
      .and (.within (.identifier "kind") [.string "spam"] true)
        (.or (.between (.identifier "size") (.literal (.int 1)) (.literal (.int 9)) false) (.identifier "urgent"))⟩
    let headers : Headers := [("kind", .string "order"), ("urgent", .bool true)]
    let more := headers ++ [("size", .int 20)]
    s.expression.testsNull = false ∧ headers.Extends more ∧ s.selects headers = true ∧ s.selects more = true := by
  intro s headers more
  have plain : s.expression.testsNull = false := by decide
  have ext : headers.Extends more := headers.extends_append _
  have selected : s.selects headers = true := by decide +kernel
  exact ⟨plain, ext, selected, (evaluate_extended s plain headers more ext).2.1 selected⟩

example : (Expr.isNull (.identifier "size") false).selects [] = true ∧
    (Expr.isNull (.identifier "size") false).selects [("size", .int 20)] = false := by decide

end Selector
end MessageBroker
