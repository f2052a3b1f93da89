import MessageBroker.Proofs.Selector.Extending
import MessageBroker.Proofs.Selector.Rewriting
/-!
# What `BETWEEN` and `IN` are short for

`BETWEEN` is short for two comparisons (`Expr.bounds`), and `IN` for a chain of equalities (`Expr.equalities`).  Each has
the value of what it is short for but in one case.  `BETWEEN` wants to know both comparisons, and is unknown where one of
them is false and the other unknown (`between_or_bounds`).  `IN` takes a literal that the operand does not compare with
for one that it differs from, and is false where no literal is equal and one is such (`within_or_equalities`).
-/
namespace MessageBroker.Selector

/-! ## Learning more of a part -/

/-- **Rewriting by a law from left to right**: any number of times and at any depth, but for what `IS NULL` asks of. -/
inductive Expr.Informs (law : Expr → Expr → Prop) : Expr → Expr → Prop where
  | law {e e' : Expr} (h : law e e') : Informs law e e'
  | refl (e : Expr) : Informs law e e
  | trans {e e' e'' : Expr} (h : Informs law e e') (h' : Informs law e' e'') : Informs law e e''
  | compare {l l' r r' : Expr} (op : Comparison) (left : Informs law l l') (right : Informs law r r') :
      Informs law (.compare l op r) (.compare l' op r')
  | and {l l' r r' : Expr} (left : Informs law l l') (right : Informs law r r') : Informs law (.and l r) (.and l' r')
  | or {l l' r r' : Expr} (left : Informs law l l') (right : Informs law r r') : Informs law (.or l r) (.or l' r')
  | not {e e' : Expr} (operand : Informs law e e') : Informs law (.not e) (.not e')
  | within {e e' : Expr} (values : List HeaderValue) (negated : Bool) (operand : Informs law e e') :
      Informs law (.within e values negated) (.within e' values negated)
  | like {e e' : Expr} (pattern : List Wildcard) (negated : Bool) (operand : Informs law e e') :
      Informs law (.like e pattern negated) (.like e' pattern negated)
  | between {e e' low low' high high' : Expr} (negated : Bool) (operand : Informs law e e')
      (bottom : Informs law low low') (top : Informs law high high') :
      Informs law (.between e low high negated) (.between e' low' high' negated)

variable {headers : Headers}

/-- **What is known stays as it is** where parts are rewritten whose known values stay as they are. -/
theorem Expr.Informs.learns {law : Expr → Expr → Prop} {e e' : Expr}
    (sound : ∀ e e', law e e' → Learns (e.evaluate headers) (e'.evaluate headers)) (h : Informs law e e') :
    Learns (e.evaluate headers) (e'.evaluate headers) := by
  induction h with
  | law h => exact sound _ _ h
  | refl e => exact learns_refl _
  | trans h h' ih ih' => exact fun value hv => ih' value (ih value hv)
  | compare op left right ihl ihr => exact (ihl.compare? op ihr).map _
  | and left right ihl ihr => exact (ihl.truth.conj ihr.truth).map _
  | or left right ihl ihr => exact (ihl.truth.disj ihr.truth).map _
  | not operand ih => exact ih.truth.map _
  | within values negated operand ih => exact ih.map _
  | like pattern negated operand ih => exact Learns.like ih pattern negated
  | between negated operand bottom top ih ihl ihh => exact Learns.between ih ihl ihh negated

/-- So what was selected still is. -/
theorem selects_of_learns {s s' : Selector}
    (h : Learns (s.expression.evaluate headers) (s'.expression.evaluate headers)) (selected : s.selects headers = true) :
    s'.selects headers = true :=
  Expr.selects_iff.2 (h _ (Expr.selects_iff.1 selected))

theorem selects_congr {s s' : Selector}
    (h : s.expression.evaluate headers = s'.expression.evaluate headers) : s.selects headers = s'.selects headers := by
  unfold Selector.selects Expr.selects
  rw [h]

/-! ## `BETWEEN` -/

/-- Both, once both are known. -/
def both (a b : Option Bool) : Option Bool := a.bind fun a => b.bind fun b => some (a && b)

/-- One is false and the other unknown. -/
def torn : Option Bool → Option Bool → Bool
  | some false, none | none, some false => true
  | _, _ => false

theorem both_eq_conj : ∀ a b : Option Bool, torn a b = false → both a b = conj a b := by decide

theorem both_of_torn : ∀ a b : Option Bool, torn a b = true → both a b = none := by decide

theorem conj_of_torn : ∀ a b : Option Bool, torn a b = true → conj a b = some false := by decide

namespace Expr

/-- `x >= low AND x <= high`, or the negation of that. -/
def bounds (x low high : Expr) (negated : Bool) : Expr :=
  let both := Expr.and (.compare x .ge low) (.compare x .le high)
  if negated then .not both else both

/-- A `BETWEEN`, and what it is short for. -/
inductive Bounds : Expr → Expr → Prop where
  | between (x low high : Expr) (negated : Bool) : Bounds (.between x low high negated) (.bounds x low high negated)

/-- One of the comparisons that a `BETWEEN` is short for is false and the other unknown. -/
def torn (headers : Headers) : Expr → Bool
  | .between x low high _ => Selector.torn (compare? .ge (x.evaluate headers) (low.evaluate headers))
      (compare? .le (x.evaluate headers) (high.evaluate headers))
  | _ => false

variable {x low high : Expr} {negated : Bool}

theorem evaluate_between : (Expr.between x low high negated).evaluate headers =
    ((both (compare? .ge (x.evaluate headers) (low.evaluate headers))
      (compare? .le (x.evaluate headers) (high.evaluate headers))).map (· != negated)).map .bool := by
  unfold both
  rw [Option.map_map, Option.map_bind]
  simp only [Function.comp_def, Option.map_bind, Option.map_some]
  rfl

theorem evaluate_bounds : (bounds x low high negated).evaluate headers =
    ((conj (compare? .ge (x.evaluate headers) (low.evaluate headers))
      (compare? .le (x.evaluate headers) (high.evaluate headers))).map (· != negated)).map .bool := by
  have joined : (Expr.and (.compare x .ge low) (.compare x .le high)).evaluate headers =
      (conj (compare? .ge (x.evaluate headers) (low.evaluate headers))
        (compare? .le (x.evaluate headers) (high.evaluate headers))).map .bool := by
    rw [evaluate_and]
    simp only [evaluate, truth_bool]
  unfold bounds
  cases negated with
  | false => simp [joined]
  | true => simp [evaluate_not, joined, neg]

/-- **Unless one comparison is false and the other unknown**, it makes no difference whether both are wanted or they are
joined as truth values. -/
theorem evaluate_between_eq (whole : (Expr.between x low high negated).torn headers = false) :
    (Expr.between x low high negated).evaluate headers = (bounds x low high negated).evaluate headers := by
  rw [evaluate_between, evaluate_bounds, both_eq_conj _ _ whole]

theorem evaluate_between_of_torn (torn : (Expr.between x low high negated).torn headers = true) :
    (Expr.between x low high negated).evaluate headers = none := by
  rw [evaluate_between, both_of_torn _ _ torn]
  rfl

theorem evaluate_bounds_of_torn (torn : (Expr.between x low high negated).torn headers = true) :
    (bounds x low high negated).evaluate headers = some (.bool negated) := by
  rw [evaluate_bounds, conj_of_torn _ _ torn]
  cases negated <;> rfl

/-- What a `BETWEEN` is short for is known where it is. -/
theorem Bounds.learns {e e' : Expr} (h : Bounds e e') : Learns (e.evaluate headers) (e'.evaluate headers) := by
  obtain ⟨x, low, high, negated⟩ := h
  cases torn : (Expr.between x low high negated).torn headers with
  | false =>
    rw [evaluate_between_eq torn]
    exact learns_refl _
  | true =>
    rw [evaluate_between_of_torn torn]
    exact learns_none _

end Expr

/-- **`BETWEEN` is the two comparisons that it is short for**, joined by `AND` and negated by `NOT`, unless one of them
is false and the other unknown; then it is unknown, plain and negated, where they are false.  So the one may stand for
the other anywhere in a selector as far as this does not come up; and the comparisons, which know more, may stand for it
anywhere but beneath `IS NULL` without losing a message. -/
theorem between_or_bounds (headers : Headers) :
    (∀ (x low high : Expr) (negated : Bool),
      let e := Expr.between x low high negated
      (e.torn headers = false → e.evaluate headers = (Expr.bounds x low high negated).evaluate headers) ∧
        (e.torn headers = true → e.evaluate headers = none ∧
          (Expr.bounds x low high negated).evaluate headers = some (.bool negated))) ∧
      (∀ s s' : Selector,
        Expr.Rewrites (fun e e' => e.Bounds e' ∧ e.torn headers = false) s.expression s'.expression →
          s.selects headers = s'.selects headers) ∧
      ∀ s s' : Selector, Expr.Informs Expr.Bounds s.expression s'.expression →
        s.selects headers = true → s'.selects headers = true := by
  refine ⟨fun x low high negated => ⟨Expr.evaluate_between_eq, fun torn => ?_⟩, fun s s' h => ?_, fun s s' h => ?_⟩
  · exact ⟨Expr.evaluate_between_of_torn torn, Expr.evaluate_bounds_of_torn torn⟩
  · refine selects_congr (h.evaluate ?_)
    rintro e e' ⟨⟨x, low, high, negated⟩, whole⟩
    exact Expr.evaluate_between_eq whole
  · exact selects_of_learns (h.learns fun _ _ law => law.learns)

/-- `size NOT BETWEEN 1 AND high OR urgent` without a header `high`: written with or without `BETWEEN` it is selected
just where the message is urgent. -/
theorem between_or_bounds_unbounded :
    let size := Expr.identifier "size"
    let e := Expr.between size (.literal (.int 1)) (.identifier "high") true
    let e' := Expr.not (.and (.compare size .ge (.literal (.int 1))) (.compare size .le (.identifier "high")))
    let s : Selector := ⟨"size NOT BETWEEN 1 AND high OR urgent", .or e (.identifier "urgent")⟩
    let s' : Selector := ⟨"NOT (size >= 1 AND size <= high) OR urgent", .or e' (.identifier "urgent")⟩
    let headers : Headers := [("size", .int 20), ("urgent", .bool true)]
    e.torn headers = false ∧ e.evaluate headers = e'.evaluate headers ∧ s.selects headers = s'.selects headers ∧
      s.selects headers = true ∧ s'.selects headers = true := by
  intro size e e' s s' headers
  have law : Expr.Bounds e e' := .between size (.literal (.int 1)) (.identifier "high") true
  have whole : e.torn headers = false := by decide +kernel
  have selected : s.selects headers = true := by decide +kernel
  obtain ⟨values, rewritten, informed⟩ := between_or_bounds headers
  exact ⟨whole, (values size _ _ true).1 whole, rewritten s s' (.or (.law ⟨law, whole⟩) (.refl _)),
    selected, informed s s' (.or (.law law) (.refl _)) selected⟩

/-- **A message that is beyond one bound may be lost where the other bound is missing**: with the comparisons written
out it is selected. -/
theorem between_torn :
    let size := Expr.identifier "size"
    let low := Expr.identifier "low"
    let high := Expr.literal (.int 9)
    let headers : Headers := [("size", .int 20)]
    ((Expr.between size low high true).evaluate headers = none ∧
        (Expr.not (.and (.compare size .ge low) (.compare size .le high))).evaluate headers = some (.bool true)) ∧
      Selector.selects ⟨"size NOT BETWEEN low AND 9", .between size low high true⟩ headers = false ∧
      Selector.selects ⟨"NOT (size >= low AND size <= 9)",
        .not (.and (.compare size .ge low) (.compare size .le high))⟩ headers = true := by
  exact ⟨⟨rfl, rfl⟩, by decide +kernel, by decide +kernel⟩

/-! ## `IN` -/

theorem compare?_ne (l r : Option HeaderValue) : compare? .ne l r = neg (compare? .eq l r) := by
  have same : ∀ v w, order .ne v w = order .eq v w := fun v w => by cases v <;> cases w <;> rfl
  cases l with
  | none => rfl
  | some v =>
    cases r with
    | none => rfl
    | some w =>
      change (order .ne v w).bind _ = neg ((order .eq v w).bind _)
      rw [same]
      cases order .eq v w <;> rfl

/-- **A chain of `OR` is true if one part is**, and else unknown if one part is. -/
theorem foldl_disj (cs : List (Option Bool)) : ∀ c : Option Bool, cs.foldl disj c =
    if (c :: cs).any (· == some true) then some true
    else if (c :: cs).any (·.isNone) then none else some false := by
  induction cs with
  | nil => decide
  | cons d cs ih =>
    intro c
    rw [List.foldl_cons, ih]
    rcases c with _ | _ | _ <;> rcases d with _ | _ | _ <;> simp [disj]

namespace Expr

/-- `x = v OR x = w OR …`, or `x <> v AND x <> w AND …`, to the left. -/
def equalities (x : Expr) (v : HeaderValue) (vs : List HeaderValue) (negated : Bool) : Expr :=
  if negated then vs.foldl (fun e w => .and e (.compare x .ne (.literal w))) (.compare x .ne (.literal v))
  else vs.foldl (fun e w => .or e (.compare x .eq (.literal w))) (.compare x .eq (.literal v))

/-- What an `IN` is short for, and the `IN`. -/
inductive Equalities : Expr → Expr → Prop where
  | within (x : Expr) (v : HeaderValue) (vs : List HeaderValue) (negated : Bool) :
      Equalities (equalities x v vs negated) (.within x (v :: vs) negated)

/-- What comes of comparing an operand with each of some literals. -/
def matches? (headers : Headers) (x : Expr) (vs : List HeaderValue) : List (Option Bool) :=
  vs.map fun v => compare? .eq (x.evaluate headers) (some v)

/-- The operand of an `IN` has a value, which is equal to no literal and does not compare with every one. -/
def blurred (headers : Headers) : Expr → Bool
  | .within x vs _ => (x.evaluate headers).isSome && !(matches? headers x vs).any (· == some true) &&
      (matches? headers x vs).any (·.isNone)
  | _ => false

variable {x : Expr} {v : HeaderValue} {vs : List HeaderValue} {negated : Bool}

theorem evaluate_foldl {f : Option Bool → Option Bool → Option Bool} {join : Expr → Expr → Expr}
    {part : HeaderValue → Expr} {c : HeaderValue → Option Bool}
    (joined : ∀ e e', (join e e').evaluate headers =
      (f (truth (e.evaluate headers)) (truth (e'.evaluate headers))).map .bool)
    (parts : ∀ v, (part v).evaluate headers = (c v).map .bool) : ∀ (vs : List HeaderValue) (e : Expr) (a : Option Bool),
    e.evaluate headers = a.map .bool →
      (vs.foldl (fun e w => join e (part w)) e).evaluate headers = ((vs.map c).foldl f a).map .bool
  | [], _, _, he => he
  | w :: vs, e, a, he => by
    rw [List.foldl_cons, List.map_cons, List.foldl_cons]
    refine evaluate_foldl joined parts vs _ _ ?_
    rw [joined, he, parts, truth_bool, truth_bool]

theorem evaluate_within : (Expr.within x vs negated).evaluate headers =
    if (x.evaluate headers).isSome then some (.bool ((matches? headers x vs).any (· == some true) != negated))
    else none := by
  change (x.evaluate headers).map _ = _
  unfold matches?
  rw [List.any_map]
  cases x.evaluate headers <;> rfl

theorem evaluate_equalities : (equalities x v vs negated).evaluate headers =
    (((matches? headers x vs).foldl disj (compare? .eq (x.evaluate headers) (some v))).map (· != negated)).map .bool := by
  have part : ∀ (op : Comparison) (w : HeaderValue), (Expr.compare x op (.literal w)).evaluate headers =
      (compare? op (x.evaluate headers) (some w)).map .bool := fun _ _ => rfl
  unfold equalities matches?
  cases negated with
  | false =>
    rw [if_neg (by decide), evaluate_foldl (fun _ _ => evaluate_or) (part .eq) vs _ _ (part .eq v)]
    simp
  | true =>
    rw [if_pos rfl, evaluate_foldl (fun _ _ => evaluate_and) (part .ne) vs _ _ (part .ne v)]
    simp only [compare?_ne, List.foldl_map]
    rw [List.foldl_hom neg fun a w => (neg_disj a (compare? .eq (x.evaluate headers) (some w))).symm]
    simp [neg]

/-- What a chain of equalities comes to. -/
theorem evaluate_equalities_eq : (equalities x v vs negated).evaluate headers =
    if (matches? headers x (v :: vs)).any (· == some true) then some (.bool !negated)
    else if (matches? headers x (v :: vs)).any (·.isNone) then none else some (.bool negated) := by
  have all : compare? .eq (x.evaluate headers) (some v) :: matches? headers x vs = matches? headers x (v :: vs) := rfl
  rw [evaluate_equalities, foldl_disj, all]
  split
  · cases negated <;> rfl
  · split
    · rfl
    · cases negated <;> rfl

/-- What is unknown matches nothing and compares with nothing. -/
theorem matches?_of_none (missing : x.evaluate headers = none) : matches? headers x vs = vs.map fun _ => none := by
  unfold matches?
  rw [missing]
  rfl

/-- **Unless the operand has a value that equals no literal and does not compare with every one**, it makes no
difference whether the literals are searched for it or compared with it. -/
theorem evaluate_within_eq (clear : (Expr.within x (v :: vs) negated).blurred headers = false) :
    (Expr.within x (v :: vs) negated).evaluate headers = (equalities x v vs negated).evaluate headers := by
  rw [evaluate_within, evaluate_equalities_eq]
  cases hx : x.evaluate headers with
  | none => simp [matches?_of_none hx]
  | some value =>
    simp only [blurred, hx, Option.isSome_some, Bool.true_and] at clear
    rw [Option.isSome_some, if_pos rfl]
    split
    · rename_i found
      rw [found]
      cases negated <;> rfl
    · rename_i unfound
      rw [Bool.not_eq_true] at unfound
      rw [unfound, Bool.not_false, Bool.true_and] at clear
      rw [unfound, clear, if_neg (by decide)]
      cases negated <;> rfl

theorem evaluate_of_blurred (blurred : (Expr.within x (v :: vs) negated).blurred headers = true) :
    (Expr.within x (v :: vs) negated).evaluate headers = some (.bool negated) ∧
      (equalities x v vs negated).evaluate headers = none := by
  rw [evaluate_within, evaluate_equalities_eq]
  simp only [Expr.blurred, Bool.and_eq_true, Bool.not_eq_true'] at blurred
  obtain ⟨⟨known, unfound⟩, unknown⟩ := blurred
  rw [known, unfound, unknown]
  cases negated <;> exact ⟨rfl, rfl⟩

/-- An `IN` is known where what it is short for is. -/
theorem Equalities.learns {e e' : Expr} (h : Equalities e e') : Learns (e.evaluate headers) (e'.evaluate headers) := by
  obtain ⟨x, v, vs, negated⟩ := h
  cases clear : (Expr.within x (v :: vs) negated).blurred headers with
  | false =>
    rw [evaluate_within_eq clear]
    exact learns_refl _
  | true =>
    rw [(evaluate_of_blurred clear).2]
    exact learns_none _

end Expr

/-- **`IN` is the chain of equalities that it is short for, and `NOT IN` the chain of inequalities**, unless the operand
has a value that equals no literal and does not compare with every one; then the chains are unknown, and `IN` is false
and `NOT IN` true.  So the one may stand for the other anywhere in a selector as far as this does not come up; and `IN`,
which knows more, may stand for its chain anywhere but beneath `IS NULL` without losing a message. -/
theorem within_or_equalities (headers : Headers) :
    (∀ (x : Expr) (v : HeaderValue) (vs : List HeaderValue) (negated : Bool),
      let e := Expr.within x (v :: vs) negated
      (e.blurred headers = false → e.evaluate headers = (Expr.equalities x v vs negated).evaluate headers) ∧
        (e.blurred headers = true → e.evaluate headers = some (.bool negated) ∧
          (Expr.equalities x v vs negated).evaluate headers = none)) ∧
      (∀ s s' : Selector,
        Expr.Rewrites (fun e e' => e.Equalities e' ∧ e'.blurred headers = false) s.expression s'.expression →
          s.selects headers = s'.selects headers) ∧
      ∀ s s' : Selector, Expr.Informs Expr.Equalities s.expression s'.expression →
        s.selects headers = true → s'.selects headers = true := by
  refine ⟨fun x v vs negated => ⟨Expr.evaluate_within_eq, Expr.evaluate_of_blurred⟩, fun s s' h => ?_,
    fun s s' h => ?_⟩
  · refine selects_congr (h.evaluate ?_)
    rintro e e' ⟨⟨x, v, vs, negated⟩, clear⟩
    exact (Expr.evaluate_within_eq clear).symm
  · exact selects_of_learns (h.learns fun _ _ law => law.learns)

/-- `NOT (size IN (1, 2.5) OR name NOT IN ('a', 1))`, where the size is one of the list and the name is none that it
holds, and of another type than one. -/
theorem within_or_equalities_mixed :
    let e := Expr.within (.identifier "size") [.int 1, .float 2.5] false
    let chain := Expr.or (.compare (.identifier "size") .eq (.literal (.int 1)))
      (.compare (.identifier "size") .eq (.literal (.float 2.5)))
    let f := Expr.within (.identifier "name") [.string "a", .int 1] true
    let headers : Headers := [("size", .int 1), ("name", .string "b")]
    let s : Selector := ⟨"size = 1 OR size = 2.5", chain⟩
    let s' : Selector := ⟨"size IN (1, 2.5)", e⟩
    e.blurred headers = false ∧ e.evaluate headers = chain.evaluate headers ∧
      f.blurred headers = true ∧ f.evaluate headers = some (.bool true) ∧
      s.selects headers = s'.selects headers ∧ s.selects headers = true ∧ s'.selects headers = true := by
  intro e chain f headers s s'
  have law : Expr.Equalities chain e := .within (.identifier "size") (.int 1) [.float 2.5] false
  have clear : e.blurred headers = false := by decide +kernel
  have blurred : f.blurred headers = true := by decide +kernel
  have selected : s.selects headers = true := by decide +kernel
  obtain ⟨values, rewritten, informed⟩ := within_or_equalities headers
  exact ⟨clear, (values _ _ _ _).1 clear, blurred, ((values _ _ _ _).2 blurred).1,
    rewritten s s' (.law ⟨law, clear⟩), selected, informed s s' (.law law) selected⟩

/-- **A value of another type than all literals is selected by `NOT IN`**, and not by the inequalities. -/
theorem within_blurred :
    let size := Expr.identifier "size"
    let headers : Headers := [("size", .int 10)]
    ((Expr.within size [.string "10"] false).evaluate headers = some (.bool false) ∧
        (Expr.compare size .eq (.literal (.string "10"))).evaluate headers = none) ∧
      Selector.selects ⟨"size NOT IN ('10')", .within size [.string "10"] true⟩ headers = true ∧
      Selector.selects ⟨"size <> '10'", .compare size .ne (.literal (.string "10"))⟩ headers = false := by
  exact ⟨⟨rfl, rfl⟩, by decide +kernel, by decide +kernel⟩

end MessageBroker.Selector
