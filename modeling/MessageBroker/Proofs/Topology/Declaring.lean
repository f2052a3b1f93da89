import MessageBroker.Config.Apply
import MessageBroker.Proofs.Topology.Contents
/-!
# Declarations, one by one

On the list of what a registry comprises a declaration has a meaning of its own: whether it fits what there is, and what
there is once it is made (`Declaration.Fits`, `Declaration.made`).  The broker makes the declarations that fit and
refuses the others (`declare_declared`), and so it does with many in turn (`declareAll_declared`).
-/
namespace MessageBroker

/-! ## What a declaration means -/

/-- The alternate that a name stands for. -/
def toward (names : List String) (alternate : String) : Alternate := ⟨alternate, names.idxOf alternate⟩

/-- Whether a destination may have an alternate: another one, which is there, and is durable if it is. -/
def MayFallBack (xs : List Destination) (name : String) (durable : Bool) (alternate : String) : Prop :=
  alternate ≠ name ∧ ∃ y ∈ xs, y.name = alternate ∧ (durable = true → y.durable = true)

def QueueDeclaration.destination (q : QueueDeclaration) (settings : HostSettings) (names : List String) : Destination :=
  .newQueue q.name q.durable (q.capacity <|> settings.queueCapacity) (q.alternate.map (toward names))

def ExchangeDeclaration.destination (e : ExchangeDeclaration) (names : List String) : Destination :=
  .newExchange e.name e.type e.durable false (e.alternate.map (toward names))

def BindingDeclaration.binding (d : BindingDeclaration) (names : List String) : Binding :=
  ⟨d.key, names.idxOf d.destination, d.arguments, d.arguments.selector.toOption.join⟩

/-- A destination when an alternate was set, which may be another's. -/
def Destination.setAlternate (x : Destination) (names : List String) (p : String × String) : Destination :=
  if x.name = p.1 then { x with fallback := some (toward names p.2) } else x

/-- A destination when a binding was made, which may be another's. -/
def Destination.bind (x : Destination) (names : List String) (d : BindingDeclaration) : Destination :=
  if x.name = d.exchange then x.mapBindings fun t => (t.bind (d.binding names) d.replace).2 else x

namespace Declaration

/-- What there has to be for a declaration to be made. -/
def Fits (settings : HostSettings) (xs : List Destination) : Declaration → Prop
  | .queue q => q.name ∉ namesOf xs ∧ ∀ a, q.alternate = some a → MayFallBack xs q.name q.durable a
  | .exchange e => e.name.startsWith settings.reservedPrefix = false ∧ e.name ∉ namesOf xs ∧
      ∀ a, e.alternate = some a → MayFallBack xs e.name e.durable a
  | .alternate name a => ∃ x ∈ xs, x.name = name ∧ MayFallBack xs name x.durable a
  | .binding d => (∃ x ∈ xs, x.name = d.exchange ∧ x.kind = .exchange) ∧ (∃ y ∈ xs, y.name = d.destination) ∧
      d.destination ≠ d.exchange ∧ ∃ s, d.arguments.selector = .ok s

/-- What there is once it is made. -/
def made (settings : HostSettings) (xs : List Destination) : Declaration → List Destination
  | .queue q => xs ++ [q.destination settings (namesOf xs)]
  | .exchange e => xs ++ [e.destination (namesOf xs)]
  | .alternate name a => xs.map (·.setAlternate (namesOf xs) (name, a))
  | .binding d => xs.map (·.bind (namesOf xs) d)

end Declaration

namespace Registry.Comprises

variable {r : Registry} {settings : HostSettings} {xs : List Destination} {name : String}

/-- There is only one destination of a name to look at. -/
theorem mayFallBack_iff (h : r.Comprises settings xs) {y : Destination} (hy : y ∈ xs) {durable : Bool} :
    MayFallBack xs name durable y.name ↔ y.name ≠ name ∧ (durable = true → y.durable = true) := by
  unfold MayFallBack
  refine and_congr_right fun _ => ⟨?_, fun hd => ⟨y, hy, rfl, hd⟩⟩
  rintro ⟨z, hz, heq, hd⟩
  rw [← h.eq_of_name hz hy heq]
  exact hd

/-- **An alternate is found just when it is fit.** -/
theorem resolveAlternate_eq_ok (h : r.Comprises settings xs) {asking : Named} {durable : Bool}
    {alternate : Option String} {f : Option Alternate} : r.resolveAlternate asking durable alternate = .ok f ↔
      (∀ a, alternate = some a → MayFallBack xs asking.name durable a) ∧ f = alternate.map (toward (namesOf xs)) := by
  unfold Registry.resolveAlternate
  cases alternate with
  | none => simp [eq_comm]
  | some a =>
    simp only [Option.some.injEq, forall_eq', Option.map_some]
    by_cases hown : a = asking.name
    · rw [if_pos hown]
      exact ⟨fun hok => (by cases hok), fun hfit => absurd hown hfit.1.1⟩
    rw [if_neg hown]
    cases hl : r.lookup a with
    | none =>
      refine ⟨fun hok => (by cases hok), ?_⟩
      rintro ⟨⟨-, y, hy, heq, -⟩, -⟩
      exact absurd (mem_namesOf.2 ⟨y, hy, heq⟩) (h.lookup_eq_none.1 hl)
    | some i =>
      obtain ⟨y, hy, rfl, hmem, rfl⟩ := h.found hl
      rw [h.mayFallBack_iff hmem]
      simp only [hy, Option.map_some, Option.getD_some]
      by_cases hd : (durable && !y.durable) = true
      · rw [if_pos hd]
        simp only [Bool.and_eq_true, Bool.not_eq_true'] at hd
        refine ⟨fun hok => (by cases hok), ?_⟩
        rintro ⟨⟨-, hdur⟩, -⟩
        rw [hdur hd.1] at hd
        cases hd.2
      · rw [if_neg hd]
        have hdur : durable = true → y.durable = true := by
          rintro rfl
          simpa using hd
        rw [Except.ok.injEq, eq_comm]
        exact ⟨fun hf => ⟨⟨hown, hdur⟩, hf⟩, fun hf => hf.2⟩

/-- What the creation of queues and of exchanges ends with: the name has to be free and the alternate fit. -/
theorem create_eq_ok (h : r.Comprises settings xs) (asking : Named) (durable : Bool) (alternate : Option String)
    (make : Option Alternate → Destination) {z : Registry × DestinationId} :
    (if (r.lookup asking.name).isSome then .error (.cannotConfigure asking .nameTaken)
      else do
        let a ← r.resolveAlternate asking durable alternate
        pure (r.add (make a))) = Except.ok z ↔
      (asking.name ∉ namesOf xs ∧ ∀ a, alternate = some a → MayFallBack xs asking.name durable a) ∧
        z = r.add (make (alternate.map (toward (namesOf xs)))) := by
  by_cases hfree : asking.name ∈ namesOf xs
  · rw [h.lookup_of_mem hfree, if_pos (Option.isSome_some)]
    exact ⟨fun hok => (by cases hok), fun hfit => absurd hfree hfit.1.1⟩
  · rw [h.lookup_eq_none.2 hfree, if_neg (by simp)]
    constructor
    · intro hok
      obtain ⟨f, hf, hz⟩ := ok_of_bind hok
      obtain ⟨hfit, rfl⟩ := h.resolveAlternate_eq_ok.1 hf
      cases hz
      exact ⟨⟨hfree, hfit⟩, rfl⟩
    · rintro ⟨⟨-, hfit⟩, rfl⟩
      rw [h.resolveAlternate_eq_ok.2 ⟨hfit, rfl⟩]
      rfl

/-- **A queue is made just when its name is free and its alternate is fit.** -/
theorem createQueue_eq_ok (h : r.Comprises settings xs) {q : QueueDeclaration} {z : Registry × DestinationId} :
    r.createQueue q = .ok z ↔
      (Declaration.queue q).Fits settings xs ∧ z = r.add (q.destination settings (namesOf xs)) := by
  unfold Registry.createQueue
  rw [h.settings]
  exact h.create_eq_ok ⟨.queue, q.name⟩ q.durable q.alternate
    (.newQueue q.name q.durable (q.capacity <|> settings.queueCapacity))

/-- **An exchange is made just when its name is free and not reserved and its alternate is fit.** -/
theorem createExchange_eq_ok (h : r.Comprises settings xs) {e : ExchangeDeclaration} {z : Registry × DestinationId} :
    r.createExchange e = .ok z ↔
      (Declaration.exchange e).Fits settings xs ∧ z = r.add (e.destination (namesOf xs)) := by
  unfold Registry.createExchange Declaration.Fits
  rw [h.settings, and_assoc]
  by_cases hreserved : e.name.startsWith settings.reservedPrefix = true
  · rw [if_pos hreserved]
    refine ⟨fun hok => (by cases hok), fun hfit => ?_⟩
    rw [hfit.1] at hreserved
    cases hreserved
  · rw [if_neg hreserved]
    refine (h.create_eq_ok ⟨.exchange, e.name⟩ e.durable e.alternate (.newExchange e.name e.type e.durable false)).trans ?_
    exact (and_iff_right (Bool.eq_false_iff.2 hreserved)).symm

/-- **An alternate is set just when it is fit for the destination.** -/
theorem setAlternate_eq_ok (h : r.Comprises settings xs) {a : String} {r' : Registry} {d : DestinationId} :
    r.setAlternate name (some a) = .ok (r', d) ↔
      (Declaration.alternate name a).Fits settings xs ∧ r.lookup name = some d ∧
        r' = r.modify d fun x => { x with fallback := some (toward (namesOf xs) a) } := by
  constructor
  · intro hok
    obtain ⟨i, hd, hok⟩ := ok_of_bind hok
    obtain ⟨x, hx, rfl, hmem, -⟩ := h.found (require_ok hd)
    simp only [hx] at hok
    obtain ⟨f, hf, hz⟩ := ok_of_bind hok
    obtain ⟨hfit, rfl⟩ := h.resolveAlternate_eq_ok.1 hf
    cases hz
    exact ⟨⟨x, hmem, rfl, hfit a rfl⟩, require_ok hd, rfl⟩
  · rintro ⟨⟨x, hmem, rfl, hfit⟩, hd, rfl⟩
    obtain ⟨y, hy, heq, hmem', -⟩ := h.found hd
    cases h.eq_of_name hmem hmem' heq.symm
    have hr : r.require x.name = .ok d := by
      unfold Registry.require
      rw [hd]
    have ha : r.resolveAlternate x.named x.durable (some a) = .ok (some (toward (namesOf xs) a)) :=
      h.resolveAlternate_eq_ok.2 ⟨fun _ heq => (by cases heq; exact hfit), rfl⟩
    unfold Registry.setAlternate
    rw [hr, ok_bind]
    simp only [hy]
    rw [ha]
    rfl

theorem lookupExchange_eq_some (h : r.Comprises settings xs) {e : DestinationId} :
    r.lookupExchange name = some e ↔ r.lookup name = some e ∧ ∃ x ∈ xs, x.name = name ∧ x.kind = .exchange := by
  have hkind : ∀ x : Destination, x.exchange?.isSome = true ↔ x.kind = .exchange := by
    rintro ⟨_, _, _, _, _, body⟩
    cases body <;> simp [Destination.exchange?, Destination.kind]
  unfold Registry.lookupExchange
  rw [Option.filter_eq_some_iff]
  refine and_congr_right fun he => ?_
  obtain ⟨x, hx, rfl, hmem, -⟩ := h.found he
  rw [hx, Option.bind_some, hkind]
  refine ⟨fun hx => ⟨x, hmem, rfl, hx⟩, ?_⟩
  rintro ⟨y, hy, heq, hk⟩
  rw [← h.eq_of_name hy hmem heq]
  exact hk

theorem live?_of_lookup (h : r.Comprises settings xs) {d : DestinationId} (hd : r.lookup name = some d) :
    ∃ x, r.live? d = some x ∧ x.name = name ∧ x ∈ xs := by
  obtain ⟨x, hx, hname, hmem, -⟩ := h.found hd
  exact ⟨x, live?_eq_some.2 ⟨hx, h.live x hmem⟩, hname, hmem⟩

theorem lookup_inj (h : r.Comprises settings xs) {name' : String} {d : DestinationId} (hd : r.lookup name = some d)
    (hd' : r.lookup name' = some d) : name = name' :=
  Option.some.inj (((h.lookup _ _).1 hd).symm.trans ((h.lookup _ _).1 hd'))

theorem mapBindings_bind (x : Destination) (b : Binding) (replace : Bool) :
    (x.mapBindings fun _ => (x.bindings.bind b replace).2) = x.mapBindings fun t => (t.bind b replace).2 := by
  obtain ⟨_, _, _, _, _, body⟩ := x
  cases body <;> rfl

/-- **A binding that is made is held beside the others.** -/
theorem bind (h : r.Comprises settings xs) {d : BindingDeclaration} {e t : DestinationId} {r' : Registry}
    {outcome : BindOutcome} (he : r.lookup d.exchange = some e) (ht : r.lookup d.destination = some t)
    (hok : r.bind e t d.key d.arguments d.replace = .ok (r', outcome)) :
    r'.Comprises settings (xs.map (·.bind (namesOf xs) d)) := by
  obtain ⟨x, -, s, hx, -, -, hs, -, rfl⟩ := bind_eq_ok hok
  obtain ⟨y, hy, hname, hmem, -⟩ := h.found he
  obtain ⟨-, -, -, -, hidx⟩ := h.found ht
  cases (live?_eq_some.1 hx).1.symm.trans hy
  have hb : (⟨d.key, t, d.arguments, s⟩ : Binding) = d.binding (namesOf xs) := by
    unfold BindingDeclaration.binding
    rw [hidx, hs]
    rfl
  have hmap : (xs.map fun z => if z.name = d.exchange then z.mapBindings fun _ => (x.bindings.bind
      (d.binding (namesOf xs)) d.replace).2 else z) = xs.map (·.bind (namesOf xs) d) := by
    refine List.map_congr_left fun z hz => ?_
    unfold Destination.bind
    split
    · rename_i hze
      rw [h.eq_of_name hz hmem (hze.trans hname.symm), mapBindings_bind]
    · rfl
  rw [hb, ← hmap]
  refine h.modify he (fun z => ?_) (fun z => ?_) fun z => ?_
  all_goals
    obtain ⟨_, _, _, _, _, body⟩ := z
    cases body <;> rfl

/-- **A binding is made just when it is fit.** -/
theorem bind_eq_ok (h : r.Comprises settings xs) {d : BindingDeclaration} {e t : DestinationId}
    (he : r.lookup d.exchange = some e) (ht : r.lookup d.destination = some t) :
    (∃ z, r.bind e t d.key d.arguments d.replace = .ok z) ↔
      d.destination ≠ d.exchange ∧ ∃ s, d.arguments.selector = .ok s := by
  constructor
  · rintro ⟨⟨r', outcome⟩, hok⟩
    obtain ⟨x, y, s, -, -, hne, hs, -, -⟩ := Registry.bind_eq_ok hok
    refine ⟨fun heq => hne ?_, s, hs⟩
    rw [heq] at ht
    exact Option.some.inj (ht.symm.trans he)
  · rintro ⟨hne, s, hs⟩
    obtain ⟨x, hx, -, -⟩ := h.live?_of_lookup he
    obtain ⟨y, hy, -, -⟩ := h.live?_of_lookup ht
    obtain ⟨hx, hxlive⟩ := live?_eq_some.1 hx
    obtain ⟨hy, hylive⟩ := live?_eq_some.1 hy
    have hte : t ≠ e := fun heq => hne (h.lookup_inj (heq ▸ ht) he)
    unfold Registry.bind
    simp [hx, hy, hte, hxlive, hs, hylive]

end Registry.Comprises

/-! ## Made or refused -/

/-- How a declaration ends, or several: if they fit they are made and the registry comprises what it should, and else
they are refused. -/
inductive Declared (settings : HostSettings) (fits : Prop) (ys : List Destination) :
    Broker × Except ApplyError Unit → Prop
  | made {b : Broker} (fit : fits) (holds : b.registry.Comprises settings ys) : Declared settings fits ys (b, .ok ())
  | refused {b : Broker} {e : ApplyError} (misfit : ¬fits) : Declared settings fits ys (b, .error e)

namespace Declared

variable {settings : HostSettings} {fits : Prop} {ys : List Destination} {z : Broker × Except ApplyError Unit}

theorem eq_ok (h : Declared settings fits ys z) : z.2 = .ok () ↔ fits := by
  cases h with
  | made fit holds => exact iff_of_true rfl fit
  | refused misfit => exact iff_of_false (fun hok => by cases hok) misfit

theorem comprises (h : Declared settings fits ys z) (fit : fits) : z.1.registry.Comprises settings ys := by
  cases h with
  | made _ holds => exact holds
  | refused misfit => exact absurd fit misfit

end Declared

namespace Broker

variable {b : Broker} {settings : HostSettings} {xs : List Destination}

/-- A destination that was made is registered. -/
theorem comprises_created (h : b.registry.Comprises settings xs) {x : Destination} (fresh : x.name ∉ namesOf xs)
    (live : x.deleted = false) :
    (b.created (b.registry.add x).1 (b.registry.add x).2).registry.Comprises settings (xs ++ [x]) := by
  have hx : (b.registry.add x).1.get? (b.registry.add x).2 = some x := by
    rw [Registry.get?_add]
    exact if_pos rfl
  unfold created
  rw [hx]
  exact h.add fresh live

theorem declareBinding_declared (h : b.registry.Comprises settings xs) (d : BindingDeclaration) :
    Declared settings ((Declaration.binding d).Fits settings xs) ((Declaration.binding d).made settings xs)
      (b.declareBinding d) := by
  cases hz : b.registry.endpoints d.exchange d.destination with
  | error e =>
    simp only [declareBinding, bind, hz, refuse]
    refine .refused ?_
    rintro ⟨⟨x, hx, hname, hkind⟩, ⟨y, hy, hdest⟩, -, -⟩
    have he := h.lookupExchange_eq_some.2 ⟨h.lookup_of_mem (mem_namesOf.2 ⟨x, hx, hname⟩), x, hx, hname, hkind⟩
    have ht := h.lookup_of_mem (mem_namesOf.2 ⟨y, hy, hdest⟩)
    have hok : b.registry.endpoints d.exchange d.destination = .ok (_, _) := Registry.endpoints_eq_ok.2 ⟨he, ht⟩
    rw [hok] at hz
    cases hz
  | ok z =>
    obtain ⟨e, t⟩ := z
    obtain ⟨hex, ht⟩ := Registry.endpoints_eq_ok.1 hz
    obtain ⟨he, x, hx, hname, hkind⟩ := h.lookupExchange_eq_some.1 hex
    obtain ⟨y, -, hdest, hy, -⟩ := h.found ht
    have hfits : (Declaration.binding d).Fits settings xs ↔
        ∃ z, b.registry.bind e t d.key d.arguments d.replace = .ok z := by
      rw [h.bind_eq_ok he ht]
      exact ⟨fun fit => fit.2.2, fun fit => ⟨⟨x, hx, hname, hkind⟩, ⟨y, hy, hdest⟩, fit⟩⟩
    cases hok : b.registry.bind e t d.key d.arguments d.replace with
    | error e =>
      simp only [declareBinding, bind, hz, bindTo, hok, refuse]
      refine .refused fun fit => ?_
      obtain ⟨z, heq⟩ := hfits.1 fit
      rw [hok] at heq
      cases heq
    | ok z =>
      obtain ⟨r, outcome⟩ := z
      have fit := hfits.2 ⟨_, hok⟩
      have holds := h.bind he ht hok
      -- a pair that may not be replaced is noticed, but the declaration is not refused
      cases answer : outcome != .refused with
      | true =>
        simp only [declareBinding, bind, hz, bindTo, hok, answer]
        exact .made fit holds
      | false =>
        simp only [declareBinding, bind, hz, bindTo, hok, answer]
        exact .made fit holds

/-- **A declaration is made just when it fits**, and then does what it means. -/
theorem declare_declared (h : b.registry.Comprises settings xs) (d : Declaration) :
    Declared settings (d.Fits settings xs) (d.made settings xs) (b.declare d) := by
  cases d with
  | queue q =>
    cases hz : b.registry.createQueue q with
    | error e =>
      simp only [declare, createQueue, hz, refuse]
      refine .refused fun fit => ?_
      rw [h.createQueue_eq_ok.2 ⟨fit, rfl⟩] at hz
      cases hz
    | ok z =>
      obtain ⟨fit, rfl⟩ := h.createQueue_eq_ok.1 hz
      simp only [declare, createQueue, hz]
      exact .made fit (comprises_created h fit.1 rfl)
  | exchange x =>
    cases hz : b.registry.createExchange x with
    | error e =>
      simp only [declare, createExchange, hz, refuse]
      refine .refused fun fit => ?_
      rw [h.createExchange_eq_ok.2 ⟨fit, rfl⟩] at hz
      cases hz
    | ok z =>
      obtain ⟨fit, rfl⟩ := h.createExchange_eq_ok.1 hz
      simp only [declare, createExchange, hz]
      exact .made fit (comprises_created h fit.2.1 rfl)
  | alternate name a =>
    cases hz : b.registry.setAlternate name (some a) with
    | error e =>
      simp only [declare, setAlternate, hz, refuse]
      refine .refused fun fit => ?_
      obtain ⟨x, hx, hname, -⟩ := id fit
      rw [h.setAlternate_eq_ok.2 ⟨fit, h.lookup_of_mem (mem_namesOf.2 ⟨x, hx, hname⟩), rfl⟩] at hz
      cases hz
    | ok z =>
      obtain ⟨r, d⟩ := z
      obtain ⟨fit, hd, rfl⟩ := h.setAlternate_eq_ok.1 hz
      simp only [declare, setAlternate, hz]
      exact .made fit (h.modify hd (fun _ => rfl) (fun _ => rfl) fun _ => rfl)
  | binding d => exact declareBinding_declared h d

end Broker

/-! ## One after the other -/

namespace Declaration

/-- What there has to be for declarations to be made in turn: each has to fit what there is by then. -/
def AllFit (settings : HostSettings) (xs : List Destination) : List Declaration → Prop
  | [] => True
  | d :: ds => d.Fits settings xs ∧ AllFit settings (d.made settings xs) ds

/-- What there is once declarations are made in turn. -/
def madeAll (settings : HostSettings) (xs : List Destination) (ds : List Declaration) : List Destination :=
  ds.foldl (made settings) xs

theorem allFit_cons {settings : HostSettings} {xs : List Destination} {d : Declaration} {ds : List Declaration} :
    AllFit settings xs (d :: ds) ↔ d.Fits settings xs ∧ AllFit settings (d.made settings xs) ds := Iff.rfl

end Declaration

namespace Broker

variable {b : Broker} {settings : HostSettings} {xs : List Destination}

/-- **Declarations are made just when each fits in its turn.** -/
theorem declareAll_declared : ∀ (ds : List Declaration) {b : Broker} {xs : List Destination},
    b.registry.Comprises settings xs →
      Declared settings (Declaration.AllFit settings xs ds) (Declaration.madeAll settings xs ds) (b.declareAll ds)
  | [], b, xs, h => .made trivial h
  | d :: ds, b, xs, h => by
    unfold declareAll
    cases hd : b.declare d with
    | mk b' answer =>
      have hdeclared := declare_declared h d
      rw [hd] at hdeclared
      cases hdeclared with
      | refused misfit => exact .refused fun fit => misfit fit.1
      | made fit holds =>
        have hrest := declareAll_declared ds holds
        simp only
        cases hds : b'.declareAll ds with
        | mk b'' answer =>
          rw [hds] at hrest
          cases hrest with
          | refused misfit => exact .refused fun fit => misfit fit.2
          | made rest holds => exact .made ⟨fit, rest⟩ holds

end Broker
end MessageBroker
