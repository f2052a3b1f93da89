import MessageBroker.Proofs.Topology.Declaring
/-!
# What a topology comes to

A topology declares profiles, which tell a destination by names alone.  It is valid if they and its bindings agree with
each other (`Topology.Valid`), which does not depend on any order.  It is applied to a new registry just when it is
valid, and the registry then comprises its profiles, with the alternates and the bindings that were declared
(`applyTopology_declared`).
-/
namespace MessageBroker

inductive Profile.Body where
  | queue (capacity : Option Nat)
  | exchange (type : ExchangeType) (system : Bool)
deriving DecidableEq, Repr

/-- What there is to say of a destination by names alone. -/
structure Profile where
  name : String
  durable : Bool
  alternate : Option String
  body : Profile.Body
deriving DecidableEq, Repr

namespace Profile

def kind (p : Profile) : DestinationKind :=
  match p.body with
  | .queue _ => .queue
  | .exchange _ _ => .exchange

/-- A destination as it is made, with no alternate yet. -/
def blank (p : Profile) : Destination :=
  match p.body with
  | .queue capacity => .newQueue p.name p.durable capacity none
  | .exchange type system => .newExchange p.name type p.durable system none

@[simp] theorem name_blank (p : Profile) : p.blank.name = p.name := by
  unfold blank
  split <;> rfl

@[simp] theorem durable_blank (p : Profile) : p.blank.durable = p.durable := by
  unfold blank
  split <;> rfl

@[simp] theorem kind_blank (p : Profile) : p.blank.kind = p.kind := by
  unfold blank kind
  split <;> rfl

@[simp] theorem fallback_blank (p : Profile) : p.blank.fallback = none := by
  unfold blank
  split <;> rfl

@[simp] theorem bindings_blank (p : Profile) : p.blank.bindings = .empty := by
  unfold blank
  split <;> rfl

end Profile

def Destination.profile (x : Destination) : Profile where
  name := x.name
  durable := x.durable
  alternate := x.alternateName
  body := match x.body with
    | .queue q => .queue q.capacity
    | .exchange e => .exchange e.type e.system

/-- A queue that does not say has the capacity of the virtual host. -/
def QueueDeclaration.profile (settings : HostSettings) (q : QueueDeclaration) : Profile where
  name := q.name
  durable := q.durable
  alternate := q.alternate
  body := .queue (q.capacity <|> settings.queueCapacity)

def ExchangeDeclaration.profile (e : ExchangeDeclaration) : Profile where
  name := e.name
  durable := e.durable
  alternate := e.alternate
  body := .exchange e.type false

def systemProfiles : List Profile := Registry.systemExchanges.map Destination.profile

namespace Topology

/-- The destinations that there are to be: the system exchanges and the declared ones. -/
def profiles (t : Topology) (settings : HostSettings) : List Profile :=
  systemProfiles ++ t.queues.map (·.profile settings) ++ t.exchanges.map (·.profile)

/-- **A topology that can be applied**: each name is given once and none is reserved, and what is referred to is there
and is fit to be. -/
structure Valid (t : Topology) (settings : HostSettings) : Prop where
  distinct : ((t.profiles settings).map Profile.name).Nodup
  free : ∀ e ∈ t.exchanges, e.name.startsWith settings.reservedPrefix = false
  alternates : ∀ p ∈ t.profiles settings, ∀ a, p.alternate = some a →
    a ≠ p.name ∧ ∃ y ∈ t.profiles settings, y.name = a ∧ (p.durable = true → y.durable = true)
  bindings : ∀ d ∈ t.bindings,
    (∃ p ∈ t.profiles settings, p.name = d.exchange ∧ p.kind = .exchange) ∧
      (∃ y ∈ t.profiles settings, y.name = d.destination) ∧
      d.destination ≠ d.exchange ∧ ∃ s, d.arguments.selector = .ok s

/-- Who is to have which alternate. -/
def alternates (t : Topology) : List (String × String) :=
  t.queues.filterMap (fun q => q.alternate.map (q.name, ·))
    ++ t.exchanges.filterMap fun e => e.alternate.map (e.name, ·)

/-- The destinations as they are made. -/
def blanks (t : Topology) (settings : HostSettings) : List Destination := (t.profiles settings).map Profile.blank

/-- A destination with its alternate and its bindings. -/
def finish (t : Topology) (names : List String) (x : Destination) : Destination :=
  t.bindings.foldl (·.bind names) (t.alternates.foldl (·.setAlternate names) x)

/-- What a registry comprises when the topology has been applied. -/
def destinations (t : Topology) (settings : HostSettings) : List Destination :=
  (t.blanks settings).map (t.finish (namesOf (t.blanks settings)))

end Topology

/-! ## Passes -/

namespace Declaration

variable {settings : HostSettings} {xs : List Destination}

theorem allFit_append : ∀ {ds ds' : List Declaration} {xs : List Destination},
    AllFit settings xs (ds ++ ds') ↔ AllFit settings xs ds ∧ AllFit settings (madeAll settings xs ds) ds'
  | [], ds', xs => (iff_of_eq (true_and _)).symm
  | d :: ds, ds', xs => by
    rw [List.cons_append, allFit_cons, allFit_cons, allFit_append, and_assoc]
    rfl

theorem madeAll_append {ds ds' : List Declaration} :
    madeAll settings xs (ds ++ ds') = madeAll settings (madeAll settings xs ds) ds' := List.foldl_append

/-- Declarations that each make a destination of their own. -/
structure Creating {α : Type} (settings : HostSettings) (f : α → Declaration) (x : α → Destination) (P : α → Prop) :
    Prop where
  made : ∀ a xs, (f a).made settings xs = xs ++ [x a]
  fits : ∀ a xs, (f a).Fits settings xs ↔ P a ∧ (x a).name ∉ namesOf xs

namespace Creating

variable {α : Type} {f : α → Declaration} {x : α → Destination} {P : α → Prop}

theorem madeAll (h : Creating settings f x P) :
    ∀ (as : List α) (xs : List Destination), madeAll settings xs (as.map f) = xs ++ as.map x
  | [], xs => (List.append_nil xs).symm
  | a :: as, xs => by
    have ih := h.madeAll as (xs ++ [x a])
    unfold Declaration.madeAll at ih ⊢
    rw [List.map_cons, List.foldl_cons, h.made, ih, List.append_assoc]
    rfl

/-- They can be made just when no name comes twice. -/
theorem allFit (h : Creating settings f x P) : ∀ (as : List α) (xs : List Destination), (namesOf xs).Nodup →
    (AllFit settings xs (as.map f) ↔ (∀ a ∈ as, P a) ∧ (namesOf (xs ++ as.map x)).Nodup)
  | [], xs, distinct => by simp [AllFit, distinct]
  | a :: as, xs, distinct => by
    have happend : xs ++ (a :: as).map x = (xs ++ [x a]) ++ as.map x := by
      rw [List.append_assoc]
      rfl
    have hnames : (namesOf (xs ++ [x a])).Nodup ↔ (x a).name ∉ namesOf xs := by
      unfold namesOf
      rw [List.map_append, List.nodup_append_comm]
      exact List.nodup_cons.trans (and_iff_left distinct)
    rw [List.map_cons, List.forall_mem_cons, happend, allFit_cons, h.fits, h.made, and_assoc]
    constructor
    · rintro ⟨ha, fresh, hrest⟩
      obtain ⟨hall, hnodup⟩ := (h.allFit as _ (hnames.2 fresh)).1 hrest
      exact ⟨⟨ha, hall⟩, hnodup⟩
    · rintro ⟨⟨ha, hall⟩, hnodup⟩
      have hpre : (namesOf (xs ++ [x a])).Nodup := by
        unfold namesOf at hnodup ⊢
        rw [List.map_append] at hnodup
        exact hnodup.of_append_left
      exact ⟨ha, hnames.1 hpre, (h.allFit as _ hpre).2 ⟨hall, hnodup⟩⟩

end Creating

/-- Two destinations that every declaration takes alike. -/
structure Outlined (x y : Destination) : Prop where
  name : x.name = y.name
  durable : x.durable = y.durable
  kind : x.kind = y.kind

theorem Outlined.trans {x y z : Destination} (h : Outlined x y) (h' : Outlined y z) : Outlined x z :=
  ⟨h.name.trans h'.name, h.durable.trans h'.durable, h.kind.trans h'.kind⟩

/-- Declarations that each change destinations, but not what others look at. -/
structure Adjusting {α : Type} (settings : HostSettings) (f : α → Declaration)
    (g : List String → α → Destination → Destination) : Prop where
  made : ∀ a xs, (f a).made settings xs = xs.map (g (namesOf xs) a)
  outlined : ∀ names a x, Outlined (g names a x) x

theorem namesOf_map {g : Destination → Destination} (h : ∀ x, Outlined (g x) x) (xs : List Destination) :
    namesOf (xs.map g) = namesOf xs := by
  unfold namesOf
  rw [List.map_map]
  exact List.map_congr_left fun x _ => (h x).name

/-- What is looked at decides what fits. -/
theorem fits_map {g : Destination → Destination} (h : ∀ x, Outlined (g x) x) (d : Declaration) :
    d.Fits settings (xs.map g) ↔ d.Fits settings xs := by
  have hfall : ∀ name durable a, MayFallBack (xs.map g) name durable a ↔ MayFallBack xs name durable a := by
    intro name durable a
    simp only [MayFallBack, List.mem_map, exists_exists_and_eq_and, (h _).name, (h _).durable]
  cases d with
  | queue q => simp only [Fits, namesOf_map h, hfall]
  | exchange e => simp only [Fits, namesOf_map h, hfall]
  | alternate name a => simp only [Fits, List.mem_map, exists_exists_and_eq_and, hfall, (h _).name, (h _).durable]
  | binding d => simp only [Fits, List.mem_map, exists_exists_and_eq_and, (h _).name, (h _).kind]

namespace Adjusting

variable {α : Type} {f : α → Declaration} {g : List String → α → Destination → Destination}

theorem madeAll (h : Adjusting settings f g) : ∀ (as : List α) (xs : List Destination),
    madeAll settings xs (as.map f) = xs.map fun x => as.foldl (fun x a => g (namesOf xs) a x) x
  | [], xs => (List.map_id xs).symm
  | a :: as, xs => by
    have ih := h.madeAll as (xs.map (g (namesOf xs) a))
    unfold Declaration.madeAll at ih ⊢
    rw [List.map_cons, List.foldl_cons, h.made, ih, namesOf_map (h.outlined _ a), List.map_map]
    rfl

theorem outlined_foldl (h : Adjusting settings f g) (names : List String) :
    ∀ (as : List α) (x : Destination), Outlined (as.foldl (fun x a => g names a x) x) x
  | [], _ => ⟨rfl, rfl, rfl⟩
  | a :: as, x => (h.outlined_foldl names as (g names a x)).trans (h.outlined names a x)

/-- They can be made just when each of them can be made first. -/
theorem allFit (h : Adjusting settings f g) : ∀ (as : List α) (xs : List Destination),
    AllFit settings xs (as.map f) ↔ ∀ a ∈ as, (f a).Fits settings xs
  | [], xs => by simp [AllFit]
  | a :: as, xs => by
    rw [List.map_cons, List.forall_mem_cons, allFit_cons, h.made, h.allFit as]
    simp only [fits_map (h.outlined (namesOf xs) a)]

end Adjusting

theorem creating_queues (settings : HostSettings) :
    Creating settings (fun q : QueueDeclaration => .queue { q with alternate := none })
      (fun q => (q.profile settings).blank) fun _ => True where
  made := fun _ _ => rfl
  fits := fun q xs => by simp [Fits, QueueDeclaration.profile]

theorem creating_exchanges (settings : HostSettings) :
    Creating settings (fun e : ExchangeDeclaration => .exchange { e with alternate := none }) (fun e => e.profile.blank)
      fun e => e.name.startsWith settings.reservedPrefix = false where
  made := fun _ _ => rfl
  fits := fun e xs => by simp [Fits, ExchangeDeclaration.profile]

theorem adjusting_alternates (settings : HostSettings) :
    Adjusting settings (fun p : String × String => .alternate p.1 p.2) fun names p x => x.setAlternate names p where
  made := fun _ _ => rfl
  outlined := fun names p x => by
    unfold Destination.setAlternate
    split
    · exact ⟨rfl, rfl, rfl⟩
    · exact ⟨rfl, rfl, rfl⟩

theorem outlined_mapBindings (x : Destination) (f : BindingTable → BindingTable) : Outlined (x.mapBindings f) x := by
  obtain ⟨_, _, _, _, _, body⟩ := x
  cases body <;> exact ⟨rfl, rfl, rfl⟩

theorem adjusting_bindings (settings : HostSettings) :
    Adjusting settings .binding fun names d x => x.bind names d where
  made := fun _ _ => rfl
  outlined := fun names d x => by
    unfold Destination.bind
    split
    · exact outlined_mapBindings x _
    · exact ⟨rfl, rfl, rfl⟩

end Declaration

namespace Topology

open Declaration

variable {settings : HostSettings} {t : Topology}

theorem namesOf_blanks (t : Topology) (settings : HostSettings) :
    namesOf (t.blanks settings) = (t.profiles settings).map Profile.name := by
  unfold namesOf blanks
  rw [List.map_map]
  exact List.map_congr_left fun p _ => p.name_blank

theorem blanks_eq (t : Topology) (settings : HostSettings) : t.blanks settings =
    Registry.systemExchanges ++ t.queues.map (fun q => (q.profile settings).blank)
      ++ t.exchanges.map fun e => e.profile.blank := by
  unfold blanks profiles
  rw [List.map_append, List.map_append, List.map_map, List.map_map]
  rfl

/-- The steps, pass by pass. -/
theorem steps_eq (t : Topology) : t.steps = t.queues.map (fun q => .queue { q with alternate := none })
    ++ t.exchanges.map (fun e => .exchange { e with alternate := none })
    ++ t.alternates.map (fun p => .alternate p.1 p.2) ++ t.bindings.map .binding := by
  unfold steps alternates
  rw [List.map_append, List.map_filterMap, List.map_filterMap, ← List.append_assoc]
  simp only [Option.map_map]
  rfl

theorem made_steps (t : Topology) (settings : HostSettings) :
    madeAll settings Registry.systemExchanges t.steps = t.destinations settings := by
  simp only [steps_eq, madeAll_append, (creating_queues settings).madeAll, (creating_exchanges settings).madeAll,
    ← blanks_eq, (adjusting_alternates settings).madeAll, (adjusting_bindings settings).madeAll]
  rw [List.map_map,
    namesOf_map ((adjusting_alternates settings).outlined_foldl _ t.alternates)]
  rfl

theorem alternates_eq (t : Topology) (settings : HostSettings) :
    t.alternates = (t.profiles settings).filterMap fun p => p.alternate.map (p.name, ·) := by
  unfold alternates profiles
  rw [List.filterMap_append, List.filterMap_append, List.filterMap_map, List.filterMap_map]
  rfl

theorem mem_alternates (settings : HostSettings) {name a : String} :
    (name, a) ∈ t.alternates ↔ ∃ p ∈ t.profiles settings, p.name = name ∧ p.alternate = some a := by
  rw [alternates_eq t settings, List.mem_filterMap]
  refine exists_congr fun p => and_congr_right fun _ => ?_
  cases p.alternate <;> simp

theorem eq_of_name (distinct : ((t.profiles settings).map Profile.name).Nodup) {p y : Profile}
    (hp : p ∈ t.profiles settings) (hy : y ∈ t.profiles settings) (heq : p.name = y.name) : p = y :=
  List.inj_on_of_nodup_map distinct hp hy heq

theorem mayFallBack_blanks {name a : String} {durable : Bool} :
    MayFallBack (t.blanks settings) name durable a ↔
      a ≠ name ∧ ∃ y ∈ t.profiles settings, y.name = a ∧ (durable = true → y.durable = true) := by
  simp only [MayFallBack, blanks, List.mem_map, exists_exists_and_eq_and, Profile.name_blank, Profile.durable_blank]

/-- The alternates fit what was made just when they are valid. -/
theorem fits_alternates (distinct : ((t.profiles settings).map Profile.name).Nodup) :
    (∀ z ∈ t.alternates, (Declaration.alternate z.1 z.2).Fits settings (t.blanks settings)) ↔
      ∀ p ∈ t.profiles settings, ∀ a, p.alternate = some a →
        a ≠ p.name ∧ ∃ y ∈ t.profiles settings, y.name = a ∧ (p.durable = true → y.durable = true) := by
  have hfits : ∀ name a, (Declaration.alternate name a).Fits settings (t.blanks settings) ↔ ∃ p ∈ t.profiles settings,
      p.name = name ∧ MayFallBack (t.blanks settings) name p.durable a := fun name a => by
    simp only [Fits, blanks, List.mem_map, exists_exists_and_eq_and, Profile.name_blank, Profile.durable_blank]
  constructor
  · intro h p hp a ha
    obtain ⟨y, hy, hname, hfall⟩ := (hfits _ _).1 (h (p.name, a) ((mem_alternates settings).2 ⟨p, hp, rfl, ha⟩))
    rw [eq_of_name distinct hy hp hname] at hfall
    exact mayFallBack_blanks.1 hfall
  · rintro h ⟨name, a⟩ hz
    obtain ⟨p, hp, rfl, ha⟩ := (mem_alternates settings).1 hz
    exact (hfits _ _).2 ⟨p, hp, rfl, mayFallBack_blanks.2 (h p hp a ha)⟩

/-- **The steps fit in turn just when the topology is valid.** -/
theorem allFit_steps (t : Topology) (settings : HostSettings) :
    AllFit settings Registry.systemExchanges t.steps ↔ t.Valid settings := by
  have hqueues := (creating_queues settings).allFit t.queues Registry.systemExchanges (by decide)
  have hexchanges := (creating_exchanges settings).allFit t.exchanges
    (Registry.systemExchanges ++ t.queues.map fun q => (q.profile settings).blank)
  rw [← blanks_eq, namesOf_blanks] at hexchanges
  have hbinding : ∀ d : BindingDeclaration, (Declaration.binding d).Fits settings (t.blanks settings) ↔
      (∃ p ∈ t.profiles settings, p.name = d.exchange ∧ p.kind = .exchange) ∧
        (∃ y ∈ t.profiles settings, y.name = d.destination) ∧
        d.destination ≠ d.exchange ∧ ∃ s, d.arguments.selector = .ok s := fun d => by
    simp only [Fits, blanks, List.mem_map, exists_exists_and_eq_and, Profile.name_blank, Profile.kind_blank]
  simp only [steps_eq, allFit_append, madeAll_append, (creating_queues settings).madeAll,
    (creating_exchanges settings).madeAll, ← blanks_eq, (adjusting_alternates settings).madeAll,
    (adjusting_bindings settings).allFit, (adjusting_alternates settings).allFit,
    fits_map ((adjusting_alternates settings).outlined_foldl _ t.alternates), hbinding]
  constructor
  · rintro ⟨⟨⟨hq, he⟩, ha⟩, hb⟩
    obtain ⟨free, distinct⟩ := (hexchanges (hqueues.1 hq).2).1 he
    exact ⟨distinct, free, (fits_alternates distinct).1 ha, hb⟩
  · intro h
    have hfirst : (namesOf (Registry.systemExchanges ++ t.queues.map fun q => (q.profile settings).blank)).Nodup := by
      have distinct := h.distinct
      rw [← namesOf_blanks, blanks_eq, namesOf, List.map_append] at distinct
      exact distinct.of_append_left
    exact ⟨⟨⟨hqueues.2 ⟨fun _ _ => trivial, hfirst⟩, (hexchanges hfirst).2 ⟨h.free, h.distinct⟩⟩,
      (fits_alternates h.distinct).2 h.alternates⟩, h.bindings⟩

end Topology

/-- **A topology is applied to a new registry just when it is valid**, and the registry then comprises what was
declared. -/
theorem Broker.applyTopology_declared {b : Broker} {settings : HostSettings} (new : b.registry = .new settings)
    (t : Topology) : Declared settings (t.Valid settings) (t.destinations settings) (b.applyTopology t) := by
  have holds : b.registry.Comprises settings Registry.systemExchanges := by
    rw [new]
    exact .new settings
  have hall := declareAll_declared t.steps holds
  rw [Topology.allFit_steps, Topology.made_steps] at hall
  unfold applyTopology
  cases hsteps : b.declareAll t.steps with
  | mk b' answer =>
    rw [hsteps] at hall
    cases hall with
    | refused misfit => exact .refused misfit
    | made fit holds => exact .made fit holds

end MessageBroker
