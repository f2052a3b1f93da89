import MessageBroker.Proofs.Registry.Charts
import MessageBroker.Proofs.Registry.Consistency
import MessageBroker.Proofs.Topology.Applying
/-!
# A topology that is set up

What the registry shows once a topology is applied, by names: the profiles that were declared, with alternates and
bindings that lead to what they name (`Topology.SetUp`).  The bindings are those that the declarations leave when they
are taken in order (`Topology.bound`).
-/
namespace MessageBroker

/-- Bindings by names alone: from an exchange, with a key, to a destination. -/
abbrev NamedBindings := String → String → String → Option BindingArguments

namespace NamedBindings

def empty : NamedBindings := fun _ _ _ => none

/-- What is bound stays as it is, unless it is to be replaced. -/
def declare (m : NamedBindings) (d : BindingDeclaration) : NamedBindings :=
  if (m d.exchange d.key d.destination).isSome && !d.replace then m
  else fun exchange key name =>
    if (exchange, key, name) = (d.exchange, d.key, d.destination) then some d.arguments else m exchange key name

end NamedBindings

/-- The bindings that the declarations leave, taken in order. -/
def Topology.bound (t : Topology) : NamedBindings := t.bindings.foldl NamedBindings.declare .empty

/-- **A registry in which a topology is set up**, and nothing else is. -/
structure Topology.SetUp (t : Topology) (settings : HostSettings) (r : Registry) : Prop where
  configured : r.settings = settings
  registered : r.toList.map Destination.profile = t.profiles settings
  named : ∀ name d, r.lookup name = some d ↔ ∃ x, r.registered? d = some x ∧ x.name = name
  fresh : ∀ x ∈ r.toList, x.deleted = false ∧ x.links = [] ∧ x.entries = []
  alternates : ∀ x ∈ r.toList, ∀ a, x.fallback = some a → r.lookup a.name = some a.target
  bindings : ∀ exchange key name arguments, t.bound exchange key name = some arguments ↔
    ∃ e x b, r.lookup exchange = some e ∧ r.get? e = some x ∧ b ∈ x.bindings.toList ∧
      b.key = key ∧ r.lookup name = some b.destination ∧ b.arguments = arguments
  leading : ∀ x ∈ r.toList, ∀ b ∈ x.bindings.toList,
    (∃ name, r.lookup name = some b.destination) ∧ b.arguments.selector = .ok b.selector

/-! ## Alternates -/

/-- Among distinct names the one listed for a name is the one found. -/
theorem lookup_eq_some_of_nodup {ps : List (String × String)} (distinct : (ps.map Prod.fst).Nodup) {name a : String} :
    ps.lookup name = some a ↔ (name, a) ∈ ps := by
  induction ps with
  | nil => simp
  | cons p ps ih =>
    obtain ⟨n, v⟩ := p
    rw [List.map_cons, List.nodup_cons] at distinct
    obtain ⟨fresh, distinct⟩ := distinct
    rw [List.lookup_cons, List.mem_cons]
    by_cases hn : name = n
    · subst hn
      have hnot : (name, a) ∉ ps := fun hm => fresh (List.mem_map.2 ⟨_, hm, rfl⟩)
      simp [hnot, eq_comm]
    · rw [beq_eq_false_iff_ne.2 hn]
      simp [hn, ih distinct]

theorem foldl_setAlternate (names : List String) : ∀ {ps : List (String × String)}, (ps.map Prod.fst).Nodup →
    ∀ x : Destination, ps.foldl (·.setAlternate names) x =
      { x with fallback := ((ps.lookup x.name).map (toward names)).or x.fallback }
  | [], _, x => by simp
  | (n, a) :: ps, distinct, x => by
    rw [List.map_cons, List.nodup_cons] at distinct
    obtain ⟨fresh, distinct⟩ := distinct
    rw [List.foldl_cons, foldl_setAlternate names distinct, List.lookup_cons]
    unfold Destination.setAlternate
    by_cases hn : x.name = n
    · have hnone : ps.lookup x.name = none := by
        rw [Option.eq_none_iff_forall_ne_some]
        intro v hv
        exact fresh (List.mem_map.2 ⟨_, (lookup_eq_some_of_nodup distinct).1 hv, hn⟩)
      simp [hn, hn ▸ hnone]
    · rw [beq_eq_false_iff_ne.2 hn, if_neg hn]

namespace Topology

variable {t : Topology} {settings : HostSettings}

theorem nodup_alternates (distinct : ((t.profiles settings).map Profile.name).Nodup) :
    (t.alternates.map Prod.fst).Nodup := by
  have hsub : ∀ ps : List Profile, List.Sublist ((ps.filterMap fun p => p.alternate.map (p.name, ·)).map Prod.fst)
      (ps.map Profile.name) := by
    intro ps
    induction ps with
    | nil => exact List.Sublist.slnil
    | cons p ps ih =>
      cases ha : p.alternate with
      | none =>
        rw [List.filterMap_cons_none (by rw [ha]; rfl)]
        exact ih.cons _
      | some a =>
        rw [List.filterMap_cons_some (by rw [ha]; rfl)]
        exact ih.cons_cons _
  rw [alternates_eq t settings]
  exact (hsub _).nodup distinct

/-- Each destination has the alternate that it was declared with. -/
theorem lookup_alternates (distinct : ((t.profiles settings).map Profile.name).Nodup) {p : Profile}
    (hp : p ∈ t.profiles settings) : t.alternates.lookup p.name = p.alternate := by
  refine Option.ext fun a => ?_
  rw [lookup_eq_some_of_nodup (nodup_alternates distinct), mem_alternates settings]
  constructor
  · rintro ⟨y, hy, heq, ha⟩
    rw [← eq_of_name distinct hy hp heq]
    exact ha
  · exact fun ha => ⟨p, hp, rfl, ha⟩

end Topology

/-! ## Bindings -/

/-- What an exchange has bound by identity is what it has bound by name. -/
def BindingMap.Reads (c : BindingMap) (names : List String) (m : NamedBindings) (exchange : String) : Prop :=
  ∀ key d, c key d = names[d]?.bind (m exchange key)

namespace BindingMap.Reads

variable {c : BindingMap} {names : List String} {m : NamedBindings} {d : BindingDeclaration}

/-- A declaration is nothing to other exchanges. -/
theorem declare_of_ne {exchange : String} (h : c.Reads names m exchange) (hne : exchange ≠ d.exchange) :
    c.Reads names (m.declare d) exchange := by
  intro key i
  rw [h]
  unfold NamedBindings.declare
  split
  · rfl
  · simp [hne]

/-- **Declaring by name is binding by identity.** -/
theorem declare (h : c.Reads names m d.exchange) (distinct : names.Nodup) (hd : d.destination ∈ names) :
    (c.bind d.key (names.idxOf d.destination) d.arguments d.replace).2.Reads names (m.declare d) d.exchange := by
  have hold : ∀ k, c k (names.idxOf d.destination) = m d.exchange k d.destination := fun k => by
    rw [h, getElem?_idxOf hd]
    rfl
  intro key i
  unfold BindingMap.bind NamedBindings.declare
  rw [hold]
  by_cases hkept : ((m d.exchange d.key d.destination).isSome && !d.replace) = true
  · rw [if_pos hkept, if_pos hkept]
    exact h key i
  · rw [if_neg hkept, if_neg hkept]
    simp only [BindingMap.set]
    by_cases hi : i = names.idxOf d.destination
    · rw [hi, getElem?_idxOf hd]
      simp [hold]
    · -- what is at another place has another name
      have hne : ∀ n, names[i]? = some n → n ≠ d.destination := by
        rintro n hname rfl
        exact hi (idxOf_of_getElem? distinct hname).symm
      rw [if_neg (by simp [hi]), h]
      exact Option.bind_congr fun n hname => (if_neg (by simp [hne n hname])).symm

end BindingMap.Reads

namespace Destination

variable {x : Destination} {names : List String} {m : NamedBindings}

/-- A destination is bound as names say. -/
def BoundAs (x : Destination) (names : List String) (m : NamedBindings) : Prop :=
  x.bindings.chart.Reads names m x.name

theorem bindings_mapBindings_of_exchange (hx : x.kind = .exchange) (f : BindingTable → BindingTable) :
    (x.mapBindings f).bindings = f x.bindings := by
  obtain ⟨_, _, _, _, _, body⟩ := x
  cases body with
  | queue q => cases hx
  | exchange e => rfl

/-- **A binding is made for what it names.** -/
theorem BoundAs.bind (h : x.BoundAs names m) (distinct : names.Nodup) {d : BindingDeclaration}
    (hd : d.destination ∈ names) (hx : x.name = d.exchange → x.kind = .exchange) :
    (x.bind names d).BoundAs names (m.declare d) := by
  unfold BoundAs at h ⊢
  unfold Destination.bind
  by_cases hn : x.name = d.exchange
  · have hchart : (x.bindings.bind (d.binding names) d.replace).2.chart =
        (x.bindings.chart.bind d.key (names.idxOf d.destination) d.arguments d.replace).2 :=
      congrArg Prod.snd (x.bindings.chart_bind (d.binding names) d.replace)
    rw [if_pos hn, bindings_mapBindings_of_exchange (hx hn), (Declaration.outlined_mapBindings x _).name, hchart, hn]
    rw [hn] at h
    exact h.declare distinct hd
  · rw [if_neg hn]
    exact h.declare_of_ne hn

theorem BoundAs.foldl_bind (distinct : names.Nodup) : ∀ {ds : List BindingDeclaration} {x : Destination}
    {m : NamedBindings}, x.BoundAs names m →
    (∀ d ∈ ds, d.destination ∈ names ∧ (x.name = d.exchange → x.kind = .exchange)) →
      (ds.foldl (·.bind names) x).BoundAs names (ds.foldl NamedBindings.declare m)
  | [], _, _, h, _ => h
  | d :: ds, x, m, h, hds => by
    rw [List.forall_mem_cons] at hds
    obtain ⟨⟨hd, hx⟩, hds⟩ := hds
    have houtlined := (Declaration.adjusting_bindings {}).outlined names d x
    refine (h.bind distinct hd hx).foldl_bind distinct fun d' hd' => ?_
    rw [houtlined.name, houtlined.kind]
    exact hds d' hd'

/-- Nothing but the table of bindings is changed by bindings. -/
theorem foldl_bind_eq (names : List String) : ∀ (ds : List BindingDeclaration) (x : Destination),
    ∃ table, ds.foldl (·.bind names) x = x.mapBindings fun _ => table
  | [], x => by
    obtain ⟨_, _, _, _, _, body⟩ := x
    cases body with
    | queue q => exact ⟨.empty, rfl⟩
    | exchange e => exact ⟨e.bindings, rfl⟩
  | d :: ds, x => by
    obtain ⟨table, htable⟩ := foldl_bind_eq names ds (x.bind names d)
    refine ⟨table, ?_⟩
    rw [List.foldl_cons, htable]
    unfold Destination.bind
    split
    · obtain ⟨_, _, _, _, _, body⟩ := x
      cases body <;> rfl
    · rfl

/-- The selectors of what is bound are those of its arguments. -/
theorem selectors_foldl_bind (names : List String) : ∀ {ds : List BindingDeclaration} {x : Destination},
    (∀ b ∈ x.bindings.toList, b.arguments.selector = .ok b.selector) → (∀ d ∈ ds, ∃ s, d.arguments.selector = .ok s) →
      ∀ b ∈ (ds.foldl (·.bind names) x).bindings.toList, b.arguments.selector = .ok b.selector
  | [], _, h, _ => h
  | d :: ds, x, h, hds => by
    rw [List.forall_mem_cons] at hds
    obtain ⟨⟨s, hs⟩, hds⟩ := hds
    refine selectors_foldl_bind names (x := x.bind names d) (fun b hb => ?_) hds
    unfold Destination.bind at hb
    split at hb
    · rcases BindingTable.mem_toList_bind (Registry.bindings_mapBindings hb) with hb | rfl
      · exact h b hb
      · unfold BindingDeclaration.binding
        simp only [hs]
        rfl
    · exact h b hb

end Destination

/-- What is bound was declared. -/
theorem Topology.declared_of_bound {t : Topology} {exchange key name : String} {arguments : BindingArguments}
    (h : t.bound exchange key name = some arguments) :
    ∃ d ∈ t.bindings, d.exchange = exchange ∧ d.destination = name := by
  have hfold : ∀ (ds : List BindingDeclaration) (m : NamedBindings),
      ds.foldl NamedBindings.declare m exchange key name = some arguments →
        m exchange key name = some arguments ∨ ∃ d ∈ ds, d.exchange = exchange ∧ d.destination = name := by
    intro ds
    induction ds with
    | nil => exact fun m hm => .inl hm
    | cons d ds ih =>
      intro m hm
      rcases ih _ hm with hm | ⟨d', hd', hends⟩
      · unfold NamedBindings.declare at hm
        split at hm
        · exact .inl hm
        · simp only at hm
          split at hm
          · rename_i heq
            cases heq
            exact .inr ⟨d, List.mem_cons_self, rfl, rfl⟩
          · exact .inl hm
      · exact .inr ⟨d', List.mem_cons_of_mem _ hd', hends⟩
  rcases hfold t.bindings .empty h with hnone | hd
  · cases hnone
  · exact hd

namespace Registry.Comprises

variable {r : Registry} {settings : HostSettings} {xs : List Destination}

theorem toList_eq (h : r.Comprises settings xs) : r.toList = xs := by
  have hrange : ∀ ys : List Destination, (List.range ys.length).filterMap (fun d => ys[d]?) = ys := by
    intro ys
    induction ys with
    | nil => rfl
    | cons y ys ih => simpa [List.range_succ_eq_map, List.filterMap_map, Function.comp_def] using ih
  unfold Registry.toList
  rw [h.ids, funext h.get?]
  exact hrange xs

theorem registered?_eq (h : r.Comprises settings xs) (d : DestinationId) : r.registered? d = xs[d]? := by
  unfold Registry.registered?
  rw [h.ids, h.get?]
  by_cases hd : d < xs.length
  · rw [if_pos (by simpa using hd)]
  · rw [if_neg (by simpa using hd), List.getElem?_eq_none (Nat.le_of_not_lt hd)]

end Registry.Comprises

namespace Topology

variable {t : Topology} {settings : HostSettings}

/-- A destination as it is in the end: its alternate is the one declared, and its bindings fill a table. -/
theorem finish_blank (distinct : ((t.profiles settings).map Profile.name).Nodup) (names : List String) {p : Profile}
    (hp : p ∈ t.profiles settings) : ∃ table, t.finish names p.blank =
      ({ p.blank with fallback := p.alternate.map (toward names) } : Destination).mapBindings fun _ => table := by
  obtain ⟨table, htable⟩ := Destination.foldl_bind_eq names t.bindings
    (t.alternates.foldl (·.setAlternate names) p.blank)
  have hlookup : t.alternates.lookup p.blank.name = p.alternate := by
    rw [p.name_blank]
    exact lookup_alternates distinct hp
  refine ⟨table, htable.trans ?_⟩
  rw [foldl_setAlternate names (nodup_alternates distinct), hlookup, p.fallback_blank, Option.or_none]

theorem profile_finish (distinct : ((t.profiles settings).map Profile.name).Nodup) (names : List String) {p : Profile}
    (hp : p ∈ t.profiles settings) : (t.finish names p.blank).profile = p := by
  obtain ⟨table, htable⟩ := finish_blank distinct names hp
  rw [htable]
  obtain ⟨name, durable, alternate, body⟩ := p
  cases body <;> cases alternate <;> rfl

/-- What a destination is known by is there from the beginning. -/
theorem outlined_finish (t : Topology) (names : List String) (x : Destination) :
    Declaration.Outlined (t.finish names x) x :=
  ((Declaration.adjusting_bindings {}).outlined_foldl names t.bindings _).trans
    ((Declaration.adjusting_alternates {}).outlined_foldl names t.alternates x)

theorem namesOf_destinations (t : Topology) (settings : HostSettings) :
    namesOf (t.destinations settings) = namesOf (t.blanks settings) :=
  Declaration.namesOf_map (t.outlined_finish _) _

theorem mem_destinations {x : Destination} : x ∈ t.destinations settings ↔
    ∃ p ∈ t.profiles settings, t.finish (namesOf (t.blanks settings)) p.blank = x := by
  unfold destinations blanks
  rw [List.map_map]
  exact List.mem_map

theorem mem_names {name : String} :
    name ∈ namesOf (t.blanks settings) ↔ ∃ p ∈ t.profiles settings, p.name = name := by
  rw [namesOf_blanks]
  exact List.mem_map

theorem bindings_foldl_setAlternate (distinct : ((t.profiles settings).map Profile.name).Nodup) (names : List String)
    (p : Profile) : (t.alternates.foldl (·.setAlternate names) p.blank).bindings = .empty := by
  rw [foldl_setAlternate names (nodup_alternates distinct)]
  exact p.bindings_blank

/-- **Every destination is bound as the declarations say.** -/
theorem boundAs_finish (valid : t.Valid settings) {p : Profile} (hp : p ∈ t.profiles settings) :
    (t.finish (namesOf (t.blanks settings)) p.blank).BoundAs (namesOf (t.blanks settings)) t.bound := by
  have distinct : (namesOf (t.blanks settings)).Nodup := by
    rw [namesOf_blanks]
    exact valid.distinct
  have houtlined :=
    (Declaration.adjusting_alternates {}).outlined_foldl (namesOf (t.blanks settings)) t.alternates p.blank
  have hempty : (t.alternates.foldl (·.setAlternate (namesOf (t.blanks settings))) p.blank).BoundAs
      (namesOf (t.blanks settings)) .empty := by
    intro key i
    rw [bindings_foldl_setAlternate valid.distinct, BindingTable.chart_of_toList_eq_nil rfl]
    exact (Option.bind_fun_none _).symm
  refine hempty.foldl_bind distinct fun d hd => ?_
  obtain ⟨⟨e, he, hname, hkind⟩, ⟨y, hy, hdest⟩, -, -⟩ := valid.bindings d hd
  refine ⟨mem_names.2 ⟨y, hy, hdest⟩, fun heq => ?_⟩
  rw [houtlined.name, p.name_blank] at heq
  rw [houtlined.kind, p.kind_blank, eq_of_name valid.distinct hp he (heq.trans hname.symm)]
  exact hkind

/-- **What a valid topology leaves is set up.** -/
theorem setUp_of_comprises (valid : t.Valid settings) {r : Registry}
    (h : r.Comprises settings (t.destinations settings)) : t.SetUp settings r where
  configured := h.settings
  registered := by
    rw [h.toList_eq]
    unfold destinations blanks
    rw [List.map_map, List.map_map]
    refine (List.map_congr_left fun p hp => ?_).trans (List.map_id _)
    exact profile_finish valid.distinct _ hp
  named := fun name d => by
    rw [h.lookup, getElem?_namesOf]
    simp only [h.registered?_eq]
  fresh := fun x hx => by
    rw [h.toList_eq] at hx
    obtain ⟨p, hp, rfl⟩ := mem_destinations.1 hx
    obtain ⟨table, htable⟩ := finish_blank valid.distinct _ hp
    rw [htable]
    obtain ⟨name, durable, alternate, body⟩ := p
    cases body <;> exact ⟨rfl, rfl, rfl⟩
  alternates := fun x hx a ha => by
    rw [h.toList_eq] at hx
    obtain ⟨p, hp, rfl⟩ := mem_destinations.1 hx
    obtain ⟨table, htable⟩ := finish_blank valid.distinct _ hp
    rw [htable, Registry.fallback_mapBindings] at ha
    obtain ⟨name, hname, rfl⟩ := Option.map_eq_some_iff.1 ha
    obtain ⟨-, y, hy, rfl, -⟩ := valid.alternates p hp name hname
    rw [h.lookup, namesOf_destinations]
    exact getElem?_idxOf (mem_names.2 ⟨y, hy, rfl⟩)
  bindings := fun exchange key name arguments => by
    constructor
    · intro hbound
      obtain ⟨d, hd, rfl, rfl⟩ := declared_of_bound hbound
      obtain ⟨⟨e, he, hname, -⟩, ⟨y, hy, hdest⟩, -, -⟩ := valid.bindings d hd
      have hexchange := mem_names.2 ⟨e, he, hname⟩
      have htarget := mem_names.2 ⟨y, hy, hdest⟩
      have hlookup := h.lookup_of_mem (namesOf_destinations t settings ▸ hexchange)
      obtain ⟨x, hx, hown, hmem, -⟩ := h.found hlookup
      obtain ⟨p, hp, rfl⟩ := mem_destinations.1 hmem
      have hchart := boundAs_finish valid hp key ((namesOf (t.blanks settings)).idxOf d.destination)
      rw [getElem?_idxOf htarget, hown, Option.bind_some, hbound] at hchart
      obtain ⟨b, hb, hpair, harguments⟩ := BindingTable.chart_eq_some.1 hchart
      have hdestination : b.destination = (namesOf (t.blanks settings)).idxOf d.destination := congrArg Prod.snd hpair
      have hleads : r.lookup d.destination = some b.destination := by
        rw [h.lookup, namesOf_destinations, hdestination]
        exact getElem?_idxOf htarget
      exact ⟨_, _, b, hlookup, hx, hb, congrArg Prod.fst hpair, hleads, harguments⟩
    · rintro ⟨e, x, b, he, hx, hb, rfl, hname, rfl⟩
      obtain ⟨x', hx', rfl, hmem, -⟩ := h.found he
      cases hx.symm.trans hx'
      obtain ⟨p, hp, rfl⟩ := mem_destinations.1 hmem
      have hchart := BindingTable.chart_eq_some.2 ⟨b, hb, rfl, rfl⟩
      rw [h.lookup, namesOf_destinations] at hname
      rw [boundAs_finish valid hp, hname] at hchart
      exact hchart
  leading := fun x hx b hb => by
    rw [h.toList_eq] at hx
    obtain ⟨p, hp, rfl⟩ := mem_destinations.1 hx
    refine ⟨?_, Destination.selectors_foldl_bind _ (fun b' hb' => ?_) (fun d hd => (valid.bindings d hd).2.2.2) b hb⟩
    · have hchart := BindingTable.chart_eq_some.2 ⟨b, hb, rfl, rfl⟩
      rw [boundAs_finish valid hp] at hchart
      obtain ⟨name, hname, -⟩ := Option.bind_eq_some_iff.1 hchart
      refine ⟨name, (h.lookup _ _).2 ?_⟩
      rw [namesOf_destinations]
      exact hname
    · rw [bindings_foldl_setAlternate valid.distinct] at hb'
      cases hb'

end Topology

end MessageBroker
