import MessageBroker.Proofs.Run.Evolving
import MessageBroker.Proofs.Run.Owning
/-!
# The reserved prefix

A virtual host sets the names of exchanges aside that begin with its reserved prefix.  Exchanges come into being by one
kind of request only, which is refused under the prefix, so whatever is done, no exchange is made there (`Heeds`), and the
only ones there are those that the registry was made with (`reserved_of_evolves`).  Queues are made in more ways, and may
be given any free name.
-/
namespace MessageBroker
namespace Registry

/-- **No exchange was made under the reserved prefix** between one registry and a later one. -/
structure Heeds (r r' : Registry) : Prop where
  settings : r'.settings = r.settings
  ages : r.Ages r'
  new : ∀ d x, r.get? d = none → r'.get? d = some x → x.kind = .exchange →
    x.name.startsWith r.settings.reservedPrefix = false

variable {r r' r'' : Registry}

theorem Heeds.refl (r : Registry) : r.Heeds r := by
  refine ⟨rfl, .refl r, fun d x hnew hx => ?_⟩
  rw [hnew] at hx
  cases hx

theorem Heeds.trans (h : r.Heeds r') (h' : r'.Heeds r'') : r.Heeds r'' := by
  refine ⟨h'.settings.trans h.settings, h.ages.trans h'.ages, fun d x hnew hx hkind => ?_⟩
  cases hmiddle : r'.get? d with
  | none =>
    rw [← h.settings]
    exact h'.new d x hmiddle hx hkind
  | some y =>
    obtain ⟨x', hx', name, kind, -⟩ := h'.ages d y hmiddle
    rw [hx] at hx'
    cases hx'
    rw [name]
    exact h.new d y hnew hmiddle (kind.symm.trans hkind)

/-- Where nothing is made, there is nothing to heed. -/
theorem Heeds.of_length (settings : r'.settings = r.settings) (ages : r.Ages r')
    (length : r'.destinations.length = r.destinations.length) : r.Heeds r' := by
  refine ⟨settings, ages, fun d x hnew hx => absurd (get?_lt hx) ?_⟩
  rw [length]
  exact Nat.not_lt.2 (List.getElem?_eq_none_iff.1 hnew)

theorem Serves.heeds (h : r.Serves r') : r.Heeds r' := .of_length h.settings h.ages h.length

/-- A queue may have any name. -/
theorem heeds_add (r : Registry) {x : Destination}
    (free : x.kind = .exchange → x.name.startsWith r.settings.reservedPrefix = false) : r.Heeds (r.add x).1 := by
  refine ⟨settings_add r x, fun d y hy => ⟨y, ?_, rfl, rfl, id⟩, fun d y hnew hy => ?_⟩
  · rw [get?_add, if_neg (Nat.ne_of_lt (get?_lt hy)), hy]
  · rw [get?_add] at hy
    split at hy
    · cases hy
      exact free
    · rw [hnew] at hy
      cases hy

theorem Granted.heeds (h : r.Granted r') (length : r'.destinations.length = r.destinations.length) : r.Heeds r' := by
  refine .of_length ?_ h.ages length
  cases h with
  | created => exact settings_add r _
  | deleted => exact settings_publish _ _ _
  | _ => rfl

/-- **An exchange that is made has no reserved name.** -/
theorem unreserved_of_createExchange {e : ExchangeDeclaration} {z : Registry × DestinationId}
    (h : r.createExchange e = .ok z) : e.name.startsWith r.settings.reservedPrefix = false := by
  unfold createExchange at h
  split at h
  · cases h
  · exact Bool.eq_false_iff.2 ‹_›

theorem length_modify (r : Registry) (d : DestinationId) (f : Destination → Destination) :
    (r.modify d f).destinations.length = r.destinations.length := List.length_modify ..

theorem length_unbind (r : Registry) (e t : DestinationId) (key : String) :
    (r.unbind e t key).1.destinations.length = r.destinations.length := by
  unfold unbind
  split
  · rfl
  · exact length_modify r e _

/-- **Requests heed the prefix.** -/
theorem heeds_serve {q : TopologyRequest} (h : r.serve q = .ok r') : r.Heeds r' := by
  have granted := serve_granted h
  cases q with
  | createQueue q =>
    obtain ⟨d, hd⟩ := ok_of_map_fst h
    obtain ⟨f, -, -, hz⟩ := createQueue_eq_add hd
    cases hz
    exact r.heeds_add fun hkind => by cases hkind
  | createExchange e =>
    obtain ⟨d, hd⟩ := ok_of_map_fst h
    obtain ⟨f, -, -, hz⟩ := createExchange_eq_add hd
    cases hz
    exact r.heeds_add fun _ => unreserved_of_createExchange hd
  | setAlternate name alternate =>
    obtain ⟨d, hd⟩ := ok_of_map_fst h
    obtain ⟨i, x, f, -, -, -, hz⟩ := setAlternate_eq_modify hd
    cases hz
    exact granted.heeds (length_modify r _ _)
  | bind exchange target key arguments replace =>
    obtain ⟨p, -, h⟩ := ok_of_bind h
    obtain ⟨o, ho⟩ := ok_of_map_fst h
    obtain ⟨x, y, s, -, -, -, -, -, rfl⟩ := bind_eq_ok ho
    exact granted.heeds (length_modify r _ _)
  | bindHeld e t key arguments replace =>
    obtain ⟨o, ho⟩ := ok_of_map_fst h
    obtain ⟨x, y, s, -, -, -, -, -, rfl⟩ := bind_eq_ok ho
    exact granted.heeds (length_modify r _ _)
  | unbind exchange target key =>
    obtain ⟨p, -, h⟩ := ok_of_bind h
    cases h
    exact granted.heeds (length_unbind r p.1 p.2 key)
  | unbindHeld e t key =>
    cases h
    exact granted.heeds (length_unbind r e t key)
  | delete name force =>
    obtain ⟨x, hx⟩ := ok_of_map_fst h
    exact granted.heeds (length_delete hx)

theorem heeds_obey (r : Registry) (q : TopologyRequest) : r.Heeds (r.obey q) := by
  unfold obey
  split
  · exact heeds_serve ‹_›
  · exact .refl r

theorem heeds_dropNode (r : Registry) (own : Option String) : r.Heeds (r.dropNode own) := by
  unfold dropNode
  split
  · exact .refl r
  · split
    · exact (delete_ok ‹_›).heeds (length_delete ‹_›)
    · exact .refl r

theorem heeds_withNode (r : Registry) (link : String) : r.Heeds (r.withNode link) :=
  r.heeds_add fun hkind => by cases hkind

/-- **What is made for a link is a queue.** -/
theorem Tends.heeds {link : String} {own own' : Option String} (h : r.Tends link own r' own') : r.Heeds r' := by
  cases h with
  | kept serves => exact serves.heeds
  | made missing serves => exact (r.heeds_withNode link).trans serves.heeds
  | @dropped r₁ _ before consistent serves => exact (before.heeds.trans (r₁.heeds_dropNode own)).trans serves.heeds

theorem heeds_mapQueue (r : Registry) (d : DestinationId) (f : Queue → Queue) : r.Heeds (r.modify d (·.mapQueue f)) :=
  .of_length rfl (Alters.queue d f).ages (length_modify r d _)

end Registry

open Registry

namespace Broker

theorem heeds_administer (b : Broker) (q : TopologyRequest) : b.registry.Heeds (b.administer q).registry := by
  rw [registry_administer]
  exact b.registry.heeds_obey q

theorem heeds_applyTopology (b : Broker) (t : Topology) : b.registry.Heeds (b.applyTopology t).1.registry :=
  applyTopology_induction (P := fun b' => b.registry.Heeds b'.registry) (fun b q h => h.trans (b.heeds_administer q))
    (fun _ _ h => h) t (.refl _)

end Broker

namespace World

open Broker

/-- **Every event heeds the prefix.** -/
theorem heeds_take (w : World) (e : Event) : w.broker.registry.Heeds (w.take e).after.broker.registry := by
  by_cases apart : ∀ l, e.turns l = false
  · exact registry_take .refl .trans heeds_mapQueue heeds_administer w apart
  · obtain ⟨l, turns⟩ : ∃ l, e.turns l = true := by simpa using apart
    cases hx : w.broker.link? l with
    | none =>
      rw [w.take_missing hx turns]
      exact .refl _
    | some x =>
      obtain ⟨y, -, tends, -⟩ := tends_take hx turns
      exact tends.heeds

theorem Evolves.heeds {w w' : World} (h : w.Evolves w') : w.broker.registry.Heeds w'.broker.registry := by
  cases h with
  | goes goes =>
    cases goes with
    | event e => exact w.heeds_take e
    | handed l next n => exact (serves_setReceiver { w.broker with receivers := n } l next).heeds
  | setUp t => exact w.broker.heeds_applyTopology t
  | nodeMade link =>
    obtain ⟨b', heq, serves, -⟩ := w.broker.createDynamic_eq link
    simp only [heq]
    exact (w.broker.registry.heeds_withNode link).trans serves.heeds
  | nodeDropped name =>
    simp only [registry_deleteDynamic]
    exact w.broker.registry.heeds_dropNode (some name)

theorem heeds_of_evolves {w w' : World} (evolves : Relation.ReflTransGen Evolves w w') :
    w.broker.registry.Heeds w'.broker.registry := by
  induction evolves with
  | refl => exact .refl _
  | tail _ h ih => exact ih.trans h.heeds

end World

/-- The destinations that a registry is made with are found by their names. -/
theorem Registry.lookup_new {settings : HostSettings} {d : DestinationId} {x : Destination}
    (hx : (Registry.new settings).get? d = some x) : (Registry.new settings).lookup x.name = some d := by
  match d with
  | 0 =>
    cases hx
    rfl
  | 1 =>
    cases hx
    rfl
  | d + 2 => cases hx

/-- What a registry was made with is still there, as the system's. -/
theorem Registry.Consistent.original {r : Registry} (consistent : r.Consistent) {settings : HostSettings}
    (same : r.settings = settings) {name : String} {d : DestinationId}
    (made : (Registry.new settings).lookup name = some d) :
    r.lookup name = some d ∧ ∃ x, r.registered? d = some x ∧ x.name = name ∧ x.isSystem = true := by
  subst same
  obtain ⟨hlookup, x, hx, system⟩ := consistent.system name d made
  obtain ⟨y, hy, hname⟩ := (consistent.lookup_iff name d).1 hlookup
  cases hx.symm.trans hy
  exact ⟨hlookup, x, hx, hname, system⟩

theorem kind_of_isSystem {x : Destination} (h : x.isSystem = true) : x.kind = .exchange := by
  unfold Destination.isSystem at h
  unfold Destination.kind
  split at h <;> simp_all

/-- **The reserved prefix belongs to the system, among exchanges.**  Whatever prefix is reserved, and however a world came
about from a new one, by requests, topologies that are applied, nodes that are made on request and all that links and
messages do: an exchange that is registered under the prefix is one of those that the registry was made with, under the
identity that it had then, and these are all still there, by their names.  What else is registered under the prefix is a
queue under a name that none of these has. -/
theorem reserved_of_evolves {settings : HostSettings} {store : Store} {principal : Principal} {w : World}
    (evolves : Relation.ReflTransGen World.Evolves (.new settings store principal) w) :
    (∀ d x, w.broker.registry.registered? d = some x → x.name.startsWith settings.reservedPrefix = true →
      ((Registry.new settings).lookup x.name = some d ∧ x.isSystem = true) ∨
        (x.kind = .queue ∧ (Registry.new settings).lookup x.name = none)) ∧
    ∀ name d, (Registry.new settings).lookup name = some d →
      w.broker.registry.lookup name = some d ∧
        ∃ x, w.broker.registry.registered? d = some x ∧ x.name = name ∧ x.isSystem = true := by
  have heeds : (Registry.new settings).Heeds w.broker.registry := World.heeds_of_evolves evolves
  have consistent := World.consistent_of_evolves evolves
  have same : w.broker.registry.settings = settings := heeds.settings
  refine ⟨fun d x hx reserved => ?_, fun name d => consistent.original same⟩
  have hget := (registered?_eq_some.1 hx).2
  cases hkind : x.kind with
  | exchange =>
    cases hold : (Registry.new settings).get? d with
    | none => cases (heeds.new d x hold hget hkind).symm.trans reserved
    | some y =>
      obtain ⟨x', hx', name, -⟩ := heeds.ages d y hold
      cases hget.symm.trans hx'
      have made := Registry.lookup_new hold
      rw [← name] at made
      obtain ⟨-, z, hz, -, system⟩ := consistent.original same made
      cases hx.symm.trans hz
      exact .inl ⟨made, system⟩
  | queue =>
    refine .inr ⟨rfl, Option.eq_none_iff_forall_ne_some.2 fun i made => ?_⟩
    obtain ⟨hlookup, z, hz, -, system⟩ := consistent.original same made
    cases ((consistent.lookup_iff x.name d).2 ⟨x, hx, rfl⟩).symm.trans hlookup
    cases hx.symm.trans hz
    cases (kind_of_isSystem system).symm.trans hkind

/-- A queue is made under the reserved prefix, an exchange is not, and a link is attached to a node of its own. -/
def trespasses : List Event :=
  [.administer (.createQueue { name := "amq.orders" }), .administer (.createExchange { name := "amq.mine" }),
    .administer (.delete "amq.direct" true), .link "in" {} [0] true,
    .attach 0 .plain { target := some (.node { dynamic := true }) }]

/-- The exchanges under the prefix are those of the system, and there is a queue under it. -/
theorem reserved_trespasses :
    let w := (World.new {} ⟨true, ∅, []⟩ {}).after trespasses
    (w.broker.registry.ids = [0, 1, 2, 3] ∧ w.broker.registry.lookup "amq.orders" = some 2 ∧
      w.broker.registry.lookup "amq.mine" = none) ∧
    (∀ d x, w.broker.registry.registered? d = some x → x.name.startsWith "amq." = true →
      ((Registry.new {}).lookup x.name = some d ∧ x.isSystem = true) ∨
        (x.kind = .queue ∧ (Registry.new {}).lookup x.name = none)) ∧
    ∀ name d, (Registry.new {}).lookup name = some d → w.broker.registry.lookup name = some d ∧
      ∃ x, w.broker.registry.registered? d = some x ∧ x.name = name ∧ x.isSystem = true := by
  intro w
  obtain ⟨reserved, kept⟩ := reserved_of_evolves (World.evolves_after trespasses (.new {} ⟨true, ∅, []⟩ {}))
  exact ⟨by decide +kernel, reserved, kept⟩

/-- **Not all that is registered under the prefix is the system's.** -/
theorem unreserved_trespasses :
    ¬ ∀ (settings : HostSettings) (store : Store) (principal : Principal) (w : World),
      Relation.ReflTransGen World.Evolves (.new settings store principal) w →
        ∀ d x, w.broker.registry.registered? d = some x → x.name.startsWith settings.reservedPrefix = true →
          (Registry.new settings).lookup x.name = some d := by
  intro h
  let w := (World.new {} ⟨true, ∅, []⟩ {}).after trespasses
  have hname : (w.broker.registry.registered? 2).map Destination.name = some "amq.orders" := by decide +kernel
  obtain ⟨x, hx, name⟩ := Option.map_eq_some_iff.1 hname
  have hlookup := h {} ⟨true, ∅, []⟩ {} w (World.evolves_after trespasses _) 2 x hx (by rw [name]; decide +kernel)
  rw [name] at hlookup
  revert hlookup
  decide

end MessageBroker
