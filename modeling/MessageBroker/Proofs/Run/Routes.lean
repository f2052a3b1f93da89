import MessageBroker.Proofs.Routing.Ways
import MessageBroker.Proofs.Run.References
/-!
# What a running broker routes to

Whatever a broker was asked to do before, every queue that it routes a message to is one that it has registered, with
room for the message, and lies at the end of a way from the exchange that the message was sent to.
-/
namespace MessageBroker

open Routing

/-- **A queue is a target with a reason**: it is registered and not deleted, it is below its capacity, and a way leads
there. -/
structure Registry.Justified (r : Registry) (headers : Headers) (start : DestinationId) (key : String)
    (q : DestinationId) : Prop where
  room : ∃ x c, r.registered? q = some x ∧ x.deleted = false ∧ x.body = .queue c ∧
    ∀ capacity, c.capacity = some capacity → c.depth < capacity
  way : ∃ k hops, Way r headers start key q k hops

/-- A live queue that takes a message is registered and below its capacity. -/
theorem Registry.Consistent.room_of_takes {r : Registry} (h : r.Consistent) {q : DestinationId} (hq : r.Takes q) :
    ∃ x c, r.registered? q = some x ∧ x.deleted = false ∧ x.body = .queue c ∧
      ∀ capacity, c.capacity = some capacity → c.depth < capacity := by
  obtain ⟨x, c, live, body, room⟩ := hq
  obtain ⟨hx, hl⟩ := Registry.live?_eq_some.1 live
  refine ⟨x, c, h.registered_of_live hx hl, hl, body, fun capacity hc => ?_⟩
  unfold Queue.hasRoom at room
  simpa [hc] using room

/-- **A broker routes to a queue only with a reason**, and to each once. -/
theorem justified_of_run (settings : HostSettings) (store : Store) (principal : Principal) (es : List Event)
    (start : DestinationId) (message : Message) (key : String) (properties : InstanceProperties) :
    let r := ((World.new settings store principal).after es).broker.registry
    (r.route start message key properties).1.queues.Nodup ∧
      ∀ q ∈ (r.route start message key properties).1.queues, r.Justified message.headers start key q := by
  intro r
  have hc : r.Consistent := (upkept_of_run settings store principal es).consistent
  obtain ⟨nodup, takes⟩ := r.route_sound start message key properties
  exact ⟨nodup, fun q hq => ⟨hc.room_of_takes (takes q hq), Registry.way_of_mem_route hq⟩⟩

end MessageBroker
