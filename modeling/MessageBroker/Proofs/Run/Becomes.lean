import Mathlib.Logic.Relation
import MessageBroker.Proofs.Broker.Handling
import MessageBroker.Proofs.Run
/-!
# What becomes of a registry in a run

Publishing, transactions, links and administration change a registry in a few ways only (`Registry.Alters`).  Each
event of a run makes some number of these changes (`becomes_take`), so whatever they keep holds to the end of the run
(`becomes_after`).
-/
namespace MessageBroker
namespace Registry

/-- **What a broker does to its registry at a time.** -/
inductive Alters (r : Registry) : Registry → Prop where
  | granted {r' : Registry} (granted : r.Granted r') : Alters r r'
  | queue (d : DestinationId) (f : Queue → Queue) : Alters r (r.modify d (·.mapQueue f))
  | links (d : DestinationId) (x : Destination) (links : List PublishingLink) (at_d : r.get? d = some x) :
      Alters r (r.modify d fun _ => { x with links })
  | dynamicNodes (nodes : List DestinationId) : Alters r { r with dynamicNodes := nodes }

/-- One registry becomes the other, change by change. -/
abbrev Becomes : Registry → Registry → Prop := Relation.ReflTransGen Alters

variable {r r' : Registry}

/-- **What every change keeps is kept.** -/
theorem Becomes.keeps {P : Registry → Prop} (step : ∀ r r', P r → r.Alters r' → P r') (h : Becomes r r') (hp : P r) :
    P r' := by
  induction h with
  | refl => exact hp
  | tail _ halters ih => exact step _ _ ih halters

theorem Becomes.of_granted (h : r.Granted r') : Becomes r r' := .single (.granted h)

theorem Becomes.queue (r : Registry) (d : DestinationId) (f : Queue → Queue) :
    Becomes r (r.modify d (·.mapQueue f)) := .single (.queue d f)

theorem Becomes.of_eq (h : r' = r) : Becomes r r' := h ▸ .refl

theorem Alters.consistent (h : r.Alters r') (hc : r.Consistent) : r'.Consistent := by
  cases h with
  | granted granted => exact granted.consistent hc
  | queue d f => exact hc.mapQueue d f
  | links d x links at_d => exact hc.links at_d links
  | dynamicNodes nodes => exact hc.dynamicNodes nodes

end Registry

namespace Broker

open Registry

/-- An operation does to the registry what brokers do. -/
def Becomes (b b' : Broker) : Prop := Registry.Becomes b.registry b'.registry

variable {b b' b'' : Broker}

theorem Becomes.refl (b : Broker) : Becomes b b := Relation.ReflTransGen.refl

theorem Becomes.trans (h : Becomes b b') (h' : Becomes b' b'') : Becomes b b'' := Relation.ReflTransGen.trans h h'

/-- An operation that leaves the registry alone. -/
theorem Becomes.of_registry (h : b'.registry = b.registry) : Becomes b b' := Registry.Becomes.of_eq h

theorem Administered.becomes (h : Administered b b') : Becomes b b' := by
  cases h with
  | refused ns => exact .refl b
  | granted granted copies ns => exact Registry.Becomes.of_granted granted
  | deleted granted es copies ns => exact Registry.Becomes.of_granted granted

theorem linkSteps_becomes : LinkSteps Becomes where
  refl := .refl
  trans := .trans
  administered := Administered.becomes
  modifyLink := fun _ _ _ _ _ => .of_registry rfl
  receivers := fun _ _ => .of_registry rfl
  dynamicNodes := fun _ nodes => .single (.dynamicNodes nodes)
  links := fun _ d x links hx => .single (.links d x links hx)

theorem becomes_place (b : Broker) (q : DestinationId) (entry : QueueEntry) : Becomes b (b.place q entry) := by
  unfold place
  split
  · exact .refl b
  · exact Registry.Becomes.queue _ q _

theorem becomes_pop (b : Broker) (q : DestinationId) : Becomes b (b.pop q).1 := by
  unfold pop
  split
  · exact Registry.Becomes.queue _ q _
  · exact .refl b

/-- A link may also be handed a receiver of any kind. -/
theorem becomes_setReceiver (b : Broker) (l : LinkId) (next : Option Receiver) : Becomes b (b.setReceiver l next) :=
  linkSteps_becomes.handReceiver b l fun _ => .of_registry rfl

/-- The registry's invariant is kept. -/
theorem Becomes.consistent (h : Becomes b b') (hc : b.registry.Consistent) : b'.registry.Consistent :=
  h.keeps (fun _ _ hc alters => alters.consistent hc) hc

/-- Publishing, transactions and deliveries only place entries. -/
theorem workSteps_becomes : WorkSteps Becomes where
  refl := .refl
  trans := .trans
  books := fun _ _ _ _ _ _ _ _ => .of_registry rfl
  place := becomes_place
  unsettled := fun _ _ _ => .of_registry rfl

theorem eventSteps_becomes : EventSteps Becomes where
  links := linkSteps_becomes
  works := workSteps_becomes
  pop := becomes_pop
  told := fun _ _ _ => .of_registry rfl
  newLink := fun _ _ _ _ _ => .of_registry rfl

end Broker

namespace World

open Broker

/-- **What an event does to the registry.** -/
theorem becomes_take (w : World) (e : Event) : Becomes w.broker (w.take e).after.broker := eventSteps_becomes.take w e

/-- **What a run does to the registry.** -/
theorem becomes_after (w : World) (es : List Event) : Becomes w.broker (w.after es).broker :=
  eventSteps_becomes.after w es

end World

/-- **What holds of a new registry and is kept by every change holds of a registry in every state of a run.** -/
theorem registry_of_run {P : Registry → Prop} (new : ∀ settings, P (.new settings))
    (step : ∀ r r', P r → r.Alters r' → P r') (settings : HostSettings) (store : Store) (principal : Principal)
    (es : List Event) : P ((World.new settings store principal).after es).broker.registry :=
  Registry.Becomes.keeps step (World.becomes_after _ es) (new settings)

end MessageBroker
