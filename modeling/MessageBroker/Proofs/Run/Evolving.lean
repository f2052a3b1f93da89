import MessageBroker.Config.Apply
import MessageBroker.Proofs.Run.Mirroring
import MessageBroker.Proofs.Run.Stepwise
/-!
# Whatever becomes of a world

Besides the events of a run and links that are handed receivers, a topology may be applied at any time, and nodes may be
made and deleted on behalf of a link (`World.Evolves`).  A topology is applied by requests, one for each declaration, so
what these keep is kept by the whole (`applyTopology_induction`), and the invariants of runs hold in every world that
comes about in one of these ways (`consistent_of_evolves`, `numbered_of_evolves`).
-/
namespace MessageBroker

/-- The request that a declaration is carried out by. -/
def Declaration.request : Declaration → TopologyRequest
  | .queue q => .createQueue q
  | .exchange e => .createExchange e
  | .alternate name fallback => .setAlternate name (some fallback)
  | .binding d => .bind d.exchange d.destination d.key d.arguments d.replace

namespace Broker

open Registry

/-- **A request on a broker is one on its registry.** -/
theorem registry_administer (b : Broker) (q : TopologyRequest) : (b.administer q).registry = b.registry.obey q := by
  cases q with
  | createQueue q =>
    simp only [administer, Broker.createQueue, obey, Registry.serve]
    cases h : b.registry.createQueue q with
    | error e => rfl
    | ok z =>
      obtain ⟨f, -, -, rfl⟩ := createQueue_eq_add h
      exact registry_created_add b _
  | createExchange e =>
    simp only [administer, Broker.createExchange, obey, Registry.serve]
    cases h : b.registry.createExchange e with
    | error e => rfl
    | ok z =>
      obtain ⟨f, -, -, rfl⟩ := createExchange_eq_add h
      exact registry_created_add b _
  | setAlternate name alternate =>
    simp only [administer, Broker.setAlternate, obey, Registry.serve]
    cases b.registry.setAlternate name alternate <;> rfl
  | bind exchange target key arguments replace =>
    simp only [administer, Broker.bind, bindTo, obey, Registry.serve]
    cases b.registry.endpoints exchange target with
    | error e => rfl
    | ok z =>
      simp only [ok_bind]
      cases b.registry.bind z.1 z.2 key arguments replace <;> rfl
  | bindHeld e t key arguments replace =>
    simp only [administer, bindTo, obey, Registry.serve]
    cases b.registry.bind e t key arguments replace <;> rfl
  | unbind exchange target key =>
    simp only [administer, Broker.unbind, unbindFrom, obey, Registry.serve]
    cases b.registry.endpoints exchange target with
    | error e => rfl
    | ok z =>
      simp only
      split <;> rfl
  | unbindHeld e t key =>
    simp only [administer, unbindFrom, obey, Registry.serve]
    split <;> rfl
  | delete name force =>
    simp only [administer, Broker.delete, obey, Registry.serve]
    cases b.registry.delete name force <;> rfl

/-- A node that is deleted is dropped. -/
theorem registry_deleteDynamic (b : Broker) (name : String) :
    (b.deleteDynamic name).1.registry = b.registry.dropNode (some name) := by
  simp only [deleteDynamic, Broker.delete, dropNode]
  cases b.registry.delete name false <;> rfl

/-- A declaration is carried out by its request, and perhaps there is something to tell. -/
theorem declare_eq_administer (b : Broker) (d : Declaration) :
    (b.declare d).1 = b.administer d.request ∨ ∃ n, (b.declare d).1 = (b.administer d.request).note n := by
  cases d with
  | queue q =>
    refine .inl ?_
    simp only [declare, administer, Declaration.request]
    split <;> (rename_i h; rw [h])
  | exchange e =>
    refine .inl ?_
    simp only [declare, administer, Declaration.request]
    split <;> (rename_i h; rw [h])
  | alternate name alternate =>
    refine .inl ?_
    simp only [declare, administer, Declaration.request]
    split <;> (rename_i h; rw [h])
  | binding d =>
    simp only [declare, declareBinding, administer, Declaration.request]
    split
    · rename_i h
      exact .inl (by rw [h])
    · rename_i h
      exact .inl (by rw [h])
    · rename_i h
      exact .inr ⟨_, by rw [h]⟩

section Applying

variable {P : Broker → Prop} (administer : ∀ b q, P b → P (b.administer q)) (note : ∀ b n, P b → P (b.note n))

include administer note

theorem declareAll_induction : ∀ (ds : List Declaration) (b : Broker), P b → P (b.declareAll ds).1
  | [], _, h => h
  | d :: ds, b, h => by
    have hd : P (b.declare d).1 := by
      rcases b.declare_eq_administer d with heq | ⟨n, heq⟩
      · rw [heq]
        exact administer b d.request h
      · rw [heq]
        exact note _ n (administer b d.request h)
    unfold declareAll
    split
    · rename_i heq
      rwa [heq] at hd
    · rename_i heq
      rw [heq] at hd
      exact declareAll_induction ds _ hd

/-- **What requests keep, applying a topology keeps**, as far as it gets. -/
theorem applyTopology_induction (t : Topology) {b : Broker} (h : P b) : P (b.applyTopology t).1 := by
  have hall := declareAll_induction administer note t.steps b h
  unfold applyTopology
  split
  · rename_i heq
    rwa [heq] at hall
  · rename_i heq
    rw [heq] at hall
    exact note _ _ hall

end Applying

theorem becomes_applyTopology (b : Broker) (t : Topology) : Becomes b (b.applyTopology t).1 :=
  applyTopology_induction (fun _ q h => h.trans (administered_administer _ q).becomes)
    (fun _ _ h => h.trans (.of_registry rfl)) t (.refl b)

theorem skips_applyTopology (b : Broker) (t : Topology) : Skips b (b.applyTopology t).1 :=
  applyTopology_induction (fun _ q h => h.trans (administered_administer _ q).skips)
    (fun _ _ h => h.trans (skips_note _ _)) t ⟨rfl, Nat.le_refl _⟩

theorem Numbered.skips {b b' : Broker} (h : b.Numbered) (skips : Skips b b') : b'.Numbered := by
  intro l x r hx hr
  refine Nat.lt_of_lt_of_le (h l x r ?_ hr) skips.receivers
  unfold link? at hx ⊢
  rwa [skips.links] at hx

end Broker

namespace World

/-- **What can become of a world** at a time. -/
inductive Evolves (w : World) : World → Prop where
  /-- An event, or a link is handed a receiver. -/
  | goes {w' : World} (goes : w.Goes w') : Evolves w w'
  | setUp (t : Topology) : Evolves w { w with broker := (w.broker.applyTopology t).1 }
  | nodeMade (link : String) : Evolves w { w with broker := (w.broker.createDynamic link).1 }
  | nodeDropped (name : String) : Evolves w { w with broker := (w.broker.deleteDynamic name).1 }

theorem evolves_after : ∀ (es : List Event) (w : World), Relation.ReflTransGen Evolves w (w.after es)
  | [], _ => .refl
  | e :: es, w => .head (.goes (.event e)) (evolves_after es (w.take e).after)

namespace Evolves

variable {w w' : World}

theorem becomes (h : w.Evolves w') : w.broker.Becomes w'.broker := by
  cases h with
  | goes goes =>
    cases goes with
    | event e => exact w.becomes_take e
    | handed l next n => exact Broker.becomes_setReceiver { w.broker with receivers := n } l next
  | setUp t => exact w.broker.becomes_applyTopology t
  | nodeMade link => exact Broker.linkSteps_becomes.createDynamic w.broker link
  | nodeDropped name => exact Broker.linkSteps_becomes.deleteDynamic w.broker name

theorem numbered (h : w.Evolves w') (before : w.broker.Numbered) : w'.broker.Numbered := by
  cases h with
  | goes goes => exact goes.numbered before
  | setUp t => exact before.skips (w.broker.skips_applyTopology t)
  | nodeMade link => exact before.skips (w.broker.skips_createDynamic link)
  | nodeDropped name => exact before.skips (w.broker.skips_deleteDynamic name)

end Evolves

theorem becomes_of_evolves {w w' : World} (evolves : Relation.ReflTransGen Evolves w w') :
    w.broker.Becomes w'.broker := by
  induction evolves with
  | refl => exact .refl _
  | tail _ h ih => exact ih.trans h.becomes

section New

variable {settings : HostSettings} {store : Store} {principal : Principal} {w : World}
  (evolves : Relation.ReflTransGen Evolves (.new settings store principal) w)

include evolves

/-- **The registry's invariant holds in every world that came about from a new one.** -/
theorem consistent_of_evolves : w.broker.registry.Consistent :=
  (becomes_of_evolves evolves).consistent (.new settings)

/-- No link of such a world has a receiver that is still to be made. -/
theorem numbered_of_evolves : w.broker.Numbered := by
  induction evolves with
  | refl =>
    intro l x r hx
    cases hx
  | tail _ h ih => exact h.numbered ih

end New
end World
end MessageBroker
