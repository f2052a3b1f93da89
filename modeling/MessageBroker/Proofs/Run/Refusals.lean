import MessageBroker.Proofs.Run.References
import MessageBroker.Proofs.Run.Stepwise
/-!
# What is refused changes nothing

A request on the topology that meets with an error, or asks to bind what is bound or to unbind what is not, leaves a
broker as it was, but for what it notes of the refusal (`refused_of_run`).  That is so even where every change is made
as soon as the checks before it have passed.
-/
namespace MessageBroker

namespace Registry

variable {r r' : Registry}

/-- A bound pair that may not be replaced stays as it is. -/
theorem bind_refused {e t : DestinationId} {key : String} {arguments : BindingArguments} {replace : Bool}
    (h : r.bind e t key arguments replace = .ok (r', .refused)) : r' = r := by
  obtain ⟨x, y, s, live, -, -, -, ho, rfl⟩ := bind_eq_ok h
  rw [BindingTable.bind_eq_self (by rw [← ho]; decide) (by rw [← ho]; decide)]
  exact modify_eq_self (live?_eq_some.1 live).1 (mapBindings_self x)

/-- There was no such pair to take out. -/
theorem unbind_refused {e t : DestinationId} {key : String} (h : (r.unbind e t key).2 = false) :
    (r.unbind e t key).1 = r := by
  unfold unbind at h ⊢
  split
  · rfl
  · rename_i x hx
    simp only [hx] at h ⊢
    rw [BindingTable.unbind_false h]
    exact modify_eq_self hx (mapBindings_self x)

end Registry

namespace Broker

/-- What happens to a broker that refuses is that it notes so. -/
def Unmoved (b b' : Broker) : Prop := b' = { b with journal := b'.journal }

variable {b : Broker}

theorem unmoved_bindTo {e t : DestinationId} {key : String} {arguments : BindingArguments} {replace : Bool}
    (h : (b.bindTo e t key arguments replace).2 ≠ .ok true) : Unmoved b (b.bindTo e t key arguments replace).1 := by
  unfold bindTo at h ⊢
  split
  · rfl
  · rename_i r outcome heq
    rw [heq] at h
    cases outcome with
    | refused =>
      obtain rfl := Registry.bind_refused heq
      rfl
    | added => exact absurd rfl h
    | replaced => exact absurd rfl h
    | unchanged => exact absurd rfl h

theorem unmoved_unbindFrom {e t : DestinationId} {key : String} (h : (b.unbindFrom e t key).2 = false) :
    Unmoved b (b.unbindFrom e t key).1 := by
  unfold unbindFrom at h ⊢
  simp only at h ⊢
  split
  · rename_i hremoved
    rw [if_pos hremoved] at h
    cases h
  · rename_i hremoved
    simp only [Registry.unbind_refused (Bool.eq_false_iff.2 hremoved)]
    rfl

/-- **A request that is refused changes nothing.** -/
theorem unmoved_administer {q : TopologyRequest} (h : b.reply q ≠ .ok true) : Unmoved b (b.administer q) := by
  cases q with
  | createQueue q =>
    simp only [reply, administer, createQueue] at h ⊢
    cases heq : b.registry.createQueue q with
    | error e => rfl
    | ok z =>
      rw [heq] at h
      exact absurd rfl h
  | createExchange e =>
    simp only [reply, administer, createExchange] at h ⊢
    cases heq : b.registry.createExchange e with
    | error e => rfl
    | ok z =>
      rw [heq] at h
      exact absurd rfl h
  | setAlternate name alternate =>
    simp only [reply, administer, setAlternate] at h ⊢
    cases heq : b.registry.setAlternate name alternate with
    | error e => rfl
    | ok z =>
      rw [heq] at h
      exact absurd rfl h
  | bind exchange target key arguments replace =>
    simp only [reply, administer, bind] at h ⊢
    cases heq : b.registry.endpoints exchange target with
    | error e => rfl
    | ok z =>
      rw [heq] at h
      exact unmoved_bindTo h
  | bindHeld e t key arguments replace => exact unmoved_bindTo h
  | unbind exchange target key =>
    simp only [reply, administer, unbind] at h ⊢
    cases heq : b.registry.endpoints exchange target with
    | error e => rfl
    | ok z =>
      rw [heq] at h
      exact unmoved_unbindFrom (Bool.eq_false_iff.2 fun ht => h (congrArg Except.ok ht))
  | unbindHeld e t key => exact unmoved_unbindFrom (Bool.eq_false_iff.2 fun ht => h (congrArg Except.ok ht))
  | delete name force =>
    simp only [reply, administer, delete] at h ⊢
    cases heq : b.registry.delete name force with
    | error e => rfl
    | ok z =>
      rw [heq] at h
      exact absurd rfl h

end Broker

/-- **Whatever was done before, a request that is refused changes nothing**: in every state of a run, a request on the
topology that is answered with an error, or with false, leaves everything that the broker holds and all that its users
have as it was, but for what the broker notes; and carried out step by step, with nothing undone at a fault, it gives
the same answer and leaves the same registry. -/
theorem refused_of_run (settings : HostSettings) (store : Store) (principal : Principal) (es : List Event)
    (q : TopologyRequest) (refused : ((World.new settings store principal).after es).broker.reply q ≠ .ok true) :
    let w := (World.new settings store principal).after es
    (w.take (.administer q)).after = { w with broker.journal := (w.broker.administer q).journal } ∧
      q.stepwise.run w.broker.registry = (w.broker.reply q, w.broker.registry) := by
  intro w
  have hb : w.broker.administer q = { w.broker with journal := (w.broker.administer q).journal } :=
    Broker.unmoved_administer refused
  have hc : w.broker.registry.Consistent := (upkept_of_run settings store principal es).consistent
  have hreg : (w.broker.administer q).registry = w.broker.registry := by rw [hb]
  refine ⟨congrArg (fun b => { w with broker := b }) hb, ?_⟩
  rw [Broker.run_stepwise w.broker hc q, hreg]

/-- A queue that is bound, and the alternate of an exchange. -/
def entangle : List Event :=
  [.administer (.createQueue { name := "orders" }),
    .administer (.createExchange { name := "relay", alternate := some "orders" }),
    .administer (.bind "amq.direct" "orders" "new" .empty false)]

/-- Binding it once more under the same key, with other arguments, comes to nothing. -/
theorem refused_entangled :
    let w := (World.new {} ⟨true, ∅, []⟩ {}).after entangle
    let q : TopologyRequest := .bind "amq.direct" "orders" "new" (.ofList [("x-replacement-routing-key", "old")]) false
    w.broker.reply q = .ok false ∧ (w.take (.administer q)).after = { w with
      broker.journal := (w.broker.administer q).journal } ∧
      q.stepwise.run w.broker.registry = (w.broker.reply q, w.broker.registry) := by
  intro w q
  have answer : w.broker.reply q = .ok false := ok_of_toOption (by decide +kernel)
  refine ⟨answer, refused_of_run {} ⟨true, ∅, []⟩ {} entangle q ?_⟩
  intro h
  rw [answer] at h
  cases h

end MessageBroker
