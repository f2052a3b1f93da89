import MessageBroker.Proofs.Broker.Dooming
import MessageBroker.Proofs.Run.Turns
/-!
# Links between operations

An attach may fail after some of what it asks for was taken over, and a detach may end in three ways.  Wherever an
operation leaves a link, the link is not under way from one state to another, and its receiver, its termini, its node
and the credit of its sender are those of the state that it is in (`coherent_of_run`).
-/
namespace MessageBroker

open Broker

/-- **A link between two operations.** -/
structure Link.Coherent (x : Link) : Prop where
  /-- It is not under way from one state to another. -/
  arrived : x.state = .unattached ∨ x.state = .attached ∨ x.state = .detached
  attached_iff : x.state = .attached ↔ x.receiver.isSome = true
  targeted : x.state = .attached → x.target.isSome = true
  idle : x.state ≠ .attached → x.credit = 0
  bare : x.state = .detached → x.source = none ∧ x.target = none ∧ x.capabilities = [] ∧ x.dynamicNode = none

namespace Link

theorem coherent_new (name : String) (settings : LinkSettings) (formats : List Nat) (receiverOpen : Bool) :
    (new name settings formats receiverOpen).Coherent := by
  constructor <;> simp [new]

/-- Whatever a link was, it is coherent once it is torn down. -/
theorem coherent_ended (x : Link) : x.ended.Coherent := by
  constructor <;> simp [ended, clearLink]

theorem coherent_suspended (x : Link) : x.suspended.Coherent := by
  constructor <;> simp [suspended]

/-- A link that an attach has gone through for has a receiver, the one that was found or the same one as before. -/
theorem isSome_receiver_granted (x : Link) (requested final : Target) (r : Receiver) :
    (x.granted requested final r).receiver.isSome = true := by
  unfold granted
  cases h : x.receiver with
  | none => simp [sameReceiver]
  | some old => split <;> rfl

theorem coherent_granted (x : Link) (requested final : Target) (r : Receiver) (unsettled : Unsettled) :
    Coherent { x.granted requested final r with unsettled } := by
  have attached : (x.granted requested final r).state = .attached := rfl
  have received := x.isSome_receiver_granted requested final r
  exact ⟨.inr (.inl attached), iff_of_true attached received, fun _ => rfl, fun h => absurd attached h,
    fun h => by cases attached.symm.trans h⟩

end Link

/-- **Every step leaves a link coherent**: only an attach of any kind, a detach and destroying it touch more than the
unsettled deliveries and the credit, and these leave it in one of three shapes. -/
theorem Step.Leaves.coherent {s : Step} {l : LinkId} {x y : Link} (h : s.Leaves l x y) (before : x.Coherent) :
    y.Coherent := by
  cases h with
  | rested apart idle =>
    exact ⟨before.arrived, before.attached_iff, before.targeted, fun h => (idle h).trans (before.idle h), before.bare⟩
  | spurned => exact before
  | attached => exact Link.coherent_granted _ _ _ _ _
  | suspended => exact x.coherent_suspended
  | failed => exact Link.coherent_ended _
  | detached => exact x.coherent_ended
  | destroyed => exact x.coherent_ended

namespace Broker

/-- All links are coherent. -/
def Coherent (b : Broker) : Prop := ∀ l x, b.link? l = some x → x.Coherent

end Broker

theorem World.coherent_take (w : World) (e : Event) (h : w.broker.Coherent) : (w.take e).after.broker.Coherent := by
  intro l y hy
  cases hl : w.broker.link? l with
  | none =>
    have hmade := w.made_eq e hl hy
    cases e with
    | link name settings formats receiverOpen =>
      cases hmade
      exact Link.coherent_new name settings formats receiverOpen
    | _ => cases hmade
  | some x =>
    obtain ⟨y', hy', leaves, -⟩ := w.leaves_take e hl
    rw [hy] at hy'
    cases hy'
    exact leaves.coherent (h l x hl)

theorem coherent_after (settings : HostSettings) (store : Store) (principal : Principal) (es : List Event) :
    ((World.new settings store principal).after es).broker.Coherent := by
  refine World.history_induction (P := fun _ w => w.broker.Coherent) (fun _ w e h => w.coherent_take e h) es [] _ ?_
  intro l x hx
  cases hx

/-- A delivery finds its link in a state that it should not be in only if the link is attached to nothing. -/
theorem Broker.bare_of_illegalState {b : Broker} {l : LinkId} {link : Link} {d : Delivery} {fault : IllegalState}
    (h : (b.receive l link d).2 = .error (.illegalState fault)) : link.state = .attached ∧ link.receiver = none := by
  unfold receive ensureAttached at h
  by_cases attached : link.state = .attached
  case neg => simp [attached] at h
  refine ⟨attached, ?_⟩
  simp only [attached, if_true] at h
  split at h
  · unfold resumeDelivery at h
    split at h <;> cases h
  have hprocess : (b.process l link d (link.settlesFirst d.settleMode)).2 = .error (.illegalState fault) := by
    split at h
    · cases h
    · rename_i heq
      rw [heq]
      exact h
  unfold process at hprocess
  split at hprocess
  · cases hprocess
  split at hprocess
  · cases hprocess
  rename_i message _ _ t _
  have hdeliver := delivering_deliver (b.acquire message.id) l link d message t (link.settlesFirst d.settleMode)
  generalize deliver _ l link d message t _ = o at hprocess hdeliver
  -- of the faults that a delivery can have, only one is not its own
  cases hdeliver with
  | processed => cases hprocess
  | failed fault =>
    cases hprocess
    cases fault with
    | bare receiver => exact receiver

/-- **Between operations every link is coherent.**  In every run, whatever links, settings and sessions there are, whatever
is done with a link and whatever happens beside it: a link is unattached, attached or detached; it is attached just if it
has a receiver, and then has a target; unless it is attached its sender has no credit; and if it is detached it has
neither termini nor capabilities nor a node of its own.  So no delivery that comes in next, on any link, is refused for
the state that the link is in, but as one on a link that is not attached. -/
theorem coherent_of_run (settings : HostSettings) (store : Store) (principal : Principal) (es : List Event) :
    let w := (World.new settings store principal).after es
    w.broker.Coherent ∧
      ∀ l d fault, (w.take (.deliver l d)).answer ≠ .delivered (.error (.illegalState fault)) := by
  intro w
  have coherent : w.broker.Coherent := coherent_after settings store principal es
  refine ⟨coherent, fun l d fault h => ?_⟩
  cases hl : w.broker.link? l with
  | none => simp [World.take, World.step, hl] at h
  | some x =>
    have hresult : (w.broker.receive l x d).2 = .error (.illegalState fault) := by
      simpa [World.take, World.step, hl] using h
    obtain ⟨attached, bare⟩ := bare_of_illegalState hresult
    have received := (coherent l x hl).attached_iff.1 attached
    rw [bare] at received
    cases received

end MessageBroker
