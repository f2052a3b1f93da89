import MessageBroker.Proofs.Registry.Requests
import MessageBroker.Routing
/-!
# What every walk keeps

A walk only notes, marks and reaches queues that take the message, so a property that each of these keeps holds of
what the walk has found in the end (`walk_keeps`), whatever cycles there are and however few hops it may take.
-/
namespace MessageBroker

/-- A live queue with room. -/
def Registry.Takes (r : Registry) (q : DestinationId) : Prop :=
  ∃ x c, r.live? q = some x ∧ x.body = .queue c ∧ c.hasRoom = true

namespace Routing

theorem landing_takes {r : Registry} {q : DestinationId} : ∀ (n : Nat) (d : DestinationId),
    (landing r n d).1 = .queue q → r.Takes q
  | 0, _, h => by cases h
  | n + 1, d, h => by
    unfold landing at h
    split at h
    · cases h
    rename_i x live
    split at h
    · cases h
    rename_i c body
    split at h
    · rename_i room
      cases h
      exact ⟨x, c, live, body, room⟩
    · simp only at h
      split at h
      · cases h
      rename_i a _
      have ih := landing_takes (r := r) (q := q) n a
      revert h ih
      cases (landing r n a).1 with
      | nowhere => exact fun h _ => by cases h
      | queue q' => exact fun h ih => ih (by cases h; rfl)
      | exchange e hops => exact fun h _ => by cases h

variable {s : Scope} {P : Progress → Prop}

/-- **A property that noting and marking keep, and so does reaching a queue that takes the message.** -/
structure Steady (r : Registry) (P : Progress → Prop) : Prop where
  note : ∀ p ns, P p → P (p.note ns)
  mark : ∀ p d key v, P p → P (p.mark d key v)
  reach : ∀ p q, r.Takes q → P p → P (p.reach q)

theorem Steady.sendTo (h : Steady s.registry P) {enter : Enter}
    (henter : ∀ d key hops p, P p → P (enter d key hops p).2) (d : DestinationId) (key : String) (hops : Nat)
    {p : Progress} (hp : P p) : P (sendTo s enter d key hops p).2 := by
  have hl : ∀ q, (landingOf s.registry d).1 = .queue q → s.registry.Takes q := fun q => landing_takes _ d
  unfold Routing.sendTo
  generalize landingOf s.registry d = o at hl ⊢
  obtain ⟨l, notices⟩ := o
  cases l with
  | nowhere => exact h.note p notices hp
  | queue q => exact h.reach _ q (hl q rfl) (h.note p notices hp)
  | exchange e further => exact henter e key _ _ (h.note p notices hp)

theorem Steady.sendAlong (h : Steady s.registry P) {enter : Enter}
    (henter : ∀ d key hops p, P p → P (enter d key hops p).2) (name key : String) (hops : Nat) :
    ∀ (bs : List Binding) (p : Progress), P p → P (sendAlong s enter name key hops bs p).2
  | [], _, hp => hp
  | b :: bs, p, hp => by
    unfold Routing.sendAlong
    split
    · exact h.sendAlong henter name key hops bs _ (h.sendTo henter _ _ hops hp)
    · exact h.sendAlong henter name key hops bs _ (h.note p _ hp)

/-- **A walk keeps what its steps keep**, by induction on the hops that are left. -/
theorem walk_keeps (h : Steady s.registry P) : ∀ (fuel : Nat) (d : DestinationId) (key : String) (hops : Nat)
    (p : Progress), P p → P (walk s fuel d key hops p).2 := by
  intro fuel
  induction fuel with
  | zero => exact fun _ _ _ _ hp => hp
  | succ fuel ih =>
    intro d key hops p hp
    unfold walk
    split
    · exact hp
    rename_i x _
    split
    · exact hp
    rename_i e _
    split
    · exact h.note p _ hp
    split
    · exact hp
    · exact hp
    have h1 := h.sendAlong ih x.name key hops (e.candidates key) _ (h.mark p d key .underWay hp)
    generalize Routing.sendAlong s (walk s fuel) x.name key hops (e.candidates key) _ = o at h1 ⊢
    simp only
    refine h.mark _ d key _ ?_
    split
    · split
      · exact h1
      · exact h.sendTo ih _ key _ (h.note o.2 _ h1)
    · exact h1

/-- What a walk has reached: each queue once, and only queues that take the message. -/
def Sound (r : Registry) (qs : List DestinationId) : Prop := qs.Nodup ∧ ∀ q ∈ qs, r.Takes q

theorem sound_nil (r : Registry) : Sound r [] := ⟨List.nodup_nil, fun _ hq => (List.not_mem_nil hq).elim⟩

theorem steady_sound (r : Registry) : Steady r fun p => Sound r p.queues := by
  refine ⟨fun _ _ hp => hp, fun _ _ _ _ hp => hp, fun p q hq hp => ?_⟩
  unfold Progress.reach
  split
  · exact hp
  · rename_i hnew
    refine ⟨List.nodup_append.2 ⟨hp.1, by simp, fun a ha b hb => ?_⟩, fun i hi => ?_⟩
    · rw [List.mem_singleton.1 hb]
      exact fun he => hnew (by simpa [he] using ha)
    · rcases List.mem_append.1 hi with hi | hi
      · exact hp.2 i hi
      · rw [List.mem_singleton.1 hi]
        exact hq

end Routing

namespace Registry

open Routing

/-- **Routing finds each queue once, and only live queues with room.** -/
theorem route_sound (r : Registry) (exchange : DestinationId) (message : Message) (key : String)
    (properties : InstanceProperties) : Sound r (r.route exchange message key properties).1.queues := by
  unfold route
  split
  · exact sound_nil r
  · exact walk_keeps (s := ⟨r, message.headers, counterModulus⟩) (steady_sound r) _ _ _ _ _ (sound_nil r)

theorem routeToQueue_sound {r : Registry} {q : DestinationId} (hq : (r.get? q).bind Destination.exchange? = none)
    (message : Message) (properties : InstanceProperties) :
    Sound r (r.routeToQueue q message properties).queues := by
  unfold routeToQueue
  simp only
  split
  · rename_i ha
    cases hx : r.get? q with
    | none => simp [hx] at ha
    | some x =>
      obtain ⟨c, body⟩ : ∃ c, x.body = .queue c := by
        cases body : x.body with
        | queue c => exact ⟨c, rfl⟩
        | exchange e => simp [hx, Destination.exchange?, body] at hq
      have hlive : x.deleted = false ∧ c.hasRoom = true := by
        simpa [hx, Destination.accepts, body] using ha
      refine ⟨by simp, fun i hi => ?_⟩
      rw [List.mem_singleton.1 hi]
      exact ⟨x, c, live?_eq_some.2 ⟨hx, hlive.1⟩, body, hlive.2⟩
  · exact sound_nil r

end Registry
end MessageBroker
