import MessageBroker.Proofs.Broker.Deliveries
import MessageBroker.Proofs.Broker.Upkeep
/-!
# What deliveries uphold

Sending a routing result and receiving a delivery uphold what every operation does; if they fail, on whichever path,
they have moved nothing, and the reference that was taken for the delivery is released (`reliable_receive`).
-/
namespace MessageBroker
namespace Broker

open Registry Routing

/-- **An operation upholds everything, and moves nothing if it fails.** -/
inductive Reliable {ε α : Type} (b : Broker) : Broker × Except ε α → Prop where
  | failed {b' : Broker} {e : ε} (h : Untouched b b') : Reliable b (b', .error e)
  | done {b' : Broker} {a : α} (h : Upholds b b') : Reliable b (b', .ok a)

variable {b b' : Broker} {t : Transaction}

theorem Reliable.upholds {ε α : Type} {o : Broker × Except ε α} (h : Reliable b o) : Upholds b o.1 := by
  cases h with
  | failed h => exact h.upholds
  | done h => exact h

theorem Reliable.untouched {ε α : Type} {o : Broker × Except ε α} {e : ε} (h : Reliable b o) (failed : o.2 = .error e) :
    Untouched b o.1 := by
  cases h with
  | failed h => exact h
  | done h => cases failed

/-- After something that moves nothing. -/
theorem Untouched.then {ε α : Type} {o : Broker × Except ε α} (h : Untouched b b') (h' : Reliable b' o) :
    Reliable b o := by
  cases h' with
  | failed h' => exact .failed (h.trans h')
  | done h' => exact .done (h.upholds.trans h')

/-! ## Sending -/

theorem reliable_send {result : RoutingResult} (aimed : b.registry.Aimed result.placements) (t : Transaction) :
    Reliable b (b.send result t) := by
  have hopen : ∀ id n, t = .inside id → (b.send result t).2 = .ok n → result.placements ≠ [] →
      (b.account id).isSome = true := fun id n ht hn => by
    subst ht
    exact isOpen_of_send hn
  unfold send at hopen ⊢
  cases t with
  | autoCommit =>
    have hp := untouched_persist b (result.queues.filterMap (b.recordFor · result.message))
    simp only
    split
    · rename_i heq
      rw [heq] at hp
      exact .failed hp
    · rename_i b1 heq
      rw [heq] at hp
      have h1 := upholds_placeAll result.placements b1 fun p hp' => by rw [hp.registry]; exact aimed.made p hp'
      rw [RoutingResult.placements, List.foldl_map] at h1
      exact .done (hp.upholds.trans h1)
  | inside id =>
    simp only at hopen ⊢
    split
    · exact .failed (.refl b)
    · rename_i hfree
      rw [if_neg hfree] at hopen
      refine .done ?_
      by_cases hne : result.placements = []
      · have hq : result.queues = [] := by simpa [RoutingResult.placements] using hne
        rw [hq]
        exact .refl b
      · have h1 := upholds_holdAll result.placements b (hopen id _ rfl rfl hne)
        rw [RoutingResult.placements, List.foldl_map] at h1
        exact h1

theorem reliable_enqueueRouted {result : RoutingResult} (aimed : b.registry.Aimed result.placements) (t : Transaction)
    (discard : Bool) (address : String) : Reliable b (b.enqueueRouted result t discard address) := by
  have h := reliable_send aimed t
  unfold enqueueRouted
  split
  · exact .done (.refl b)
  · split
    · rename_i heq
      rw [heq] at h
      exact .failed (h.untouched rfl)
    · rename_i heq
      rw [heq] at h
      exact .done h.upholds

theorem untouched_routeTo (b : Broker) (resolved : Resolved) (message : Message) :
    Untouched b (b.routeTo resolved message).1 := by
  unfold routeTo
  split
  · exact untouched_noteAll b _
  · exact .refl b

theorem reliable_sendToNode (b : Broker) (resolved : Resolved) (message : Message) (t : Transaction) (discard : Bool)
    (address : String) : Reliable b (b.sendToNode resolved message t discard address) := by
  have h1 := untouched_routeTo b resolved message
  have hs := aimed_of_sound (routeTo_sound b resolved message)
  rw [← h1.registry] at hs
  exact h1.then (reliable_enqueueRouted hs t discard address)

/-! ## Receiving -/

theorem reliable_outcomeOf (b : Broker) (source : Source) {r : Receiver} (hr : r.Plain) (message : Message)
    (t : Transaction) : Reliable b (b.outcomeOf source r message t) := by
  unfold outcomeOf
  split
  · split
    · exact .done (.refl b)
    · exact .failed (.refl b)
  · unfold sendToReceiver
    cases hk : r.kind with
    | node d key discard => exact reliable_sendToNode b ⟨d, key⟩ message t discard r.address
    | relay discard =>
      simp only
      split
      · exact .done (.refl b)
      · split
        · exact .done (.refl b)
        · exact reliable_sendToNode b _ message t discard _
    | scripted s => exact absurd hk (hr s)

theorem upholds_answer (b : Broker) (l : LinkId) (t : Transaction) (d : Disposition) :
    Upholds b (b.answer l t d) := by
  unfold answer
  cases d.state with
  | none =>
    cases t with
    | autoCommit => exact upholds_sendDisposition b l d
    | inside id => exact upholds_owe b id ⟨l, d⟩
  | some s =>
    have h : Upholds b (b.modifyLink l fun x => { x with unsettled := x.unsettled.record d.tag (some s) }) :=
      linkSteps_upholds.modify b l (fun _ => rfl) fun _ => rfl
    cases t with
    | autoCommit => exact h.trans (upholds_sendDisposition _ l d)
    | inside id => exact h.trans (upholds_owe _ id ⟨l, d⟩)

theorem upholds_complete (b : Broker) (l : LinkId) (link : Link) (delivery : Delivery) (message : Message)
    (t : Transaction) (settled : Bool) (outcome : Outcome) :
    Upholds b (b.complete l link delivery message t settled outcome) := by
  unfold complete
  simp only
  have h1 : Upholds b (if mistaken (link.source.getD {}) outcome then b.doom t else b) := by
    split
    · exact (untouched_doom b t).upholds
    · exact .refl b
  have h2 : ∀ b : Broker, Upholds b (b.count t message.size) := fun _ => ⟨id, fun _ => rfl⟩
  exact ((h1.trans (upholds_answer _ l t _)).trans (h2 _)).trans (upholds_note _ _)

theorem reliable_deliver (b : Broker) (l : LinkId) {link : Link} (hr : ∀ r, link.receiver = some r → r.Plain)
    (delivery : Delivery) (message : Message) (t : Transaction) (settled : Bool) :
    Reliable b (b.deliver l link delivery message t settled) := by
  unfold deliver
  split
  · exact .failed (.refl b)
  · split
    · exact .failed (.refl b)
    · rename_i r heq
      have h := reliable_outcomeOf b (link.source.getD {}) (hr r heq) message t
      split
      · rename_i heq
        rw [heq] at h
        exact .failed (h.untouched rfl)
      · rename_i heq
        rw [heq] at h
        exact .done (h.upholds.trans (upholds_complete _ l link delivery message t settled _))

/-- What moves nothing while a reference is held moves nothing once it is released. -/
theorem Untouched.released {m : MessageId} (h : Untouched (b.acquire m) b') : Untouched b (b'.release m) := by
  refine ⟨h.registry, fun m' => ?_, h.withheld⟩
  have h1 := h.count m'
  have h2 := b.references.count_acquire m m'
  have h3 := b'.references.count_release m m'
  simp only [acquire] at h1
  simp only [release]
  omega

theorem Upholds.released {m : MessageId} (h : Upholds (b.acquire m) b') : Upholds b (b'.release m) := by
  refine ⟨h.consistent, fun m' => ?_⟩
  rw [surplus_release, h.surplus, surplus_acquire]
  omega

/-- **The reference that is held for a delivery is released** on every path. -/
theorem reliable_process (b : Broker) (l : LinkId) {link : Link} (hr : ∀ r, link.receiver = some r → r.Plain)
    (delivery : Delivery) (settled : Bool) : Reliable b (b.process l link delivery settled) := by
  unfold process
  split
  · exact .failed (.refl b)
  split
  · exact .failed (.refl b)
  rename_i message _ _ t _
  have h := reliable_deliver (b.acquire message.id) l hr delivery message t settled
  split
  · rename_i heq
    rw [heq] at h
    exact .failed ((h.untouched rfl).trans (untouched_doom _ t)).released
  · rename_i heq
    rw [heq] at h
    exact .done h.upholds.released

theorem reliable_resumeDelivery (b : Broker) (l : LinkId) (link : Link) (tag : DeliveryTag) (settled : Bool) :
    Reliable b (b.resumeDelivery l link tag settled) := by
  unfold resumeDelivery
  split
  · exact .done ((upholds_note b _).trans (upholds_sendDisposition _ l _))
  · exact .failed (.refl b)

/-- **Receiving a delivery upholds everything**, and moves nothing if it fails. -/
theorem reliable_receive (b : Broker) (l : LinkId) {link : Link} (hr : ∀ r, link.receiver = some r → r.Plain)
    (delivery : Delivery) : Reliable b (b.receive l link delivery) := by
  unfold receive ensureAttached
  split
  · rename_i heq
    split at heq
    · cases heq
    · cases heq
      exact .failed (untouched_note b _)
  · rename_i heq
    split at heq
    · cases heq
      simp only
      split
      · exact reliable_resumeDelivery b l link _ _
      · have h := reliable_process b l hr delivery (link.settlesFirst delivery.settleMode)
        split
        · rename_i heq
          rw [heq] at h
          exact .done h.upholds
        · rename_i heq
          rw [heq] at h
          exact .failed ((h.untouched rfl).trans (untouched_note _ _))
    · cases heq

end Broker
end MessageBroker
