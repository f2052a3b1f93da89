import MessageBroker.Proofs.Broker.Offering
/-!
# What publishing, transactions and deliveries are made of

Publishing, transactions and deliveries work in a few kinds of steps: entries are placed, unsettled deliveries are
recorded and forgotten, and the rest is keeping books.  A relation that these steps stay in is one that holds of every
such operation (`WorkSteps`), as it is with links and administration (`LinkSteps`).
-/
namespace MessageBroker
namespace Broker

/-- **A relation in which each step of publishing, of a transaction and of a delivery stays**, and in which steps add
up. -/
structure WorkSteps (R : Broker → Broker → Prop) : Prop where
  refl : ∀ b, R b b
  trans : ∀ {b b' b''}, R b b' → R b' b'' → R b b''
  /-- Counting, recording, noting, sending, and all that is done with transactions. -/
  books : ∀ (b : Broker) references records statistics transactions deeds outbox journal, R b
    { b with references, store.records := records, statistics, transactions, deeds, outbox, journal }
  place : ∀ b q entry, R b (b.place q entry)
  unsettled : ∀ (b : Broker) l (f : Unsettled → Unsettled),
    R b (b.modifyLink l fun x => { x with unsettled := f x.unsettled })

/-- **Of the registry, nothing but what is on queues is changed**, so what such a change keeps, all of it keeps. -/
theorem workSteps_registry {R : Registry → Registry → Prop} (refl : ∀ r, R r r)
    (trans : ∀ {r r' r''}, R r r' → R r' r'' → R r r'') (queue : ∀ r d f, R r (r.modify d (·.mapQueue f))) :
    WorkSteps fun b b' => R b.registry b'.registry where
  refl := fun b => refl b.registry
  trans := trans
  books := fun b _ _ _ _ _ _ _ => refl b.registry
  place := fun b q entry => by
    unfold place
    split
    · exact refl b.registry
    · exact queue b.registry q _
  unsettled := fun b _ _ => refl b.registry

namespace WorkSteps

variable {R : Broker → Broker → Prop} (h : WorkSteps R) (b : Broker)

include h

theorem note (n : Notice) : R b (b.note n) := h.books b _ _ _ _ _ _ _

theorem noteAll (ns : List Notice) : R b (b.noteAll ns) := h.books b _ _ _ _ _ _ _

theorem acquire (m : MessageId) : R b (b.acquire m) := h.books b _ _ _ _ _ _ _

theorem release (m : MessageId) : R b (b.release m) := h.books b _ _ _ _ _ _ _

theorem modifyTransaction (i : TransactionId) (f : LocalTransaction → LocalTransaction) :
    R b (b.modifyTransaction i f) := by
  obtain ⟨ts, heq, -⟩ := b.modifyTransaction_eq i f
  rw [heq]
  exact h.books b _ _ _ _ _ _ _

/-- A step that is done for each of a list, in order. -/
theorem foldl {α : Type} {f : Broker → α → Broker} (step : ∀ b a, R b (f b a)) (as : List α) :
    R b (as.foldl f b) := by
  induction as generalizing b with
  | nil => exact h.refl b
  | cons a as ih => exact h.trans (step b a) (ih (f b a))

/-! ## Publishing -/

theorem persist (records : List StoreRecord) : R b (b.persist records).1 := by
  rw [persist_fst]
  exact h.books b _ _ _ _ _ _ _

theorem send (result : RoutingResult) (t : Transaction) : R b (b.send result t).1 := by
  unfold Broker.send
  cases t with
  | autoCommit =>
    have hp := h.persist b (result.queues.filterMap (b.recordFor · result.message))
    simp only
    split
    · rename_i heq
      rwa [heq] at hp
    · rename_i heq
      rw [heq] at hp
      exact h.trans hp (h.foldl _ (fun b q => h.place b q _) result.queues)
  | inside i =>
    simp only
    split
    · exact h.refl b
    · exact h.foldl b (fun b q => h.trans (h.modifyTransaction b i _) (h.acquire _ _)) result.queues

theorem begin : R b b.begin.1 := h.books b _ _ _ _ _ _ _

theorem doom (t : Transaction) : R b (b.doom t) := by
  unfold Broker.doom
  split
  · exact h.refl b
  simp only
  split
  · exact h.refl b
  · exact h.trans (h.modifyTransaction b _ _) (h.note _ _)

/-! ## Dispositions -/

theorem dispatch (l : LinkId) (link : Link) (d : Disposition) : R b (b.dispatch l link d) := by
  unfold Broker.dispatch
  split
  · exact h.books b _ _ _ _ _ _ _
  · exact h.note b _

theorem sendDisposition (l : LinkId) (d : Disposition) : R b (b.sendDisposition l d) := by
  unfold Broker.sendDisposition
  split
  · exact h.refl b
  · rename_i link _
    exact h.trans (h.unsettled b l (settleOrRecord · d)) (h.trans (h.note _ _) (h.dispatch _ l link d))

theorem fire (as : List SettlementAction) : R b (b.fire as) := by
  unfold Broker.fire
  exact h.foldl b (fun b a => h.sendDisposition b a.link a.disposition) as

theorem owe (i : TransactionId) (a : SettlementAction) : R b (b.owe i a) := by
  unfold Broker.owe
  split
  · exact h.fire b [a]
  · exact h.modifyTransaction b i _

theorem answer (l : LinkId) (t : Transaction) (d : Disposition) : R b (b.answer l t d) := by
  unfold Broker.answer
  cases d.state with
  | none =>
    cases t with
    | autoCommit => exact h.sendDisposition b l d
    | inside i => exact h.owe b i ⟨l, d⟩
  | some s =>
    refine h.trans (h.unsettled b l (·.record d.tag (some s))) ?_
    cases t with
    | autoCommit => exact h.sendDisposition _ l d
    | inside i => exact h.owe _ i ⟨l, d⟩

/-! ## The end of a transaction -/

/-- What is done with the rest of a transaction when it is given up. -/
theorem giveUp (t : LocalTransaction) (n : Notice) : R b (((b.discard t.pending).fire t.actions).note n) :=
  h.trans (h.trans (h.books b _ _ _ _ _ _ _) (h.fire _ t.actions)) (h.note _ n)

theorem placeHeld (ps : List PendingEnqueue) : R b (b.placeHeld ps) := by
  unfold Broker.placeHeld
  exact h.foldl b (fun b p => h.trans (h.place b p.queue p.entry) (h.release _ p.entry.message.id)) ps

theorem commit (i : TransactionId) : R b (b.commit i).1 := by
  unfold Broker.commit
  split
  · exact h.refl b
  rename_i t _
  have h1 : R b (b.close i) := h.modifyTransaction b i _
  simp only
  split
  · exact h.trans h1 (h.giveUp _ t _)
  have hp := h.persist (b.close i) (t.pending.filterMap fun p => (b.close i).recordFor p.queue p.entry.message)
  split
  · rename_i heq
    rw [heq] at hp
    exact h.trans (h.trans h1 hp) (h.giveUp _ t _)
  · rename_i heq
    rw [heq] at hp
    exact h.trans (h.trans h1 hp) (h.trans (h.trans (h.placeHeld _ t.pending) (h.fire _ t.actions)) (h.note _ _))

theorem rollback (i : TransactionId) : R b (b.rollback i).1 := by
  unfold Broker.rollback
  split
  · exact h.refl b
  · exact h.trans (h.modifyTransaction b i _) (h.giveUp _ _ _)

/-! ## One delivery -/

theorem routeTo (resolved : Resolved) (message : Message) : R b (b.routeTo resolved message).1 := by
  unfold Broker.routeTo
  split
  · exact h.noteAll b _
  · exact h.refl b

theorem sendToNode (resolved : Resolved) (message : Message) (t : Transaction) (discard : Bool) (address : String) :
    R b (b.sendToNode resolved message t discard address).1 := by
  have h1 := h.routeTo b resolved message
  unfold Broker.sendToNode enqueueRouted
  generalize b.routeTo resolved message = o at h1 ⊢
  obtain ⟨b1, result⟩ := o
  have h2 := h.trans h1 (h.send b1 result t)
  simp only
  split
  · exact h1
  · split <;> (rename_i heq; rwa [heq] at h2)

theorem outcomeOf (source : Source) (r : Receiver) (message : Message) (t : Transaction) :
    R b (b.outcomeOf source r message t).1 := by
  unfold Broker.outcomeOf
  split
  · split <;> exact h.refl b
  unfold sendToReceiver
  split
  · exact h.sendToNode b _ message t _ _
  · split
    · exact h.refl b
    · split
      · exact h.refl b
      · exact h.sendToNode b _ message t _ _
  · simp only
    split
    · exact h.commit b _
    · exact h.rollback b _
    · exact h.refl b

theorem complete (l : LinkId) (link : Link) (d : Delivery) (message : Message) (t : Transaction) (settled : Bool)
    (outcome : Outcome) : R b (b.complete l link d message t settled outcome) := by
  have h1 : R b (if mistaken (link.source.getD {}) outcome then b.doom t else b) := by
    split
    · exact h.doom b t
    · exact h.refl b
  unfold Broker.complete
  refine h.trans ?_ (h.note _ _)
  exact h.trans (h.trans h1 (h.answer _ l t _)) (h.books _ _ _ _ _ _ _ _)

theorem deliver (l : LinkId) (link : Link) (d : Delivery) (message : Message) (t : Transaction) (settled : Bool) :
    R b (b.deliver l link d message t settled).1 := by
  unfold Broker.deliver
  split
  · exact h.refl b
  split
  · exact h.refl b
  · rename_i r _
    have h1 := h.outcomeOf b (link.source.getD {}) r message t
    split
    · rename_i heq
      rwa [heq] at h1
    · rename_i heq
      rw [heq] at h1
      exact h.trans h1 (h.complete _ l link d message t settled _)

theorem process (l : LinkId) (link : Link) (d : Delivery) (settled : Bool) : R b (b.process l link d settled).1 := by
  unfold Broker.process
  split
  · exact h.refl b
  split
  · exact h.refl b
  · rename_i message _ _ t _
    have h1 := h.trans (h.acquire b message.id) (h.deliver _ l link d message t settled)
    split
    · rename_i heq
      rw [heq] at h1
      exact h.trans h1 (h.trans (h.doom _ t) (h.release _ _))
    · rename_i heq
      rw [heq] at h1
      exact h.trans h1 (h.release _ _)

theorem receive (l : LinkId) (link : Link) (d : Delivery) : R b (b.receive l link d).1 := by
  unfold Broker.receive ensureAttached
  by_cases hatt : link.state = .attached
  case neg =>
    rw [if_neg hatt]
    exact h.note b _
  rw [if_pos hatt]
  simp only
  split
  · unfold resumeDelivery
    split
    · exact h.trans (h.note b _) (h.sendDisposition _ l _)
    · exact h.refl b
  · have h1 := h.process b l link d (link.settlesFirst d.settleMode)
    split
    · rename_i heq
      rwa [heq] at h1
    · rename_i heq
      rw [heq] at h1
      exact h.trans h1 (h.note _ _)

end WorkSteps
end Broker
end MessageBroker
