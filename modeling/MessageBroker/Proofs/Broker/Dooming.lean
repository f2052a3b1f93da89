import MessageBroker.Proofs.Broker.Failing
/-!
# What dooms a transaction

A transaction is begun, doomed, or ended; all else that a broker does leaves its fate alone (`SameFate`).  A
delivery dooms the transaction that it names if it fails once that was found, or if its sender would take the outcome
for another one (`dooming_receive`).
-/
namespace MessageBroker
namespace Broker

/-- Whether a transaction is doomed, if it is open. -/
def doomed? (b : Broker) (i : TransactionId) : Option Bool := (b.active? i).map (·.rollbackOnly)

/-- **Every transaction fares as it did.** -/
def SameFate (b b' : Broker) : Prop := ∀ i, b'.doomed? i = b.doomed? i

/-- Every transaction fares as it did, but `t` is doomed now if it `fails`, unless it was ended. -/
def Strikes (b b' : Broker) (t : Transaction) (fails : Bool) : Prop :=
  ∀ i, b'.doomed? i = (b.doomed? i).map (· || fails && t == .inside i) ∨ t = .inside i ∧ b'.doomed? i = none

variable {b b' b'' : Broker} {t : Transaction} {fails : Bool}

theorem SameFate.refl (b : Broker) : SameFate b b := fun _ => rfl

theorem SameFate.trans (h : SameFate b b') (h' : SameFate b' b'') : SameFate b b'' := fun i => (h' i).trans (h i)

/-- Only the transactions count. -/
theorem SameFate.of_transactions (h : b'.transactions = b.transactions) : SameFate b b' := by
  intro i
  unfold doomed? active? transaction?
  rw [h]

theorem SameFate.strikes (h : SameFate b b') (t : Transaction) : Strikes b b' t false := by
  intro i
  left
  simp [h i]

theorem SameFate.then (h : SameFate b b') (h' : Strikes b' b'' t fails) : Strikes b b'' t fails := by
  intro i
  rw [← h i]
  exact h' i

theorem Strikes.followed (h : Strikes b b' t fails) (h' : SameFate b' b'') : Strikes b b'' t fails := by
  intro i
  rw [h' i]
  exact h i

/-! ## What leaves the fate of transactions alone -/

theorem sameFate_note (b : Broker) (n : Notice) : SameFate b (b.note n) := .of_transactions rfl

theorem linkSteps_sameFate : LinkSteps SameFate where
  refl := .refl
  trans := .trans
  administered := by
    intro b b' h
    cases h with
    | refused ns => exact .of_transactions rfl
    | granted granted copies ns => exact .of_transactions rfl
    | deleted granted es copies ns => exact .of_transactions rfl
  modifyLink := fun _ _ _ _ _ => .of_transactions rfl
  receivers := fun _ _ => .of_transactions rfl
  dynamicNodes := fun _ _ => .of_transactions rfl
  links := fun _ _ _ _ _ => .of_transactions rfl

theorem sameFate_setReceiver (b : Broker) (l : LinkId) (next : Option Receiver) : SameFate b (b.setReceiver l next) :=
  linkSteps_sameFate.handReceiver b l fun _ => .of_transactions rfl

/-- What is held back or owed is no concern of a transaction's fate. -/
theorem sameFate_modifyTransaction (b : Broker) (j : TransactionId) {f : LocalTransaction → LocalTransaction}
    (hresolved : ∀ t, (f t).resolved = t.resolved) (hdoomed : ∀ t, (f t).rollbackOnly = t.rollbackOnly) :
    SameFate b (b.modifyTransaction j f) := by
  intro i
  unfold doomed?
  rw [active?_modifyTransaction b j hresolved, Option.map_map]
  congr 1
  funext t
  by_cases h : j = i
  · simp [h, hdoomed]
  · simp [h]

theorem sameFate_sendDisposition (b : Broker) (l : LinkId) (d : Disposition) : SameFate b (b.sendDisposition l d) := by
  apply SameFate.of_transactions
  unfold sendDisposition
  split
  · rfl
  · unfold dispatch
    split <;> rfl

theorem sameFate_fire (as : List SettlementAction) (b : Broker) : SameFate b (b.fire as) := by
  induction as generalizing b with
  | nil => exact .refl b
  | cons a as ih => exact (sameFate_sendDisposition b a.link a.disposition).trans (ih _)

theorem sameFate_owe (b : Broker) (j : TransactionId) (a : SettlementAction) : SameFate b (b.owe j a) := by
  unfold owe
  split
  · exact sameFate_fire [a] b
  · exact sameFate_modifyTransaction b j (fun _ => rfl) fun _ => rfl

theorem sameFate_answer (b : Broker) (l : LinkId) (t : Transaction) (d : Disposition) : SameFate b (b.answer l t d) := by
  unfold answer
  cases d.state with
  | none =>
    cases t with
    | autoCommit => exact sameFate_sendDisposition b l d
    | inside i => exact sameFate_owe b i ⟨l, d⟩
  | some s =>
    refine (SameFate.of_transactions rfl : SameFate b (b.modifyLink l fun x =>
      { x with unsettled := x.unsettled.record d.tag (some s) })).trans ?_
    cases t with
    | autoCommit => exact sameFate_sendDisposition _ l d
    | inside i => exact sameFate_owe _ i ⟨l, d⟩

theorem sameFate_placeOn (entry : QueueEntry) (qs : List DestinationId) (b : Broker) :
    SameFate b (qs.foldl (·.place · entry) b) := by
  induction qs generalizing b with
  | nil => exact .refl b
  | cons q qs ih =>
    have h : SameFate b (b.place q entry) := by
      apply SameFate.of_transactions
      unfold place
      split <;> rfl
    exact h.trans (ih _)

theorem sameFate_holdAll (i : TransactionId) (entry : QueueEntry) (qs : List DestinationId) (b : Broker) :
    SameFate b (qs.foldl (fun b q => b.hold i q entry) b) := by
  induction qs generalizing b with
  | nil => exact .refl b
  | cons q qs ih =>
    have h : SameFate b (b.hold i q entry) :=
      (sameFate_modifyTransaction b i (f := fun t => { t with pending := t.pending ++ [⟨q, entry⟩] }) (fun _ => rfl)
        fun _ => rfl).trans (.of_transactions rfl)
    exact h.trans (ih _)

theorem sameFate_persist (b : Broker) (records : List StoreRecord) : SameFate b (b.persist records).1 := by
  rw [persist_fst]
  exact .of_transactions rfl

theorem sameFate_send (b : Broker) (result : RoutingResult) (t : Transaction) : SameFate b (b.send result t).1 := by
  unfold send
  cases t with
  | autoCommit =>
    have h := sameFate_persist b (result.queues.filterMap (b.recordFor · result.message))
    simp only
    split
    · rename_i heq
      rwa [heq] at h
    · rename_i heq
      rw [heq] at h
      exact h.trans (sameFate_placeOn _ result.queues _)
  | inside i =>
    simp only
    split
    · exact .refl b
    · exact sameFate_holdAll i _ _ b

/-! ## Beginning, dooming and ending -/

theorem doomed?_begin (b : Broker) (i : TransactionId) :
    b.begin.1.doomed? i = if i = b.begin.2 then some false else b.doomed? i := by
  unfold doomed?
  rw [active?_begin]
  split <;> rfl

theorem doomed?_doom (b : Broker) (t : Transaction) (i : TransactionId) :
    (b.doom t).doomed? i = (b.doomed? i).map (· || t == .inside i) := by
  unfold doomed? active?
  rw [(unscathed_doom b t).transactions]
  cases b.transaction? i with
  | none => rfl
  | some x =>
    by_cases ht : t = .inside i
    · cases hr : x.resolved <;> simp [ht, hr, Option.filter]
    · cases hr : x.resolved <;> simp [ht, hr, Option.filter]

theorem doomed?_close (b : Broker) (j i : TransactionId) :
    (b.close j).doomed? i = if i = j then none else b.doomed? i := by
  unfold doomed?
  rw [active?_close]
  split <;> rfl

theorem sameFate_placeHeld (ps : List PendingEnqueue) (b : Broker) : SameFate b (b.placeHeld ps) := by
  unfold placeHeld
  induction ps generalizing b with
  | nil => exact .refl b
  | cons p ps ih =>
    have h : SameFate b ((b.place p.queue p.entry).release p.entry.message.id) := by
      apply SameFate.of_transactions
      unfold place
      split <;> rfl
    exact h.trans (ih _)

/-- **A commit ends its transaction**, granted or not, and no other. -/
theorem doomed?_commit (b : Broker) (j i : TransactionId) :
    (b.commit j).1.doomed? i = if i = j then none else b.doomed? i := by
  unfold commit
  cases ht : b.active? j with
  | none =>
    have hnone : b.doomed? j = none := by rw [doomed?, ht]; rfl
    by_cases hi : i = j
    · simp [hi, hnone]
    · simp [hi]
  | some t =>
    simp only
    rw [← doomed?_close]
    have hp := sameFate_persist (b.close j)
      (t.pending.filterMap fun p => (b.close j).recordFor p.queue p.entry.message)
    have hd : ∀ b' : Broker, SameFate b' (b'.discard t.pending) := fun b' => .of_transactions rfl
    split
    · exact ((hd _).trans ((sameFate_fire t.actions _).trans (sameFate_note _ _))) i
    · split
      · rename_i heq
        rw [heq] at hp
        exact (hp.trans ((hd _).trans ((sameFate_fire t.actions _).trans (sameFate_note _ _)))) i
      · rename_i heq
        rw [heq] at hp
        exact (hp.trans ((sameFate_placeHeld t.pending _).trans ((sameFate_fire t.actions _).trans (sameFate_note _ _)))) i

theorem doomed?_rollback (b : Broker) (j i : TransactionId) :
    (b.rollback j).1.doomed? i = if i = j then none else b.doomed? i := by
  unfold rollback
  cases ht : b.active? j with
  | none =>
    have hnone : b.doomed? j = none := by rw [doomed?, ht]; rfl
    by_cases hi : i = j
    · simp [hi, hnone]
    · simp [hi]
  | some t =>
    rw [← doomed?_close]
    have hd : SameFate (b.close j) ((b.close j).discard t.pending) := .of_transactions rfl
    exact (hd.trans ((sameFate_fire t.actions _).trans (sameFate_note _ _))) i

/-! ## One delivery -/

/-- What is done to a transaction that may have been ended is done, and what is not ended is doomed. -/
theorem Strikes.doomed (h : Strikes b b' t false) : Strikes b (b'.doom t) t true := by
  intro i
  rw [doomed?_doom]
  rcases h i with h | ⟨ht, h⟩
  · left
    simp [h]
  · right
    simp [ht, h]

theorem sameFate_routeTo (b : Broker) (resolved : Resolved) (message : Message) :
    SameFate b (b.routeTo resolved message).1 := by
  unfold routeTo
  split
  · exact .of_transactions rfl
  · exact .refl b

theorem sameFate_sendToNode (b : Broker) (resolved : Resolved) (message : Message) (t : Transaction) (discard : Bool)
    (address : String) : SameFate b (b.sendToNode resolved message t discard address).1 := by
  have h1 := sameFate_routeTo b resolved message
  unfold sendToNode enqueueRouted
  generalize b.routeTo resolved message = o at h1 ⊢
  obtain ⟨b1, result⟩ := o
  simp only
  split
  · exact h1
  · have h2 := h1.trans (sameFate_send b1 result t)
    split <;> (rename_i heq; rwa [heq] at h2)

/-- A transaction that is ended is not doomed any more. -/
theorem strikes_of_ended {id : TransactionId} (h : ∀ i, b'.doomed? i = if i = id then none else b.doomed? i) :
    Strikes b b' (.inside id) false := by
  intro i
  by_cases hi : i = id
  · right
    subst hi
    simp [h]
  · left
    simp [h, hi]

/-- **Handing a message over dooms nothing**; a receiver may end the transaction. -/
theorem strikes_outcomeOf (b : Broker) (source : Source) (r : Receiver) (message : Message) (t : Transaction) :
    Strikes b (b.outcomeOf source r message t).1 t false := by
  unfold outcomeOf
  split
  · split <;> exact (SameFate.refl b).strikes t
  unfold sendToReceiver
  split
  · exact (sameFate_sendToNode b _ message t _ _).strikes t
  · split
    · exact (SameFate.refl b).strikes t
    · split
      · exact (SameFate.refl b).strikes t
      · exact (sameFate_sendToNode b _ message t _ _).strikes t
  · rename_i s _
    cases t with
    | autoCommit => exact (SameFate.refl b).strikes _
    | inside id =>
      simp only
      cases s.resolve with
      | none => exact (SameFate.refl b).strikes _
      | some how => cases how with
        | commit => exact strikes_of_ended (doomed?_commit b id)
        | rollback => exact strikes_of_ended (doomed?_rollback b id)

/-- **What makes a delivery fail** once its message is read and its transaction found. -/
inductive Fault (b : Broker) (link : Link) (message : Message) (t : Transaction) : LinkError → Prop where
  /-- The principal may not use the user id of the message. -/
  | denied {e : AccessDenied} (denies : b.principal.authorize message.userId = .error e) :
      Fault b link message t (.delivery (.denied e))
  | bare (receiver : link.receiver = none) : Fault b link message t (.illegalState (.noReceiver link.name))
  /-- The message needs a persistent store, and the sender cannot be told that it is rejected. -/
  | transient {r : Receiver} (receiver : link.receiver = some r) (persistent : message.persistent = true)
      (store : b.store.persistent = false) (source : (link.source.getD {}).declares .rejected = false) :
      Fault b link message t (.delivery .transientStore)
  | unsent {r : Receiver} {e : ProtocolError} (receiver : link.receiver = some r)
      (fails : (b.sendToReceiver r message t).2 = .error e) : Fault b link message t (.delivery e)

theorem fault_of_outcomeOf {link : Link} {r : Receiver} {message : Message} {e : ProtocolError}
    (receiver : link.receiver = some r) (h : (b.outcomeOf (link.source.getD {}) r message t).2 = .error e) :
    Fault b link message t (.delivery e) := by
  unfold outcomeOf at h
  split at h
  · rename_i hp
    simp only [Bool.and_eq_true, Bool.not_eq_true'] at hp
    split at h
    · cases h
    · rename_i hd
      cases h
      exact .transient receiver hp.1 hp.2 (Bool.eq_false_iff.2 hd)
  · exact .unsent receiver h

/-- **What a delivery means for its transaction.**  If it is resumed, or fails before its transaction is found, nothing.
If it fails afterwards it dooms it, and if it is processed it does so where its sender would take the outcome for
another one. -/
inductive Dooming (b : Broker) (link : Link) (d : Delivery) : Broker × Except LinkError Unit → Prop where
  | apart {b' : Broker} {answer : Except LinkError Unit} (joining : b.joining? link d = none) (same : SameFate b b') :
      Dooming b link d (b', answer)
  | failed {b' : Broker} {message : Message} {t : Transaction} {e : LinkError}
      (joining : b.joining? link d = some (message, t)) (fault : Fault (b.acquire message.id) link message t e)
      (strikes : Strikes b b' t true) : Dooming b link d (b', .error e)
  | processed {b' : Broker} {message : Message} {t : Transaction} {r : Receiver} {outcome : Outcome}
      (joining : b.joining? link d = some (message, t)) (receiver : link.receiver = some r)
      (came : ((b.acquire message.id).outcomeOf (link.source.getD {}) r message t).2 = .ok outcome)
      (strikes : Strikes b b' t (mistaken (link.source.getD {}) outcome)) : Dooming b link d (b', .ok ())

theorem strikes_complete {l : LinkId} {link : Link} {d : Delivery} {message : Message} {settled : Bool}
    (outcome : Outcome) (h : Strikes b b' t false) :
    Strikes b (b'.complete l link d message t settled outcome) t (mistaken (link.source.getD {}) outcome) := by
  unfold complete
  simp only
  have hafter : ∀ b1 : Broker, SameFate b1 (((b1.answer l t
      ⟨d.tag, stateFor (link.source.getD {}) t outcome, settled⟩).count t message.size).note
      (.deliveryAccepted link.name d.tag.hex outcome.display settled)) := fun b1 =>
    (sameFate_answer b1 l t _).trans (.of_transactions rfl)
  cases mistaken (link.source.getD {}) outcome with
  | true => exact h.doomed.followed (hafter _)
  | false => exact h.followed (hafter _)

/-- **Processing a message dooms nothing** as long as it does not fail; what is doomed otherwise comes afterwards. -/
inductive Delivering (b : Broker) (link : Link) (message : Message) (t : Transaction) :
    Broker × Except LinkError Unit → Prop where
  | failed {b' : Broker} {e : LinkError} (fault : Fault b link message t e) (strikes : Strikes b b' t false) :
      Delivering b link message t (b', .error e)
  | processed {b' : Broker} {r : Receiver} {outcome : Outcome} (receiver : link.receiver = some r)
      (came : (b.outcomeOf (link.source.getD {}) r message t).2 = .ok outcome)
      (strikes : Strikes b b' t (mistaken (link.source.getD {}) outcome)) : Delivering b link message t (b', .ok ())

theorem delivering_deliver (b : Broker) (l : LinkId) (link : Link) (d : Delivery) (message : Message) (t : Transaction)
    (settled : Bool) : Delivering b link message t (b.deliver l link d message t settled) := by
  unfold deliver
  cases denies : b.principal.authorize message.userId with
  | error e => exact .failed (.denied denies) ((SameFate.refl b).strikes t)
  | ok u =>
    cases receiver : link.receiver with
    | none => exact .failed (.bare receiver) ((SameFate.refl b).strikes t)
    | some r =>
      have strikes := strikes_outcomeOf b (link.source.getD {}) r message t
      simp only
      split
      · rename_i came
        rw [came] at strikes
        exact .failed (fault_of_outcomeOf receiver (congrArg Prod.snd came)) strikes
      · rename_i outcome came
        rw [came] at strikes
        exact .processed receiver (congrArg Prod.snd came) (strikes_complete outcome strikes)

theorem dooming_process (l : LinkId) {link : Link} {d : Delivery}
    (hread : read? link d = (decode link d).toOption) (settled : Bool) :
    Dooming b link d (b.process l link d settled) := by
  unfold process
  cases hm : decode link d with
  | error e =>
    have hnone : b.joining? link d = none := by simp [joining?, hread, hm, Except.toOption]
    exact .apart hnone (.refl b)
  | ok message =>
    simp only
    cases ht : b.transactionOf d with
    | error e =>
      have hnone : b.joining? link d = none := by simp [joining?, hread, hm, ht, Except.toOption]
      exact .apart hnone (.refl b)
    | ok t =>
      have hjoin : b.joining? link d = some (message, t) := by simp [joining?, hread, hm, ht, Except.toOption]
      -- holding the message meanwhile is no concern of the transaction's fate
      have held : SameFate b (b.acquire message.id) := .of_transactions rfl
      have released : ∀ b' : Broker, SameFate b' (b'.release message.id) := fun _ => .of_transactions rfl
      have h := delivering_deliver (b.acquire message.id) l link d message t settled
      simp only
      generalize (b.acquire message.id).deliver l link d message t settled = o at h ⊢
      cases h with
      | failed fault strikes => exact .failed hjoin fault ((held.then strikes.doomed).followed (released _))
      | processed receiver came strikes =>
        exact .processed hjoin receiver came ((held.then strikes).followed (released _))

/-- **What a delivery does to transactions.** -/
theorem dooming_receive (b : Broker) (l : LinkId) (link : Link) (d : Delivery) :
    Dooming b link d (b.receive l link d) := by
  unfold receive ensureAttached
  by_cases hatt : link.state = .attached
  case neg =>
    have hnone : b.joining? link d = none := by simp [joining?, read?, hatt]
    rw [if_neg hatt]
    exact .apart hnone (sameFate_note b _)
  rw [if_pos hatt]
  cases hres : d.resume with
  | true =>
    have hnone : b.joining? link d = none := by simp [joining?, read?, hres]
    unfold resumeDelivery
    refine .apart hnone ?_
    simp only
    split
    · exact (sameFate_note b _).trans (sameFate_sendDisposition _ l _)
    · exact .refl b
  | false =>
    have hread : read? link d = (decode link d).toOption := by simp [read?, hatt, hres]
    have h := dooming_process (b := b) l hread (link.settlesFirst d.settleMode)
    simp only [Bool.false_eq_true, if_false]
    generalize b.process l link d (link.settlesFirst d.settleMode) = o at h ⊢
    cases h with
    | @apart b' answer joining same =>
      cases answer with
      | ok u => exact .apart joining same
      | error e => exact .apart joining (same.trans (sameFate_note _ _))
    | failed joining fault strikes => exact .failed joining fault (strikes.followed (sameFate_note _ _))
    | processed joining receiver came strikes => exact .processed joining receiver came strikes

end Broker
end MessageBroker
