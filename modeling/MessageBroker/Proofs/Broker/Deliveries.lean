import MessageBroker.Broker.Deliver
import MessageBroker.Proofs.Broker.Resolving
/-!
# What a delivery does

What a delivery publishes and how it is answered is decided when it is received (`verdict?`).  A delivery that is
processed does just that, at once or at the end of its transaction; one that fails does nothing (`does_receive`).
-/
namespace MessageBroker
namespace Broker

open Registry Routing

variable {b b' : Broker} {t : Transaction} {ps : List PendingEnqueue} {as : List SettlementAction}

/-- The routing result that a receiver sends a message with. -/
def resultFor (b : Broker) (r : Receiver) (message : Message) : Option RoutingResult :=
  if message.persistent && !b.store.persistent then none
  else match r.kind with
    | .node d key _ => some (b.routeTo ⟨d, key⟩ message).2
    | .relay _ => (message.address.bind b.registry.resolve).map fun resolved => (b.routeTo resolved message).2
    | .scripted _ => none

/-- What a delivery that is processed comes to. -/
structure Verdict where
  transaction : Transaction
  placements : List PendingEnqueue
  action : SettlementAction

/-- What a delivery comes to once its message is read and its transaction found. -/
def verdictIn (b : Broker) (l : LinkId) (link : Link) (delivery : Delivery) (message : Message) (t : Transaction) :
    Option Verdict := do
  let r ← link.receiver
  let outcome ← (b.outcomeOf (link.source.getD {}) r message t).2.toOption
  pure
    { transaction := t
      placements := ((b.resultFor r message).map RoutingResult.placements).getD []
      action := ⟨l, delivery.tag, stateFor (link.source.getD {}) t outcome, link.settlesFirst delivery.settleMode⟩ }

/-- What a delivery comes to if it is received now. -/
def verdict? (b : Broker) (l : LinkId) (delivery : Delivery) : Option Verdict := do
  let link ← b.link? l
  let message ← (decode link delivery).toOption
  let t ← (b.transactionOf delivery).toOption
  (b.acquire message.id).verdictIn l link delivery message t

/-! ## Publishing -/

theorem aside_routeTo (b : Broker) (resolved : Resolved) (message : Message) :
    Aside b (b.routeTo resolved message).1 := by
  unfold routeTo
  split
  · exact aside_noteAll b _
  · exact .refl b

/-- A message sent to a destination goes to live queues with room, and to each once. -/
theorem routeTo_sound (b : Broker) (resolved : Resolved) (message : Message) :
    Sound b.registry (b.routeTo resolved message).2.queues := by
  unfold routeTo
  split
  · exact route_sound b.registry _ message _ _
  · exact routeToQueue_sound ‹_› message []

theorem attempts_enqueueRouted {result : RoutingResult} (discard : Bool) (address : String)
    (aimed : b.registry.Aimed result.placements) :
    Attempts b t result.placements [] (b.enqueueRouted result t discard address) := by
  unfold enqueueRouted
  split
  · rename_i hn
    have hnil : result.placements = [] := by
      have hq : result.queues = [] := by simpa [RoutingResult.hasRoutes] using hn
      rw [RoutingResult.placements, hq]
      rfl
    rw [hnil]
    exact .done (Aside.refl b t)
  · have h := attempts_send (t := t) aimed
    split
    · rename_i heq
      rw [heq] at h
      cases h with
      | failed h => exact .failed h
    · rename_i heq
      rw [heq] at h
      cases h with
      | done h => exact .done h

theorem attempts_sendToNode (b : Broker) (resolved : Resolved) (message : Message) (t : Transaction) (discard : Bool)
    (address : String) :
    Attempts b t (b.routeTo resolved message).2.placements [] (b.sendToNode resolved message t discard address) := by
  have h1 := aside_routeTo b resolved message
  have hs := routeTo_sound b resolved message
  unfold sendToNode
  generalize b.routeTo resolved message = o at h1 hs ⊢
  obtain ⟨b1, result⟩ := o
  have h2 := attempts_enqueueRouted (t := t) discard address
    ((h1 .autoCommit).yields.flow.keeps_aimed (aimed_of_sound hs))
  simp only
  generalize b1.enqueueRouted result t discard address = o at h2 ⊢
  cases h2 with
  | failed h2 => exact .failed (h1.trans h2)
  | done h2 => exact .done (h1.then h2)

/-- **A message that is processed goes where the routing says**; one that fails goes nowhere. -/
theorem attempts_outcomeOf (b : Broker) (source : Source) {r : Receiver} (hr : r.Plain) (message : Message)
    (t : Transaction) : Attempts b t (((b.resultFor r message).map RoutingResult.placements).getD []) []
      (b.outcomeOf source r message t) := by
  unfold outcomeOf resultFor
  split
  · split
    · exact .done (Aside.refl b t)
    · exact .failed (.refl b)
  · unfold sendToReceiver
    cases hk : r.kind with
    | node d key discard => exact attempts_sendToNode b ⟨d, key⟩ message t discard r.address
    | relay discard =>
      cases ha : message.address with
      | none => exact .done (Aside.refl b t)
      | some address =>
        simp only [Option.bind_some]
        cases hres : b.registry.resolve address with
        | none => exact .done (Aside.refl b t)
        | some resolved => exact attempts_sendToNode b resolved message t discard address
    | scripted s => exact absurd hk (hr s)

theorem resultFor_sound {b : Broker} {r : Receiver} {message : Message} {result : RoutingResult}
    (h : b.resultFor r message = some result) : Sound b.registry result.queues := by
  unfold resultFor at h
  split at h
  · cases h
  · split at h
    · cases h
      exact routeTo_sound b _ message
    · obtain ⟨resolved, -, rfl⟩ := Option.map_eq_some_iff.1 h
      exact routeTo_sound b resolved message
    · cases h

/-! ## Answering -/

/-- **A delivery is answered** at once, or by the end of its transaction. -/
theorem does_answer (l : LinkId) (d : Disposition) (ht : ∀ id, t = .inside id → (b.account id).isSome = true) :
    Does b (b.answer l t d) t [] [⟨l, d⟩] := by
  unfold answer
  cases d.state with
  | none =>
    cases t with
    | autoCommit => exact does_sendDisposition b l d
    | inside id => exact does_owe (ht id rfl) ⟨l, d⟩
  | some s =>
    have h1 : Aside b (b.modifyLink l fun x => { x with unsettled := x.unsettled.record d.tag (some s) }) :=
      aside_modifyLink b l (fun _ => rfl) fun _ _ hr => .inl hr
    cases t with
    | autoCommit => exact h1.then (does_sendDisposition _ l d)
    | inside id => exact h1.then (does_owe ((h1 .autoCommit).isOpen (ht id rfl)) ⟨l, d⟩)

theorem does_complete (l : LinkId) (link : Link) (delivery : Delivery) (message : Message) (settled : Bool)
    (outcome : Outcome) (ht : ∀ id, t = .inside id → (b.account id).isSome = true) :
    Does b (b.complete l link delivery message t settled outcome) t []
      [⟨l, delivery.tag, stateFor (link.source.getD {}) t outcome, settled⟩] := by
  unfold complete
  simp only
  have h1 : Aside b (if mistaken (link.source.getD {}) outcome then b.doom t else b) := by
    split
    · exact aside_doom b t
    · exact .refl b
  generalize (if mistaken (link.source.getD {}) outcome then b.doom t else b) = b1 at h1 ⊢
  have h2 := h1.then (does_answer l ⟨delivery.tag, stateFor (link.source.getD {}) t outcome, settled⟩
    fun id hid => (h1 .autoCommit).isOpen (ht id hid))
  have h3 : ∀ b : Broker, Aside b (b.count t message.size) := fun b => .of_flow (.refl _) rfl rfl rfl
  exact h2.aside ((h3 _).trans (aside_note _ _))

/-! ## One delivery -/

theorem id?_of_transactionOf {delivery : Delivery} (h : b.transactionOf delivery = .ok t) :
    t.id? = delivery.transaction? := by
  unfold transactionOf at h
  split at h
  · rename_i heq
    cases h
    exact heq.symm
  · rename_i id heq
    split at h
    · rename_i ht
      cases h
      unfold transaction at ht
      split at ht
      · cases ht
        exact heq.symm
      · cases ht
    · cases h

theorem isOpen_of_transactionOf {delivery : Delivery} (h : b.transactionOf delivery = .ok t) {id : TransactionId}
    (hid : t = .inside id) : (b.account id).isSome = true := by
  subst hid
  unfold transactionOf at h
  split at h
  · cases h
  · unfold transaction at h
    split at h
    · rename_i heq
      split at heq
      · rename_i hact
        cases heq
        cases h
        unfold account
        rw [Option.isSome_map, hact]
        rfl
      · cases heq
    · cases h

/-- The answer that a delivery gets in transaction `t`, once it is processed: under its tag, with the state that its
outcome has for the sender, and settled unless the delivery or else its link wants it settled later. -/
def Fixes (b : Broker) (l : LinkId) (delivery : Delivery) (t : Transaction) (a : SettlementAction) : Prop :=
  t.id? = delivery.transaction? ∧ ∃ link message r outcome, b.link? l = some link ∧
    decode link delivery = .ok message ∧ link.receiver = some r ∧
    ((b.acquire message.id).outcomeOf (link.source.getD {}) r message t).2 = .ok outcome ∧
    a = ⟨l, delivery.tag, stateFor (link.source.getD {}) t outcome, link.settlesFirst delivery.settleMode⟩

/-- What is received without an error is received on an attached link. -/
theorem attached_of_receive {l : LinkId} {link : Link} {delivery : Delivery}
    (h : (b.receive l link delivery).2 = .ok ()) : link.state = .attached := Decidable.byContradiction fun hn => by
  unfold receive ensureAttached at h
  rw [if_neg hn] at h
  cases h

/-- What is received without an error has a message that the principal may send. -/
theorem authorized_of_receive {l : LinkId} {link : Link} {delivery : Delivery} {message : Message} {t : Transaction}
    (h : (b.receive l link delivery).2 = .ok ()) (new : delivery.resume = false)
    (read : decode link delivery = .ok message) (found : b.transactionOf delivery = .ok t) :
    b.principal.authorize message.userId = .ok () := by
  cases hauth : b.principal.authorize message.userId with
  | ok u => rfl
  | error e =>
    have hdenied : (b.acquire message.id).principal.authorize message.userId = .error e := hauth
    unfold receive ensureAttached process at h
    simp only [if_pos (attached_of_receive h), new, Bool.false_eq_true, if_false, read, found] at h
    unfold deliver at h
    simp only [hdenied] at h
    cases h

/-- A delivery that comes to something can be read, and its transaction is found. -/
theorem read_of_verdict? {l : LinkId} {link : Link} {delivery : Delivery} {v : Verdict} (hl : b.link? l = some link)
    (h : b.verdict? l delivery = some v) : ∃ message t, decode link delivery = .ok message ∧
      b.transactionOf delivery = .ok t ∧ (b.acquire message.id).verdictIn l link delivery message t = some v := by
  unfold verdict? at h
  rw [hl, Option.bind_eq_bind, Option.bind_some] at h
  obtain ⟨message, hm, h⟩ := Option.bind_eq_some_iff.1 h
  obtain ⟨t, ht, h⟩ := Option.bind_eq_some_iff.1 h
  exact ⟨message, t, ok_of_toOption hm, ok_of_toOption ht, h⟩

/-- **What a delivery comes to**: the disposition of its outcome, in the transaction that it names. -/
theorem fixes_of_verdict? {l : LinkId} {delivery : Delivery} {v : Verdict} (h : b.verdict? l delivery = some v) :
    b.Fixes l delivery v.transaction v.action := by
  obtain ⟨link, hl, h⟩ := Option.bind_eq_some_iff.1 h
  obtain ⟨message, hm, h⟩ := Option.bind_eq_some_iff.1 h
  obtain ⟨t, ht, h⟩ := Option.bind_eq_some_iff.1 h
  obtain ⟨r, hr, h⟩ := Option.bind_eq_some_iff.1 h
  obtain ⟨outcome, ho, h⟩ := Option.bind_eq_some_iff.1 h
  cases h
  refine ⟨?_, link, message, r, outcome, hl, ok_of_toOption hm, hr, ok_of_toOption ho, rfl⟩
  exact id?_of_transactionOf (ok_of_toOption ht)

/-- **A delivery does what was decided**, or fails and does nothing. -/
inductive Handled (b : Broker) (v : Option Verdict) : Broker × Except LinkError Unit → Prop where
  | failed {b' : Broker} {e : LinkError} (h : Aside b b') : Handled b v (b', .error e)
  | processed {b' : Broker} {w : Verdict} (decided : v = some w)
      (aimed : b.registry.Aimed w.placements)
      (isOpen : ∀ id, w.transaction = .inside id → (b.account id).isSome = true)
      (h : Does b b' w.transaction w.placements [w.action]) : Handled b v (b', .ok ())

theorem handled_deliver (l : LinkId) {link : Link} (hr : ∀ r, link.receiver = some r → r.Plain) (delivery : Delivery)
    (message : Message) (ht : ∀ id, t = .inside id → (b.account id).isSome = true) :
    Handled b (b.verdictIn l link delivery message t)
      (b.deliver l link delivery message t (link.settlesFirst delivery.settleMode)) := by
  unfold deliver verdictIn
  split
  · exact .failed (.refl b)
  · split
    · exact .failed (.refl b)
    · rename_i r heq
      have h := attempts_outcomeOf b (link.source.getD {}) (hr r heq) message t
      rw [heq]
      simp only [Option.bind_eq_bind, Option.bind_some]
      generalize b.outcomeOf (link.source.getD {}) r message t = o at h ⊢
      cases h with
      | failed h => exact .failed h
      | @done b1 outcome h =>
        have h2 := h.trans (does_complete l link delivery message (link.settlesFirst delivery.settleMode) outcome
          fun id hid => h.isOpen (ht id hid))
        rw [List.append_nil, List.nil_append] at h2
        refine .processed rfl ?_ ht h2
        cases hres : b.resultFor r message with
        | none => exact ⟨List.nodup_nil, fun _ hp => (List.not_mem_nil hp).elim⟩
        | some result => exact aimed_of_sound (resultFor_sound hres)

/-- **What receiving a delivery does**, other than one that is resumed. -/
theorem handled_receive {l : LinkId} {link : Link} {delivery : Delivery} (hl : b.link? l = some link) (hp : b.Plain)
    (hnew : delivery.resume = false) : Handled b (b.verdict? l delivery) (b.receive l link delivery) := by
  unfold receive ensureAttached
  split
  · rename_i heq
    split at heq
    · cases heq
    · cases heq
      exact .failed (aside_note b _)
  · rename_i b1 heq
    split at heq
    · cases heq
      simp only [hnew, Bool.false_eq_true, if_false]
      have h : Handled b (b.verdict? l delivery)
          (b.process l link delivery (link.settlesFirst delivery.settleMode)) := by
        unfold process verdict?
        rw [hl]
        simp only [Option.bind_eq_bind, Option.bind_some]
        split
        · exact .failed (.refl b)
        · rename_i message hm
          rw [hm]
          split
          · exact .failed (.refl b)
          · rename_i t ht
            have ha := aside_acquire b message.id
            have h := handled_deliver (b := b.acquire message.id) l (fun r hr => hp l link r hl hr) delivery message
              fun id hid => (ha .autoCommit).isOpen (isOpen_of_transactionOf ht hid)
            rw [ht]
            simp only [Except.toOption, Option.bind_some]
            generalize (b.acquire message.id).deliver l link delivery message t _ = o at h ⊢
            cases h with
            | failed h => exact .failed ((ha.trans h).trans ((aside_doom _ t).trans (aside_release _ message.id)))
            | @processed b2 w decided aimed isOpen h =>
              exact .processed decided aimed (fun id hid => by rw [← isOpen id hid]; rfl)
                ((ha.then h).aside (aside_release _ message.id))
      generalize b.process l link delivery _ = o at h ⊢
      cases h with
      | failed h => exact .failed (h.trans (aside_note _ _))
      | processed decided aimed isOpen h => exact .processed decided aimed isOpen h
    · cases heq

/-- A delivery that is resumed may be answered once more, but publishes nothing. -/
theorem does_receive_resumed (b : Broker) (l : LinkId) (link : Link) {delivery : Delivery}
    (hres : delivery.resume = true) : ∃ as, Does b (b.receive l link delivery).1 .autoCommit [] as := by
  unfold receive ensureAttached
  split
  · rename_i heq
    split at heq
    · cases heq
    · cases heq
      exact ⟨[], aside_note b _ _⟩
  · rename_i heq
    split at heq
    · cases heq
      simp only [hres, if_true]
      unfold resumeDelivery
      split
      · exact ⟨_, (aside_note b _).then (does_sendDisposition _ l _)⟩
      · exact ⟨[], Aside.refl b _⟩
    · cases heq

end Broker
end MessageBroker
