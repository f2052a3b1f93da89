import MessageBroker.Broker.Attach
import MessageBroker.Broker.Deliver
import MessageBroker.Proofs.Broker.Administration
import MessageBroker.Proofs.Broker.Effects
/-!
# What links and administration are made of

Attaching, starting, detaching and destroying links is done in a few kinds of steps: links are changed, registered and
made nodes for, and notices are given.  A relation that these steps and administration stay in is one that holds of
every operation on a link (`LinkSteps`).  A receiver that an attach finds is one of the broker's own.
-/
namespace MessageBroker
namespace Broker

open Registry

/-- **A relation in which each step of an operation on a link stays**, and in which steps add up. -/
structure LinkSteps (R : Broker → Broker → Prop) : Prop where
  refl : ∀ b, R b b
  trans : ∀ {b b' b''}, R b b' → R b' b'' → R b b''
  administered : ∀ {b b'}, Administered b b' → R b b'
  /-- A change that keeps a link open or closed, and its receiver one that the broker found. -/
  modifyLink : ∀ b l {f : Link → Link}, (∀ x, (f x).receiverOpen = x.receiverOpen) →
    (∀ x r, (f x).receiver = some r → x.receiver = some r ∨ r.Plain) → R b (b.modifyLink l f)
  receivers : ∀ (b : Broker) n, R b { b with receivers := n }
  dynamicNodes : ∀ (b : Broker) nodes, R b { b with registry.dynamicNodes := nodes }
  links : ∀ (b : Broker) d x (links : List PublishingLink), b.registry.get? d = some x →
    R b { b with registry := b.registry.modify d fun _ => { x with links } }

namespace LinkSteps

variable {R : Broker → Broker → Prop} (h : LinkSteps R) (b : Broker) (l : LinkId) (link : Link)

include h

theorem note (n : Notice) : R b (b.note n) := h.administered (.refused [n])

/-- A change of a link that leaves its receiver alone. -/
theorem modify {f : Link → Link} (hopen : ∀ x, (f x).receiverOpen = x.receiverOpen)
    (hr : ∀ x, (f x).receiver = x.receiver) : R b (b.modifyLink l f) :=
  h.modifyLink b l hopen fun x _ hf => .inl (by rwa [hr x] at hf)

/-! ## Nodes of links -/

theorem createDynamic (name : String) : R b (b.createDynamic name).1 := by
  have h1 := h.administered (administered_createQueue b { name := b.registry.nextDynamicName name })
  unfold Broker.createDynamic
  split
  · rename_i heq
    rwa [heq] at h1
  · rename_i heq
    rw [heq] at h1
    exact h.trans h1 (h.dynamicNodes _ _)

theorem deleteDynamic (name : String) : R b (b.deleteDynamic name).1 := by
  have h1 := h.administered (administered_delete b name false)
  unfold Broker.deleteDynamic
  split <;> (rename_i heq; rwa [heq] at h1)

theorem linkAdded (d : DestinationId) (x : PublishingLink) : R b (b.linkAdded d x).1 := by
  unfold Broker.linkAdded
  split
  · exact h.refl b
  · rename_i y hy
    obtain ⟨links, heq⟩ : ∃ links, (y.linkAdded x).2 = { y with links } := by
      unfold Destination.linkAdded
      split
      · exact ⟨y.links, rfl⟩
      · exact ⟨_, rfl⟩
    simp only [heq]
    exact h.links b d y links hy

theorem linkRemoved (d : DestinationId) (name : String) : R b (b.linkRemoved d name).1 := by
  unfold Broker.linkRemoved
  split
  · exact h.refl b
  · exact h.links b d _ _ ‹_›

theorem register (name : String) (r : Receiver) : R b (b.register name r) := by
  unfold Broker.register
  split
  · exact h.refl b
  · exact h.linkAdded b _ _

theorem unregister (name : String) (r : Receiver) : R b (b.unregister name r) := by
  unfold Broker.unregister
  split
  · exact h.refl b
  · exact h.linkRemoved b _ _

/-! ## Detaching -/

/-- A link is handed a receiver of any kind. -/
theorem handReceiver {next : Option Receiver} (hm : ∀ b, R b (b.modifyLink l fun x => { x with receiver := next })) :
    R b (b.setReceiver l next) := by
  unfold Broker.setReceiver
  split
  · exact h.refl b
  rename_i link hlink
  split
  · exact h.refl b
  refine h.trans ?_ (hm _)
  refine h.trans ?_ (h.note _ _)
  cases link.receiver with
  | none =>
    cases next with
    | none => exact h.refl b
    | some r => exact h.register b _ r
  | some old =>
    have h1 := h.unregister b link.name old
    cases next with
    | none => exact h1
    | some r => exact h.trans h1 (h.register _ _ r)

theorem setReceiver {next : Option Receiver} (hn : ∀ r, next = some r → r.Plain) : R b (b.setReceiver l next) :=
  h.handReceiver b l fun b => h.modifyLink b l (fun _ => rfl) fun _ r hr => .inr (hn r hr)

theorem dropDynamicNode : R b (b.dropDynamicNode l) := by
  unfold Broker.dropDynamicNode
  split
  · exact h.refl b
  split
  · exact h.refl b
  rename_i link _ _ node _
  have h1 : R b (b.modifyLink l fun x => { x with dynamicNode := none }) := h.modify b l (fun _ => rfl) fun _ => rfl
  have h2 := h.trans h1 (h.deleteDynamic _ node)
  simp only
  split <;> (rename_i heq; rw [heq] at h2; exact h.trans h2 (h.note _ _))

theorem teardown (how : LinkEnd) : R b (b.teardown l how) := by
  unfold Broker.teardown
  split
  · exact h.refl b
  have h1 : R b (b.setReceiver l none) := h.setReceiver b l fun _ hr => by cases hr
  refine h.trans ?_ (h.note _ _)
  exact h.trans (h.trans h1 (h.dropDynamicNode _ l)) (h.modify _ l (fun _ => rfl) fun _ => rfl)

theorem suspend : R b (b.suspend l) := by
  unfold Broker.suspend
  split
  · exact h.refl b
  have h1 : R b (b.setReceiver l none) := h.setReceiver b l fun _ hr => by cases hr
  refine h.trans ?_ (h.note _ _)
  exact h.trans h1 (h.modify _ l (fun _ => rfl) fun _ => rfl)

theorem detach (request : Option Detach) : R b (b.detach l request).1 := by
  unfold Broker.detach
  split
  · exact h.refl b
  have h1 : R b (b.modifyLink l fun x => { x with state := .detaching }) := h.modify b l (fun _ => rfl) fun _ => rfl
  simp only
  split
  · exact h.trans h1 (h.teardown _ l _)
  · exact h.trans h1 (h.teardown _ l _)
  · exact h.trans h1 (h.suspend _ l)

/-! ## Attaching -/

theorem failAttach (e : LinkError) : R b (b.failAttach l link e).1 := by
  unfold Broker.failAttach
  simp only
  split
  · exact h.trans (h.note b _) (h.teardown _ l _)
  · exact h.note b _

theorem dynamicNode : R b (b.dynamicNode l link).1 := by
  unfold Broker.dynamicNode
  split
  · exact h.refl b
  have h1 := h.createDynamic b link.name
  split
  · rename_i heq
    rwa [heq] at h1
  · rename_i heq
    rw [heq] at h1
    exact h.trans h1 (h.modify _ l (fun _ => rfl) fun _ => rfl)

theorem receiverFor (target : Target) : R b (b.receiverFor l link target).1 ∧
    ∀ r final, (b.receiverFor l link target).2 = .ok (r, final) → r.Plain := by
  unfold Broker.receiverFor
  simp only
  split
  · have h1 := h.dynamicNode b l link
    split
    · rename_i heq
      rw [heq] at h1
      exact ⟨h1, fun r final hr => by cases hr⟩
    · rename_i heq
      rw [heq] at h1
      exact ⟨h.trans h1 (h.receivers _ _), fun r final hr => by cases hr; exact fun s hs => by cases hs⟩
  · split
    · exact ⟨h.receivers b _, fun r final hr => by cases hr; exact fun s hs => by cases hs⟩
    · exact ⟨h.receivers b _, fun r final hr => by cases hr; exact fun s hs => by cases hs⟩
    · split
      · exact ⟨h.refl b, fun r final hr => by cases hr⟩
      · exact ⟨h.receivers b _, fun r final hr => by cases hr; exact fun s hs => by cases hs⟩

theorem reconcile (a : Attach) : R b (b.reconcile l link a) := by
  unfold Broker.reconcile
  split
  · exact h.refl b
  · have h1 : R b (b.modifyLink l fun x => { x with unsettled := link.unsettled.retain (a.unsettled.getD []) }) :=
      h.modify b l (fun _ => rfl) fun _ => rfl
    simp only
    split
    · exact h1
    · exact h.trans h1 (h.note _ _)

theorem completeAttach (a : Attach) (requested : Target) {r : Receiver} (hr : r.Plain) (target : Target) :
    R b (b.completeAttach l link a requested r target) := by
  unfold Broker.completeAttach
  simp only
  refine h.trans ?_ (h.note _ _)
  refine h.trans ?_ (h.modify _ l (fun _ => rfl) fun _ => rfl)
  refine h.trans ?_ (h.setReceiver _ l fun _ hn => by cases hn; exact hr)
  refine h.trans ?_ (h.reconcile _ l link a)
  exact h.modify _ l (fun _ => rfl) fun _ => rfl

theorem attachReceived (source : Option Source) (a : Attach) : R b (b.attachReceived l link source a).1 := by
  unfold Broker.attachReceived
  simp only
  refine h.trans (h.modify b l (f := fun x => { x with
    source := source <|> x.source, state := .attaching, settleMode := a.settleMode <|> x.settings.settleMode })
    (fun _ => rfl) fun _ => rfl) ?_
  split
  · exact h.failAttach _ l link _
  · rename_i target _
    obtain ⟨h1, hplain⟩ := h.receiverFor (b.modifyLink l fun x => { x with
      source := source <|> x.source, state := .attaching, settleMode := a.settleMode <|> x.settings.settleMode })
      l link target
    split
    · rename_i heq
      rw [heq] at h1
      exact h.trans h1 (h.failAttach _ l link _)
    · rename_i heq
      rw [heq] at h1 hplain
      exact h.trans h1 (h.completeAttach _ l link a target (hplain _ _ rfl) _)

theorem establish (a : Attach) : R b (b.establish l link a).1 := by
  unfold Broker.establish
  split
  · exact h.failAttach b l link _
  · exact h.attachReceived b l link _ a

theorem resume (a : Attach) : R b (b.resume l link a).1 := by
  unfold Broker.resume
  split
  · exact h.failAttach b l link _
  split
  · exact h.failAttach b l link _
  split
  · exact h.failAttach b l link _
  · exact h.attachReceived b l link _ a

theorem reattach (a : Attach) : R b (b.reattach l link a).1 := by
  unfold Broker.reattach
  split
  · exact h.failAttach b l link _
  · exact h.attachReceived b l link _ a

theorem recover (a : Attach) : R b (b.recover l link a).1 := by
  unfold Broker.recover
  split
  · exact h.failAttach b l link _
  · exact h.attachReceived b l link _ a

theorem attach (a : Attach) : R b (b.attach l link a).1 := by
  unfold Broker.attach
  split
  · exact h.refl b
  split
  · exact h.recover b l link a
  split
  · exact h.establish b l link a
  · exact h.resume b l link a

/-! ## What else comes in over a link -/

theorem ensureAttached : R b (b.ensureAttached link).1 := by
  unfold Broker.ensureAttached
  split
  · exact h.refl b
  · exact h.note b _

theorem start : R b (b.start l link).1 := by
  have h1 := h.ensureAttached b link
  unfold Broker.start
  split
  · rename_i heq
    rwa [heq] at h1
  · rename_i heq
    rw [heq] at h1
    refine h.trans h1 (h.trans ?_ (h.note _ _))
    exact h.modify _ l (fun _ => rfl) fun _ => rfl

theorem receiveDisposition (tag : DeliveryTag) (settled : Bool) :
    R b (b.receiveDisposition l link tag settled) := by
  unfold Broker.receiveDisposition
  split
  · refine h.trans ?_ (h.note _ _)
    exact h.modify b l (fun _ => rfl) fun _ => rfl
  · exact h.refl b

end LinkSteps
end Broker
end MessageBroker
