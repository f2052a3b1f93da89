import MessageBroker.Proofs.Broker.Asides
import MessageBroker.Proofs.Broker.Deliveries
import MessageBroker.Proofs.Broker.Works
/-!
# Runs of a broker

A run is what a broker is asked to do, one event after the other: requests on its topology, publishing and popping,
transactions, and what comes in over links.  Its history keeps each step with the answer that was given.  What a step
does follows from the broker before it (`take_effect`).
-/
namespace MessageBroker

/-- A broker, and what those who use it hold. -/
structure World where
  broker : Broker
  /-- The routing results that were asked for. -/
  results : List RoutingResult
  /-- The entries that were taken off queues and are not dropped yet. -/
  held : List QueueEntry

/-- As what an attach is handed to a link. -/
inductive Attaching where
  | plain | establish | resume | reattach | recover

inductive Event where
  | administer (q : TopologyRequest)
  | route (exchange : DestinationId) (message : Message) (key : String) (properties : InstanceProperties)
  /-- Sends the routing result that was asked for as the `i`-th. -/
  | send (i : Nat) (t : Transaction)
  | pop (q : DestinationId)
  | drop (i : Nat)
  | begin
  | doom (t : Transaction)
  | resolve (how : Resolution) (id : TransactionId)
  /-- From now on the store refuses these records. -/
  | failStore (failing : Refusals)
  | session (s : Session)
  | link (name : String) (settings : LinkSettings) (formats : List Nat) (receiverOpen : Bool)
  | attach (l : LinkId) (how : Attaching) (a : Attach)
  | start (l : LinkId)
  | deliver (l : LinkId) (d : Delivery)
  | disposition (l : LinkId) (tag : DeliveryTag) (settled : Bool)
  | detach (l : LinkId) (d : Option Detach)
  | destroy (l : LinkId)

/-- What is answered to an event, as far as publishing and transactions go. -/
inductive Answer where
  | nothing
  | sent (result : Except StoreError Nat)
  | popped (entry : Option QueueEntry)
  | begun (id : TransactionId)
  | resolved (result : Except TransactionError Unit)
  | delivered (result : Except LinkError Unit)

namespace Broker

def administer (b : Broker) : TopologyRequest → Broker
  | .createQueue q => (b.createQueue q).1
  | .createExchange e => (b.createExchange e).1
  | .setAlternate name alternate => (b.setAlternate name alternate).1
  | .bind exchange target key arguments replace => (b.bind exchange target key arguments replace).1
  | .bindHeld e t key arguments replace => (b.bindTo e t key arguments replace).1
  | .unbind exchange target key => (b.unbind exchange target key).1
  | .unbindHeld e t key => (b.unbindFrom e t key).1
  | .delete name force => (b.delete name force).1

/-- What a request is answered: true where there is no more to tell than that it was granted. -/
def reply (b : Broker) : TopologyRequest → Except TopologyError Bool
  | .createQueue q => (b.createQueue q).2.map fun _ => true
  | .createExchange e => (b.createExchange e).2.map fun _ => true
  | .setAlternate name alternate => (b.setAlternate name alternate).2.map fun _ => true
  | .bind exchange target key arguments replace => (b.bind exchange target key arguments replace).2
  | .bindHeld e t key arguments replace => (b.bindTo e t key arguments replace).2
  | .unbind exchange target key => (b.unbind exchange target key).2
  | .unbindHeld e t key => .ok (b.unbindFrom e t key).2
  | .delete name force => (b.delete name force).2.map fun _ => true

def resolve (b : Broker) (id : TransactionId) : Resolution → Broker × Except TransactionError Unit
  | .commit => b.commit id
  | .rollback => b.rollback id

def attachAs (b : Broker) (l : LinkId) (link : Link) (a : Attach) : Attaching → Broker
  | .plain => (b.attach l link a).1
  | .establish => (b.establish l link a).1
  | .resume => (b.resume l link a).1
  | .reattach => (b.reattach l link a).1
  | .recover => (b.recover l link a).1

/-- Does something with a link, if there is one of that identity. -/
def withLink (b : Broker) (l : LinkId) (f : Link → Broker) : Broker :=
  match b.link? l with
  | none => b
  | some link => f link

theorem administered_administer (b : Broker) (q : TopologyRequest) : Administered b (b.administer q) := by
  cases q with
  | createQueue q => exact administered_createQueue b q
  | createExchange e => exact administered_createExchange b e
  | setAlternate name alternate => exact administered_setAlternate b name alternate
  | bind exchange target key arguments replace => exact administered_bind b exchange target key arguments replace
  | bindHeld e t key arguments replace => exact administered_bindTo b e t key arguments replace
  | unbind exchange target key => exact administered_unbind b exchange target key
  | unbindHeld e t key => exact administered_unbindFrom b e t key
  | delete name force => exact administered_delete b name force

namespace LinkSteps

variable {R : Broker → Broker → Prop} (h : LinkSteps R)

include h

theorem administer (b : Broker) (q : TopologyRequest) : R b (b.administer q) :=
  h.administered (administered_administer b q)

theorem attachAs (b : Broker) (l : LinkId) (link : Link) (a : Attach) (how : Attaching) :
    R b (b.attachAs l link a how) := by
  cases how with
  | plain => exact h.attach b l link a
  | establish => exact h.establish b l link a
  | resume => exact h.resume b l link a
  | reattach => exact h.reattach b l link a
  | recover => exact h.recover b l link a

theorem withLink {b : Broker} {f : Link → Broker} (hf : ∀ link, R b (f link)) (l : LinkId) : R b (b.withLink l f) := by
  unfold Broker.withLink
  split
  · exact h.refl b
  · exact hf _

end LinkSteps
end Broker

namespace World

def new (settings : HostSettings) (store : Store) (principal : Principal) : World :=
  ⟨.new settings store principal, [], []⟩

def step (w : World) : Event → World × Answer
  | .administer q => ({ w with broker := w.broker.administer q }, .nothing)
  | .route exchange message key properties =>
    let (b, result) := w.broker.route exchange message key properties
    ({ w with broker := b, results := w.results ++ [result] }, .nothing)
  | .send i t => match w.results[i]? with
    | none => (w, .nothing)
    | some result =>
      let (b, answer) := w.broker.send result t
      ({ w with broker := b }, .sent answer)
  | .pop q =>
    let (b, entry) := w.broker.pop q
    ({ w with broker := b, held := w.held ++ entry.toList }, .popped entry)
  | .drop i => match w.held[i]? with
    | none => (w, .nothing)
    | some entry =>
      ({ w with broker := w.broker.release entry.message.id, held := w.held.eraseIdx i }, .nothing)
  | .begin =>
    let (b, id) := w.broker.begin
    ({ w with broker := b }, .begun id)
  | .doom t => ({ w with broker := w.broker.doom t }, .nothing)
  | .resolve how id =>
    let (b, result) := w.broker.resolve id how
    ({ w with broker := b }, .resolved result)
  | .failStore failing => ({ w with broker.store.failing := failing }, .nothing)
  | .session s => ({ w with broker.session := s }, .nothing)
  | .link name settings formats receiverOpen =>
    ({ w with broker := (w.broker.newLink (.new name settings formats receiverOpen)).1 }, .nothing)
  | .attach l how a => ({ w with broker := w.broker.withLink l (w.broker.attachAs l · a how) }, .nothing)
  | .start l => ({ w with broker := w.broker.withLink l fun link => (w.broker.start l link).1 }, .nothing)
  | .deliver l d => match w.broker.link? l with
    | none => (w, .nothing)
    | some link =>
      let (b, result) := w.broker.receive l link d
      ({ w with broker := b }, .delivered result)
  | .disposition l tag settled =>
    ({ w with broker := w.broker.withLink l (w.broker.receiveDisposition l · tag settled) }, .nothing)
  | .detach l d => ({ w with broker := (w.broker.detach l d).1 }, .nothing)
  | .destroy l => ({ w with broker := w.broker.destroy l }, .nothing)

end World

/-- One event of a run, between what was before and what was after. -/
structure Step where
  before : World
  event : Event
  answer : Answer
  after : World

namespace World

def take (w : World) (e : Event) : Step := ⟨w, e, (w.step e).2, (w.step e).1⟩

def history (w : World) : List Event → List Step
  | [] => []
  | e :: es => w.take e :: (w.take e).after.history es

/-- What is there after a run. -/
def after (w : World) : List Event → World
  | [] => w
  | e :: es => (w.take e).after.after es

/-- **What one step keeps, a run keeps**, together with what it has left behind. -/
theorem history_induction {P : List Step → World → Prop}
    (step : ∀ past w e, P past w → P (past ++ [w.take e]) (w.take e).after) :
    ∀ (es : List Event) (past : List Step) (w : World), P past w → P (past ++ w.history es) (w.after es)
  | [], past, w, h => by rwa [history, List.append_nil]
  | e :: es, past, w, h => by
    have := history_induction step es (past ++ [w.take e]) (w.take e).after (step past w e h)
    rwa [List.append_assoc, List.singleton_append] at this

theorem after_append : ∀ (es es' : List Event) (w : World), w.after (es ++ es') = (w.after es).after es'
  | [], _, _ => rfl
  | e :: es, es', w => after_append es es' (w.take e).after

theorem history_append : ∀ (es es' : List Event) (w : World),
    w.history (es ++ es') = w.history es ++ (w.after es).history es'
  | [], _, _ => rfl
  | e :: es, es', w => congrArg (w.take e :: ·) (history_append es es' (w.take e).after)

theorem event_of_history {s : Step} : ∀ {es : List Event} {w : World}, s ∈ w.history es → s.event ∈ es
  | e :: es, w, hs => by
    rcases List.mem_cons.1 hs with rfl | hs
    · exact List.mem_cons_self
    · exact List.mem_cons_of_mem _ (event_of_history hs)

end World

/-- Publishing, transactions and deliveries. -/
def Event.works : Event → Bool
  | .route .. | .send .. | .drop _ | .begin | .doom _ | .resolve .. | .deliver .. => true
  | _ => false

theorem Broker.WorkSteps.take {R : Broker → Broker → Prop} (h : Broker.WorkSteps R) (w : World) {e : Event}
    (works : e.works = true) : R w.broker (w.take e).after.broker := by
  cases e with
  | route exchange message key properties => exact h.noteAll w.broker _
  | send i t =>
    unfold World.take World.step
    cases hi : w.results[i]? with
    | none => simpa only [hi] using h.refl w.broker
    | some result => simpa only [hi] using h.send w.broker result t
  | drop i =>
    unfold World.take World.step
    cases hi : w.held[i]? with
    | none => simpa only [hi] using h.refl w.broker
    | some entry => simpa only [hi] using h.release w.broker entry.message.id
  | begin => exact h.begin w.broker
  | doom t => exact h.doom w.broker t
  | resolve how i => cases how with
    | commit => exact h.commit w.broker i
    | rollback => exact h.rollback w.broker i
  | deliver l d =>
    unfold World.take World.step
    cases hl : w.broker.link? l with
    | none => simpa only [hl] using h.refl w.broker
    | some link => simpa only [hl] using h.receive w.broker l link d
  | _ => cases works

/-- **A relation in which every event stays.** -/
structure EventSteps (R : Broker → Broker → Prop) : Prop where
  links : Broker.LinkSteps R
  works : Broker.WorkSteps R
  pop : ∀ (b : Broker) q, R b (b.pop q).1
  /-- What the store and the session are told from outside. -/
  told : ∀ (b : Broker) failing session, R b { b with store.failing := failing, session }
  newLink : ∀ (b : Broker) name settings formats receiverOpen,
    R b (b.newLink (.new name settings formats receiverOpen)).1

namespace EventSteps

variable {R : Broker → Broker → Prop} (h : EventSteps R) (w : World)

include h

/-- **What each kind of step keeps, an event keeps.** -/
theorem take (e : Event) : R w.broker (w.take e).after.broker := by
  cases e with
  | administer q => exact h.links.administer w.broker q
  | pop q => exact h.pop w.broker q
  | failStore failing => exact h.told w.broker failing w.broker.session
  | session s => exact h.told w.broker w.broker.store.failing s
  | link name settings formats receiverOpen => exact h.newLink w.broker name settings formats receiverOpen
  | attach l how a => exact h.links.withLink (fun link => h.links.attachAs w.broker l link a how) l
  | start l => exact h.links.withLink (fun link => h.links.start w.broker l link) l
  | disposition l tag settled =>
    exact h.links.withLink (fun link => h.links.receiveDisposition w.broker l link tag settled) l
  | detach l d => exact h.links.detach w.broker l d
  | destroy l => exact h.links.teardown w.broker l .destroyed
  | _ => exact h.works.take w rfl

/-- What an event keeps, a run keeps. -/
theorem after (es : List Event) : R w.broker (w.after es).broker := by
  induction es generalizing w with
  | nil => exact h.works.refl w.broker
  | cons e es ih => exact h.works.trans (h.take w e) (ih (w.take e).after)

end EventSteps
end MessageBroker
