import MessageBroker.Broker.Transact
import MessageBroker.Registry.Address
/-!
# Taking deliveries

A delivery is checked, its message handed to the link's receiver, and a disposition sent or, in a
transaction, owed.  A delivery that fails has done nothing but doom its transaction.
-/
namespace MessageBroker

namespace ProtocolError

def notResumable (tag : DeliveryTag) : ProtocolError :=
  ⟨.notImplemented,
    "Resuming delivery '" ++ tag.hex ++ "' without a recorded outcome is not supported"⟩

def tagInUse (tag : DeliveryTag) : ProtocolError :=
  ⟨.illegalState,
    "Delivery tag '" ++ tag.hex ++ "' is already in use by an unsettled delivery"⟩

def unknownFormat (format : Nat) : ProtocolError :=
  ⟨.notImplemented, "Unknown message format: " ++ toString format⟩

def unknownTransaction (id : TransactionId) : ProtocolError :=
  ⟨.unknownTransaction, "transaction-id '" ++ toString id ++ "' is unknown."⟩

def denied (e : AccessDenied) : ProtocolError := ⟨.notAllowed, e.message⟩

def transientStore : ProtocolError :=
  ⟨.preconditionFailed, "Non-durable message store cannot accept durable message."⟩

def storeFailed (e : StoreError) : ProtocolError := ⟨.internalError, e.message⟩

def unknownDestination (address : String) : ProtocolError :=
  ⟨.notFound, "Unknown destination '" ++ address ++ "'"⟩

end ProtocolError

namespace Broker

/-- Fails unless the link is attached. -/
def ensureAttached (b : Broker) (link : Link) : Broker × Except LinkError Unit :=
  if link.state = .attached then (b, .ok ())
  else
    (b.note (.deliveryRefused link.name link.state.name),
      .error (.notAttached link.name link.state))

/-- Grants the sender the credit of the link's receiver. -/
def start (b : Broker) (l : LinkId) (link : Link) : Broker × Except LinkError Nat :=
  match b.ensureAttached link with
  | (b, .error e) => (b, .error e)
  | (b, .ok ()) =>
    let credit := match link.receiver with
      | some r => r.credit
      | none => link.settings.defaultCredit
    ((b.modifyLink l fun x => { x with credit }).note (.creditGranted link.name credit), .ok credit)

/-! ## Receivers -/

/-- The outcome of a message that no queue takes. -/
def unroutable (discard : Bool) (address : String) : Outcome :=
  if discard then .accepted else .rejected (some (.unknownDestination address))

/-- The queues for a message sent to a destination: along its routes from an exchange, under the
address's key or else its own. -/
def routeTo (b : Broker) (resolved : Resolved) (message : Message) : Broker × RoutingResult :=
  match (b.registry.get? resolved.destination).bind Destination.exchange? with
  | some _ =>
    b.route resolved.destination message ((resolved.key <|> message.routingKey).getD "") []
  | none => (b, b.registry.routeToQueue resolved.destination message [])

def enqueueRouted (b : Broker) (result : RoutingResult) (t : Transaction) (discard : Bool)
    (address : String) : Broker × Except ProtocolError Outcome :=
  if !result.hasRoutes then (b, .ok (unroutable discard address))
  else match b.send result t with
    | (b, .error e) => (b, .error (.storeFailed e))
    | (b, .ok _) => (b, .ok .accepted)

def sendToNode (b : Broker) (resolved : Resolved) (message : Message) (t : Transaction)
    (discard : Bool) (address : String) : Broker × Except ProtocolError Outcome :=
  let (b, result) := b.routeTo resolved message
  b.enqueueRouted result t discard address

/-- Hands a message to a receiver. -/
def sendToReceiver (b : Broker) (r : Receiver) (message : Message) (t : Transaction) :
    Broker × Except ProtocolError Outcome :=
  match r.kind with
  | .node d key discard => b.sendToNode ⟨d, key⟩ message t discard r.address
  | .relay discard => match message.address with
    | none => (b, .ok (unroutable discard ""))
    | some address => match b.registry.resolve address with
      | none => (b, .ok (unroutable discard address))
      | some resolved => b.sendToNode resolved message t discard address
  | .scripted s =>
    let b := match t, s.resolve with
      | .inside id, some .commit => (b.commit id).1
      | .inside id, some .rollback => (b.rollback id).1
      | _, _ => b
    (b, s.answer)

/-! ## One delivery -/

/-- The outcome of a delivery.  A persistent message needs a persistent store: without one it is
rejected if the sender knows that outcome, and fails otherwise. -/
def outcomeOf (b : Broker) (source : Source) (r : Receiver) (message : Message)
    (t : Transaction) : Broker × Except ProtocolError Outcome :=
  if message.persistent && !b.store.persistent then
    if source.declares .rejected then (b, .ok (.rejected (some .transientStore)))
    else (b, .error .transientStore)
  else b.sendToReceiver r message t

/-- The state that the sender is told, if it knows the outcome. -/
def stateFor (source : Source) (t : Transaction) (outcome : Outcome) : Option DeliveryState :=
  if source.supported.contains outcome.kind then
    some (match t with
      | .autoCommit => .final outcome
      | .inside id => .transactional id (some outcome))
  else none

/-- Whether an outcome that the sender does not know, and would take for another one, dooms the
transaction. -/
def mistaken (source : Source) (outcome : Outcome) : Bool :=
  !source.supported.contains outcome.kind &&
    match source.defaultOutcome with
    | some k => k != outcome.kind
    | none => false

/-- Sends the disposition of a processed delivery, or owes it to the end of its transaction. -/
def answer (b : Broker) (l : LinkId) (t : Transaction) (d : Disposition) : Broker :=
  let b := match d.state with
    | some s => b.modifyLink l fun x => { x with unsettled := x.unsettled.record d.tag (some s) }
    | none => b
  match t with
  | .autoCommit => b.sendDisposition l d
  | .inside id => b.owe id ⟨l, d⟩

def count (b : Broker) (t : Transaction) (size : Nat) : Broker :=
  let s := b.statistics.received size
  { b with statistics := if t.isTransactional then s.transacted else s }

/-- Answers and counts a delivery that was processed with the given outcome. -/
def complete (b : Broker) (l : LinkId) (link : Link) (delivery : Delivery) (message : Message)
    (t : Transaction) (settled : Bool) (outcome : Outcome) : Broker :=
  let source := link.source.getD {}
  let b := if mistaken source outcome then b.doom t else b
  let b := b.answer l t ⟨delivery.tag, stateFor source t outcome, settled⟩
  (b.count t message.size).note
    (.deliveryAccepted link.name delivery.tag.hex outcome.display settled)

def deliver (b : Broker) (l : LinkId) (link : Link) (delivery : Delivery) (message : Message)
    (t : Transaction) (settled : Bool) : Broker × Except LinkError Unit :=
  match b.principal.authorize message.userId with
  | .error e => (b, .error (.delivery (.denied e)))
  | .ok () => match link.receiver with
    | none => (b, .error (.illegalState (.noReceiver link.name)))
    | some r => match b.outcomeOf (link.source.getD {}) r message t with
      | (b, .error e) => (b, .error (.delivery e))
      | (b, .ok outcome) => (b.complete l link delivery message t settled outcome, .ok ())

/-- The transaction that a delivery belongs to. -/
def transactionOf (b : Broker) (delivery : Delivery) : Except ProtocolError Transaction :=
  match delivery.transaction? with
  | none => .ok .autoCommit
  | some id => match b.transaction id with
    | .ok t => .ok t
    | .error _ => .error (.unknownTransaction id)

/-- The message of a delivery whose tag and format allow to read it. -/
def decode (link : Link) (delivery : Delivery) : Except ProtocolError Message :=
  if link.unsettled.contains delivery.tag then .error (.tagInUse delivery.tag)
  else if !link.formats.contains delivery.format then .error (.unknownFormat delivery.format)
  else delivery.decoded

/-- The message of a delivery that comes in, if the link gets as far as reading it. -/
def read? (link : Link) (delivery : Delivery) : Option Message :=
  if link.state = .attached && !delivery.resume then (decode link delivery).toOption else none

/-- Processes a delivery; its message is held until that is done. -/
def process (b : Broker) (l : LinkId) (link : Link) (delivery : Delivery) (settled : Bool) :
    Broker × Except LinkError Unit :=
  match decode link delivery with
  | .error e => (b, .error (.delivery e))
  | .ok message => match b.transactionOf delivery with
    | .error e => (b, .error (.delivery e))
    | .ok t => match (b.acquire message.id).deliver l link delivery message t settled with
      | (b, .error e) => ((b.doom t).release message.id, .error e)
      | (b, .ok ()) => (b.release message.id, .ok ())

/-- Sends the outcome of an earlier delivery again. -/
def resumeDelivery (b : Broker) (l : LinkId) (link : Link) (tag : DeliveryTag) (settled : Bool) :
    Broker × Except LinkError Unit :=
  match link.unsettled.state? tag with
  | some (some (.final outcome)) =>
    let state := DeliveryState.final outcome
    ((b.note (.deliveryResumed link.name tag.hex state.display)).sendDisposition l
      ⟨tag, some state, settled⟩, .ok ())
  | _ => (b, .error (.delivery (.notResumable tag)))

/-- Takes one delivery. -/
def receive (b : Broker) (l : LinkId) (link : Link) (delivery : Delivery) :
    Broker × Except LinkError Unit :=
  match b.ensureAttached link with
  | (b, .error e) => (b, .error e)
  | (b, .ok ()) =>
    let settled := link.settlesFirst delivery.settleMode
    if delivery.resume then b.resumeDelivery l link delivery.tag settled
    else match b.process l link delivery settled with
      | (b, .ok ()) => (b, .ok ())
      | (b, .error e) =>
        (b.note (.deliveryFailed link.name delivery.tag.hex e.message), .error e)

/-- Takes a disposition from the sender, of which only settling matters. -/
def receiveDisposition (b : Broker) (l : LinkId) (link : Link) (tag : DeliveryTag)
    (settled : Bool) : Broker :=
  if settled && link.unsettled.contains tag then
    (b.modifyLink l fun x => { x with unsettled := x.unsettled.remove tag }).note
      (.remoteSettled link.name tag.hex)
  else b

end Broker
end MessageBroker
