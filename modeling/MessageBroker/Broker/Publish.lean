import MessageBroker.Broker
import MessageBroker.Routing
/-!
# Publishing

A routing result is sent to its queues at once, or held back in a transaction.  A persistent
message is recorded in the store for each durable queue before any queue gets it.
-/
namespace MessageBroker.Broker

/-- Routes through an exchange; nothing is placed yet. -/
def route (b : Broker) (exchange : DestinationId) (message : Message) (key : String)
    (properties : InstanceProperties) : Broker × RoutingResult :=
  let (result, notices) := b.registry.route exchange message key properties
  (b.noteAll notices, result)

/-- Appends an entry to a queue that is not deleted, and counts its message as held. -/
def place (b : Broker) (queue : DestinationId) (entry : QueueEntry) : Broker :=
  match b.registry.live? queue with
  | none => b
  | some _ =>
    Broker.acquire
      { b with
        registry := b.registry.modify queue (·.mapQueue fun q =>
          { q with entries := q.entries ++ [entry] })
        deeds := b.deeds ++ [.place ⟨queue, entry⟩] }
      entry.message.id

/-- The record that must be written before a message is placed on a queue, if there must be. -/
def recordFor (b : Broker) (queue : DestinationId) (message : Message) : Option StoreRecord :=
  match b.registry.get? queue with
  | none => none
  | some q => if message.persistent && q.durable then some ⟨q.name, message.id⟩ else none

/-- Writes a record, unless the store refuses it. -/
def record (b : Broker) (r : StoreRecord) : Broker × Except StoreError Unit :=
  match b.store.write r with
  | .error e => (b, .error e)
  | .ok store => ({ b with store, deeds := b.deeds ++ [.record r] }, .ok ())

/-- Writes records in order and stops at the first that is refused; earlier ones stay. -/
def persist (b : Broker) : List StoreRecord → Broker × Except StoreError Unit
  | [] => (b, .ok ())
  | r :: records => match b.record r with
    | (b, .error e) => (b, .error e)
    | (b, .ok ()) => b.persist records

def transaction? (b : Broker) (id : TransactionId) : Option LocalTransaction :=
  if id = 0 then none else b.transactions[id - 1]?

def modifyTransaction (b : Broker) (id : TransactionId)
    (f : LocalTransaction → LocalTransaction) : Broker :=
  if id = 0 then b else { b with transactions := b.transactions.modify (id - 1) f }

/-- Holds an entry back in a transaction. -/
def hold (b : Broker) (id : TransactionId) (queue : DestinationId) (entry : QueueEntry) : Broker :=
  (b.modifyTransaction id fun t => { t with pending := t.pending ++ [⟨queue, entry⟩] }).acquire
    entry.message.id

/-- Sends a routing result: now, or when the transaction commits.  Answers the number of queues;
when the store fails no queue gets the message. -/
def send (b : Broker) (result : RoutingResult) (t : Transaction) :
    Broker × Except StoreError Nat :=
  let entry : QueueEntry := ⟨result.message, result.properties⟩
  match t with
  | .autoCommit => match b.persist (result.queues.filterMap (b.recordFor · result.message)) with
    | (b, .error e) => (b, .error e)
    | (b, .ok ()) => (result.queues.foldl (·.place · entry) b, .ok result.count)
  | .inside id =>
    let resolved := ((b.transaction? id).map (·.resolved)).getD true
    if resolved && result.hasRoutes then (b, .error (.alreadyResolved id))
    else (result.queues.foldl (fun b q => b.hold id q entry) b, .ok result.count)

/-- Takes the oldest entry off a queue.  Whoever takes it holds its message from then on. -/
def pop (b : Broker) (queue : DestinationId) : Broker × Option QueueEntry :=
  match (b.registry.get? queue).map Destination.entries with
  | some (entry :: rest) =>
    let registry := b.registry.modify queue (·.mapQueue fun q => { q with entries := rest })
    ({ b with registry }, some entry)
  | _ => (b, none)

end MessageBroker.Broker
