import MessageBroker.Broker
import MessageBroker.Registry.Address
/-!
# Administration of a broker

The operations on the topology, with what they mean for the rest of the broker: notices are given,
and the messages on a deleted queue are released.
-/
namespace MessageBroker.Broker

/-- Reports a refusal, and changes nothing else. -/
def refuse {α : Type} (b : Broker) (e : TopologyError) : Broker × Except TopologyError α :=
  (b.noteAll e.notice?.toList, .error e)

/-- Takes over the registry in which a destination was made. -/
def created (b : Broker) (r : Registry) (d : DestinationId) : Broker :=
  match r.get? d with
  | none => b
  | some x =>
    Broker.note { b with registry := r }
      (.created x.named x.durable x.alternateName)

def createQueue (b : Broker) (q : QueueDeclaration) : Broker × Except TopologyError DestinationId :=
  match b.registry.createQueue q with
  | .error e => b.refuse e
  | .ok (r, d) => (b.created r d, .ok d)

def createExchange (b : Broker) (e : ExchangeDeclaration) :
    Broker × Except TopologyError DestinationId :=
  match b.registry.createExchange e with
  | .error e => b.refuse e
  | .ok (r, d) => (b.created r d, .ok d)

def setAlternate (b : Broker) (name : String) (alternate : Option String) :
    Broker × Except TopologyError Unit :=
  match b.registry.setAlternate name alternate with
  | .error e => b.refuse e
  | .ok (r, d) =>
    (Broker.note { b with registry := r } (.alternateUpdated (r.labelOf d) alternate), .ok ())

/-- Binds by identity.  Answers false when the pair is bound and may not be replaced. -/
def bindTo (b : Broker) (exchange target : DestinationId) (key : String)
    (arguments : BindingArguments) (replace : Bool) : Broker × Except TopologyError Bool :=
  match b.registry.bind exchange target key arguments replace with
  | .error e => b.refuse e
  | .ok (r, outcome) =>
    (Broker.note { b with registry := r }
      (.bindingUpdated outcome (r.nameOf exchange) (r.labelOf target) key),
     .ok (outcome != .refused))

/-- Unbinds by identity.  Answers whether there was such a binding. -/
def unbindFrom (b : Broker) (exchange target : DestinationId) (key : String) : Broker × Bool :=
  let (r, removed) := b.registry.unbind exchange target key
  let b := { b with registry := r }
  if removed then
    (b.note (.bindingRemoved (r.nameOf exchange) (r.labelOf target) key), true)
  else (b, false)

def bind (b : Broker) (exchange target key : String) (arguments : BindingArguments)
    (replace : Bool) : Broker × Except TopologyError Bool :=
  match b.registry.endpoints exchange target with
  | .error e => b.refuse e
  | .ok (e, t) => b.bindTo e t key arguments replace

def unbind (b : Broker) (exchange target key : String) : Broker × Except TopologyError Bool :=
  match b.registry.endpoints exchange target with
  | .error e => b.refuse e
  | .ok (e, t) =>
    let (b, removed) := b.unbindFrom e t key
    (b, .ok removed)

/-- The notices of a deletion: one per exchange that lost bindings, and one for the destination. -/
def deletionNotices (r : Registry) (x : Deletion) : List Notice :=
  let label := r.labelOf x.destination
  let links := ((r.get? x.destination).map (·.links.length)).getD 0
  let swept := (x.swept.map Prod.snd).foldr (· + ·) 0
  x.swept.map (fun (e, n) => .bindingsSwept (r.nameOf e) label n)
    ++ [.deleted label (swept + x.cleared) links]

def delete (b : Broker) (name : String) (force : Bool) : Broker × Except TopologyError Unit :=
  match b.registry.delete name force with
  | .error e => b.refuse e
  | .ok (r, x) =>
    (({ b with registry := r }.releaseEntries x.entries).noteAll (deletionNotices r x), .ok ())

/-- Makes a queue for a link that asked for a node of its own. -/
def createDynamic (b : Broker) (link : String) : Broker × Except ProtocolError Resolved :=
  match b.createQueue { name := b.registry.nextDynamicName link } with
  | (b, .error e) => (b, .error e.internal)
  | (b, .ok d) =>
    ({ b with registry := { b.registry with dynamicNodes := b.registry.dynamicNodes ++ [d] } },
      .ok ⟨d, none⟩)

def deleteDynamic (b : Broker) (name : String) : Broker × Except ProtocolError Unit :=
  match b.delete name false with
  | (b, .error e) => (b, .error e.internal)
  | (b, .ok ()) => (b, .ok ())

def linkAdded (b : Broker) (d : DestinationId) (link : PublishingLink) : Broker × Bool :=
  match b.registry.get? d with
  | none => (b, false)
  | some x =>
    let (added, x) := x.linkAdded link
    ({ b with registry := b.registry.modify d fun _ => x }, added)

def linkRemoved (b : Broker) (d : DestinationId) (name : String) : Broker × Bool :=
  match b.registry.get? d with
  | none => (b, false)
  | some x =>
    let (removed, x) := x.linkRemoved name
    ({ b with registry := b.registry.modify d fun _ => x }, removed)

end MessageBroker.Broker
