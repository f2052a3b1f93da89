import MessageBroker.Broker.Topology
/-!
# Ending a link

A link that is torn down gives up its registration at a destination, the node made for it, its
termini and its unsettled deliveries.  A link that is suspended keeps all but the first.
-/
namespace MessageBroker

/-- How a detach was handled. -/
inductive DetachOutcome where
  | closed | destroyed | suspended
deriving DecidableEq, Repr

def DetachOutcome.name : DetachOutcome → String
  | .closed => "closed"
  | .destroyed => "destroyed"
  | .suspended => "suspended"

namespace Broker

/-- Registers a link as publishing at the receiver's destination, if it has one. -/
def register (b : Broker) (link : String) (r : Receiver) : Broker :=
  match r.node? with
  | none => b
  | some d => (b.linkAdded d ⟨link, some r.address⟩).1

def unregister (b : Broker) (link : String) (r : Receiver) : Broker :=
  match r.node? with
  | none => b
  | some d => (b.linkRemoved d link).1

/-- Whether two receivers, or their absence, are the same. -/
def sameReceiver : Option Receiver → Option Receiver → Bool
  | none, none => true
  | some x, some y => x.serial == y.serial
  | _, _ => false

/-- Gives a link another receiver, and moves its registration there. -/
def setReceiver (b : Broker) (l : LinkId) (next : Option Receiver) : Broker :=
  match b.link? l with
  | none => b
  | some link =>
    if sameReceiver link.receiver next then b
    else
      let b := match link.receiver with
        | none => b
        | some r => b.unregister link.name r
      let b := match next with
        | none => b
        | some r => b.register link.name r
      let label := (next.bind Receiver.node?).map b.registry.labelOf
      (b.note (.destinationChanged link.name label)).modifyLink l fun x =>
        { x with receiver := next }

/-- Deletes the node that was made for a link. -/
def dropDynamicNode (b : Broker) (l : LinkId) : Broker :=
  match b.link? l with
  | none => b
  | some link => match link.dynamicNode with
    | none => b
    | some node =>
      let b := b.modifyLink l fun x => { x with dynamicNode := none }
      match b.deleteDynamic node with
      | (b, .ok ()) => b.note (.dynamicNodeDeleted link.name node)
      | (b, .error e) => b.note (.dynamicNodeKept link.name node e.message)

/-- A link without anything that belongs to being attached. -/
def clearLink (x : Link) : Link :=
  { x with
    unsettled := []
    source := none
    target := none
    capabilities := []
    credit := 0
    state := .detached }

def teardown (b : Broker) (l : LinkId) (how : LinkEnd) : Broker :=
  match b.link? l with
  | none => b
  | some link =>
    (((b.setReceiver l none).dropDynamicNode l).modifyLink l clearLink).note (.ended how link.name)

def destroy (b : Broker) (l : LinkId) : Broker := b.teardown l .destroyed

/-- Whether a link ends by its target's policy when it is detached now. -/
def expires (session : Session) : Option ExpiryPolicy → Bool
  | some .linkDetach => true
  | none | some .sessionEnd => session.closing
  | some .connectionClose => session.connectionClosing
  | some .never => false

/-- How a detach is to be handled: closed on request or by policy, destroyed after an error or
where nothing can be resumed, suspended otherwise. -/
def detachOutcome (session : Session) (link : Link) (detach : Option Detach) : DetachOutcome :=
  let closed := (detach.map (·.closed)).getD false
  let errored := (detach.map (·.error.isSome)).getD true
  if closed || expires session (link.target.bind (·.expiry)) then .closed
  else if errored || !link.settings.resumeSupported then .destroyed
  else .suspended

/-- Keeps termini and unsettled deliveries for later. -/
def suspend (b : Broker) (l : LinkId) : Broker :=
  match b.link? l with
  | none => b
  | some link =>
    ((b.setReceiver l none).modifyLink l fun x => { x with credit := 0, state := .unattached }).note
      (.suspended link.name link.unsettled.length)

/-- Handles a detach from the sender. -/
def detach (b : Broker) (l : LinkId) (request : Option Detach) : Broker × DetachOutcome :=
  match b.link? l with
  | none => (b, .destroyed)
  | some link =>
    let b := b.modifyLink l fun x => { x with state := .detaching }
    match detachOutcome b.session link request with
    | .closed => (b.teardown l .closed, .closed)
    | .destroyed => (b.teardown l .destroyed, .destroyed)
    | .suspended => (b.suspend l, .suspended)

end Broker
end MessageBroker
