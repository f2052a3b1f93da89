import MessageBroker.Broker.Detach
/-!
# Attaching a link

An attach establishes a new link, or takes up one whose target was kept.  It finds a receiver for
the target, drops the unsettled deliveries that the sender no longer knows, and fails as a whole:
a link that cannot be attached is torn down.
-/
namespace MessageBroker

namespace ProtocolError

def noTarget (link : String) : ProtocolError :=
  ⟨.notFound, "Link target for '" ++ link ++ "' not found"⟩

def noNode (address : String) : ProtocolError :=
  ⟨.notFound, "Could not find destination for target address '" ++ address ++ "'"⟩

def coordinatorElsewhere : ProtocolError :=
  ⟨.notImplemented, "coordinator targets are served by the transaction coordinator link"⟩

def coordinatorCannot (verb : String) : ProtocolError :=
  ⟨.preconditionFailed, "Cannot " ++ verb ++ " a coordinator link"⟩

end ProtocolError

namespace Broker

/-- Ends an attach that failed. -/
def failAttach (b : Broker) (l : LinkId) (link : Link) (e : LinkError) :
    Broker × Except LinkError Unit :=
  let b := b.note (.attachFailed link.name e.message)
  (if e.isFatal then b.teardown l .destroyed else b, .error e)

/-- The node that was made for a link, while it is there, or a new one. -/
def dynamicNode (b : Broker) (l : LinkId) (link : Link) : Broker × Except ProtocolError Resolved :=
  match link.dynamicNode.bind b.registry.resolve with
  | some resolved => (b, .ok resolved)
  | none => match b.createDynamic link.name with
    | (b, .error e) => (b, .error e)
    | (b, .ok resolved) =>
      let name := b.registry.nameOf resolved.destination
      (b.modifyLink l fun x => { x with dynamicNode := some name }, .ok resolved)

/-- A receiver for a destination. -/
def nodeReceiver (b : Broker) (link : Link) (address : String) (resolved : Resolved)
    (discard : Bool) : Broker × Receiver :=
  b.newReceiver address link.settings.defaultCredit
    (.node resolved.destination resolved.key discard)

/-- The receiver for a target, and the target with the address that it has in the end. -/
def receiverFor (b : Broker) (l : LinkId) (link : Link) (target : Target) :
    Broker × Except ProtocolError (Receiver × Target) :=
  let discard := target.hasCapability Target.discardUnroutable
  if target.dynamic then match b.dynamicNode l link with
    | (b, .error e) => (b, .error e)
    | (b, .ok resolved) =>
      let address := b.registry.nameOf resolved.destination
      let (b, r) := b.nodeReceiver link address resolved discard
      (b, .ok (r, { target with address := some address }))
  else match target.address with
    | none | some "" =>
      let (b, r) := b.newReceiver "" link.settings.defaultCredit (.relay discard)
      (b, .ok (r, target))
    | some address => match b.registry.resolve address with
      | none => (b, .error (.noNode address))
      | some resolved =>
        let (b, r) := b.nodeReceiver link address resolved discard
        (b, .ok (r, target))

/-- The capabilities of an attached link: the kinds of topic it asked for, and what its receiver
offers. -/
def grantedCapabilities (requested : Target) (r : Receiver) : List String :=
  (requested.capabilities.getD []).filter
    (fun c => c == Target.topic || c == Target.temporaryTopic) ++ r.capabilities

/-- Drops the unsettled deliveries that an attach does not mention, unless it says that its list
may lack some. -/
def reconcile (b : Broker) (l : LinkId) (link : Link) (a : Attach) : Broker :=
  if a.incomplete then b
  else
    let kept := link.unsettled.retain (a.unsettled.getD [])
    let dropped := link.unsettled.length - kept.length
    let b := b.modifyLink l fun x => { x with unsettled := kept }
    if dropped = 0 then b else b.note (.reconciled link.name dropped)

/-- Attaches a link to the receiver that was found for it. -/
def completeAttach (b : Broker) (l : LinkId) (link : Link) (a : Attach) (requested : Target)
    (r : Receiver) (target : Target) : Broker :=
  let capabilities := grantedCapabilities requested r
  let target :=
    { target with capabilities := if capabilities.isEmpty then none else some capabilities }
  let b := b.modifyLink l fun x => { x with capabilities }
  let b := (b.reconcile l link a).setReceiver l (some r)
  let b := b.modifyLink l fun x => { x with target := some target, state := .attached }
  b.note (.attached link.name (target.address.getD "")
    (((b.link? l).map (·.unsettled.length)).getD 0))

/-- The target that an attach asks for, or the one that was kept. -/
def attachTarget (link : Link) (a : Attach) : Except ProtocolError Target :=
  match a.target with
  | some (.node requested) => .ok (requested.negotiate link.settings)
  | some .coordinator => .error .coordinatorElsewhere
  | none => match link.target with
    | some kept => .ok kept
    | none => .error (.noTarget link.name)

/-- Goes through with an attach; `source` replaces the link's source if there is one. -/
def attachReceived (b : Broker) (l : LinkId) (link : Link) (source : Option Source) (a : Attach) :
    Broker × Except LinkError Unit :=
  let b := b.modifyLink l fun x =>
    { x with
      source := source <|> x.source
      state := .attaching
      settleMode := a.settleMode <|> x.settings.settleMode }
  match attachTarget link a with
  | .error e => b.failAttach l link (.fatal e)
  | .ok target => match b.receiverFor l link target with
    | (b, .error e) => b.failAttach l link (.fatal e)
    | (b, .ok (r, final)) => (b.completeAttach l link a target r final, .ok ())

/-- Attaches a link for the first time. -/
def establish (b : Broker) (l : LinkId) (link : Link) (a : Attach) :
    Broker × Except LinkError Unit :=
  if link.source.isSome || link.target.isSome then
    b.failAttach l link (.illegalState (.alreadyEstablished link.name))
  else b.attachReceived l link (some (a.source.getD {})) a

/-- Takes up a link with the target that was kept and one that the attach names. -/
def resume (b : Broker) (l : LinkId) (link : Link) (a : Attach) :
    Broker × Except LinkError Unit :=
  if a.target == some .coordinator then
    b.failAttach l link (.fatal (.coordinatorCannot "resume"))
  else if link.target.isNone then
    b.failAttach l link (.illegalState (.nothingToResume link.name))
  else if a.target.isNone then
    b.failAttach l link (.illegalState (.noTargetGiven link.name))
  else b.attachReceived l link a.source a

/-- Attaches a link once more, whatever its state. -/
def reattach (b : Broker) (l : LinkId) (link : Link) (a : Attach) :
    Broker × Except LinkError Unit :=
  if a.target == some .coordinator then
    b.failAttach l link (.fatal (.coordinatorCannot "reattach"))
  else b.attachReceived l link a.source a

/-- Takes up a link with the target that was kept, when the attach names none. -/
def recover (b : Broker) (l : LinkId) (link : Link) (a : Attach) :
    Broker × Except LinkError Unit :=
  if link.target.isNone then b.failAttach l link (.fatal (.noTarget link.name))
  else b.attachReceived l link a.source a

/-- Handles an attach as what it is: a new link, one to be resumed, or one to be recovered. -/
def attach (b : Broker) (l : LinkId) (link : Link) (a : Attach) :
    Broker × Except LinkError Unit :=
  if link.state != .unattached then
    (b, .error (.illegalState (.cannotAttach link.name link.state)))
  else if a.target.isNone then b.recover l link a
  else if link.target.isNone then b.establish l link a
  else b.resume l link a

end Broker
end MessageBroker
