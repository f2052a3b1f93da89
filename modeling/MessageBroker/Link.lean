import MessageBroker.Registry
import MessageBroker.Terminus
/-!
# Links

A receiving link takes deliveries from one sender and hands their messages to a receiver: a named
destination, the relay that goes by each message's address, or a scripted one.
-/
namespace MessageBroker

abbrev LinkId := Nat

inductive LinkState where
  | unattached | attaching | attached | detaching | detached
deriving DecidableEq, Repr

def LinkState.name : LinkState → String
  | .unattached => "unattached"
  | .attaching => "attaching"
  | .attached => "attached"
  | .detaching => "detaching"
  | .detached => "detached"

/-- The end of a transaction. -/
inductive Resolution where
  | commit | rollback
deriving DecidableEq, Repr

/-- A receiver that always gives the same answer, once it has ended the delivery's transaction. -/
structure Script where
  answer : Except ProtocolError Outcome
  node : Option DestinationId
  /-- Sorted. -/
  capabilities : List String
  resolve : Option Resolution

inductive Receiver.Kind where
  /-- Sends to one destination, under a key of its own if it has one. -/
  | node (destination : DestinationId) (key : Option String) (discardUnroutable : Bool)
  /-- Sends each message where its own address says. -/
  | relay (discardUnroutable : Bool)
  | scripted (script : Script)

structure Receiver where
  /-- Tells receivers apart that are otherwise alike. -/
  serial : Nat
  address : String
  credit : Nat
  kind : Receiver.Kind

namespace Receiver

def capabilities (r : Receiver) : List String :=
  match r.kind with
  | .node _ _ discard =>
    if discard then [Target.delayedDelivery, Target.discardUnroutable]
    else [Target.delayedDelivery]
  | .relay _ => [Target.delayedDelivery]
  | .scripted s => s.capabilities

/-- The destination where the link is registered as publishing, if there is a single one. -/
def node? (r : Receiver) : Option DestinationId :=
  match r.kind with
  | .node d _ _ => some d
  | .relay _ => none
  | .scripted s => s.node

end Receiver

structure Link where
  name : String
  settings : LinkSettings
  /-- The codes of the message formats that can be decoded. -/
  formats : List Nat
  /-- Whether anyone still takes the dispositions. -/
  receiverOpen : Bool
  state : LinkState
  source : Option Source
  target : Option Target
  capabilities : List String
  receiver : Option Receiver
  unsettled : Unsettled
  settleMode : Option SettleMode
  credit : Nat
  /-- The name of the node that was made for this link. -/
  dynamicNode : Option String

namespace Link

def new (name : String) (settings : LinkSettings) (formats : List Nat) (receiverOpen : Bool) :
    Link where
  name
  settings
  formats
  receiverOpen
  state := .unattached
  source := none
  target := none
  capabilities := []
  receiver := none
  unsettled := []
  settleMode := settings.settleMode
  credit := 0
  dynamicNode := none

/-- Whether a delivery is settled as soon as it is processed. -/
def settlesFirst (l : Link) (transfer : Option SettleMode) : Bool :=
  (transfer <|> l.settleMode) != some .second

end Link

/-! ## Errors of a link -/

inductive IllegalState where
  | cannotAttach (link : String) (state : LinkState)
  | alreadyEstablished (link : String)
  | nothingToResume (link : String)
  | noTargetGiven (link : String)
  | noReceiver (link : String)
deriving DecidableEq, Repr

def IllegalState.reason : IllegalState → String
  | .cannotAttach link state => "link '" ++ link ++ "' cannot attach while " ++ state.name
  | .alreadyEstablished link =>
    "link '" ++ link ++ "' already has termini and cannot be established again"
  | .nothingToResume link => "link '" ++ link ++ "' has no target to resume"
  | .noTargetGiven link =>
    "attach for link '" ++ link ++ "' carries no target to resume with"
  | .noReceiver link => "link '" ++ link ++ "' has no destination"

inductive LinkError where
  /-- Fails one delivery; the link stays attached. -/
  | delivery (e : ProtocolError)
  | notAttached (link : String) (state : LinkState)
  | illegalState (fault : IllegalState)
  | fatal (e : ProtocolError)
  | workerStopped (link : String)
deriving DecidableEq, Repr

namespace LinkError

/-- Whether the link is, or must be, torn down because of the error. -/
def isFatal : LinkError → Bool
  | .illegalState _ | .fatal _ | .workerStopped _ => true
  | .delivery _ | .notAttached .. => false

def message : LinkError → String
  | .delivery e => e.message
  | .notAttached link state =>
    "link '" ++ link ++ "' is not attached (state: " ++ state.name ++ ")"
  | .illegalState fault => "illegal link state: " ++ fault.reason
  | .fatal e => "link failed: " ++ e.message
  | .workerStopped link => "worker for link '" ++ link ++ "' has stopped"

def condition? : LinkError → Option Condition
  | .delivery e | .fatal e => some e.condition
  | _ => none

end LinkError
end MessageBroker
