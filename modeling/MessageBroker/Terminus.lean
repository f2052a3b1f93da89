import MessageBroker.Delivery
/-!
# Termini, attach and detach

The two ends of a link as its sender describes them, and the requests that begin and end it.
-/
namespace MessageBroker

inductive ExpiryPolicy where
  | linkDetach | sessionEnd | connectionClose | never
deriving DecidableEq, Repr

def ExpiryPolicy.all : List ExpiryPolicy := [.linkDetach, .sessionEnd, .connectionClose, .never]

def ExpiryPolicy.name : ExpiryPolicy → String
  | .linkDetach => "link-detach"
  | .sessionEnd => "session-end"
  | .connectionClose => "connection-close"
  | .never => "never"

def ExpiryPolicy.ofName? (s : String) : Option ExpiryPolicy := all.find? (·.name == s)

theorem ExpiryPolicy.ofName?_name (p : ExpiryPolicy) : ofName? p.name = some p := by
  cases p <;> decide

structure Source where
  address : Option String := none
  outcomes : Option (List OutcomeKind) := none
  defaultOutcome : Option OutcomeKind := none
deriving DecidableEq, Repr

namespace Source

/-- The outcomes that the sender can be given.  If it declares none that is only `accepted`, and
with a default outcome not even that. -/
def supported (s : Source) : List OutcomeKind :=
  match s.outcomes, s.defaultOutcome with
  | some outcomes, _ => outcomes
  | none, none => [.accepted]
  | none, some _ => []

def declares (s : Source) (k : OutcomeKind) : Bool :=
  match s.outcomes with
  | some outcomes => outcomes.contains k
  | none => false

end Source

structure Target where
  address : Option String := none
  durable : Durability := .none
  expiry : Option ExpiryPolicy := none
  timeout : Nat := 0
  /-- Whether the sender asks for a node of its own. -/
  dynamic : Bool := false
  properties : Option (List (String × String)) := none
  capabilities : Option (List String) := none
deriving DecidableEq, Repr

namespace Target

def topic : String := "topic"

def temporaryTopic : String := "temporary-topic"

def discardUnroutable : String := "discard-unroutable"

def delayedDelivery : String := "DELAYED_DELIVERY"

def lifetimePolicy : String := "lifetime-policy"

def hasCapability (t : Target) (capability : String) : Bool :=
  match t.capabilities with
  | some cs => cs.contains capability
  | none => false

/-- What a link grants of a requested target. -/
def negotiate (t : Target) (settings : LinkSettings) : Target :=
  { t with
    durable := t.durable.least settings.highestDurability
    properties := t.properties.map (·.filter (·.1 == lifetimePolicy)) }

end Target

inductive AttachTarget where
  | node (target : Target)
  /-- The place where transactions are controlled. -/
  | coordinator
deriving DecidableEq, Repr

structure Attach where
  source : Option Source := none
  target : Option AttachTarget := none
  /-- The deliveries that the sender knows to be unsettled. -/
  unsettled : Option (List DeliveryTag) := none
  /-- Whether that list may lack some. -/
  incomplete : Bool := false
  settleMode : Option SettleMode := none
deriving DecidableEq, Repr

structure Detach where
  closed : Bool := false
  error : Option ProtocolError := none
deriving DecidableEq, Repr

end MessageBroker
