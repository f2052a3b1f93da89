import MessageBroker.Destination
import MessageBroker.Settings
/-!
# The registry of a virtual host

Every destination that was ever made has a place in the registry, and its place is its identity.
Two maps, one by name and one by identity, hold the destinations that are registered; those that
left them stay known to whoever holds them.  The system exchanges come first.
-/
namespace MessageBroker

inductive Change where
  | created | deleted
deriving DecidableEq, Repr

/-- A change that subscribers are told of. -/
structure RegistryEvent where
  change : Change
  destination : DestinationId
  kind : DestinationKind
  name : String
deriving DecidableEq, Repr

structure Registry where
  settings : HostSettings
  /-- Every destination ever made, deleted or not. -/
  destinations : List Destination
  /-- The registered destinations by name. -/
  names : List (String × DestinationId)
  /-- The registered destinations by identity, oldest first. -/
  ids : List DestinationId
  /-- Everything published so far, oldest first. -/
  events : List RegistryEvent
  /-- The nodes that were made on a link's request, in order. -/
  dynamicNodes : List DestinationId

namespace Registry

def systemDirect : String := "amq.direct"

def systemFanout : String := "amq.fanout"

/-- A registry with the system exchanges. -/
def new (settings : HostSettings) : Registry where
  settings
  destinations :=
    [.newExchange systemDirect .direct true true none,
     .newExchange systemFanout .fanout true true none]
  names := [(systemDirect, 0), (systemFanout, 1)]
  ids := [0, 1]
  events := []
  dynamicNodes := []

/-- A destination by identity, deleted or not. -/
def get? (r : Registry) (d : DestinationId) : Option Destination := r.destinations[d]?

/-- The destination registered under a name. -/
def lookup (r : Registry) (name : String) : Option DestinationId := r.names.lookup name

/-- The destination registered under an identity. -/
def registered? (r : Registry) (d : DestinationId) : Option Destination :=
  if r.ids.contains d then r.get? d else none

/-- A destination that is not deleted, by identity. -/
def live? (r : Registry) (d : DestinationId) : Option Destination :=
  (r.get? d).filter (!·.deleted)

def lookupQueue (r : Registry) (name : String) : Option DestinationId :=
  (r.lookup name).filter fun d => ((r.get? d).bind Destination.queue?).isSome

def lookupExchange (r : Registry) (name : String) : Option DestinationId :=
  (r.lookup name).filter fun d => ((r.get? d).bind Destination.exchange?).isSome

/-- The registered destinations. -/
def toList (r : Registry) : List Destination := r.ids.filterMap r.get?

def nameOf (r : Registry) (d : DestinationId) : String :=
  match r.get? d with
  | some d => d.name
  | none => ""

def labelOf (r : Registry) (d : DestinationId) : String :=
  match r.get? d with
  | some d => d.label
  | none => ""

def modify (r : Registry) (d : DestinationId) (f : Destination → Destination) : Registry :=
  { r with destinations := r.destinations.modify d f }

theorem get?_modify_self (r : Registry) (d : DestinationId) (f : Destination → Destination) :
    (r.modify d f).get? d = (r.get? d).map f := by
  simp [get?, modify]

theorem get?_modify_of_ne (r : Registry) {d d' : DestinationId} (h : d ≠ d')
    (f : Destination → Destination) : (r.modify d f).get? d' = r.get? d' := by
  simp [get?, modify, h]

def publish (r : Registry) (change : Change) (d : DestinationId) : Registry :=
  match r.get? d with
  | none => r
  | some destination =>
    { r with events := r.events ++ [⟨change, d, destination.kind, destination.name⟩] }

/-- How many of the newest events are kept for a subscriber. -/
def eventsKept : Nat := 64

/-- What a subscriber who has seen `seen` events is told: how many it lost, and the rest. -/
def eventsSince (r : Registry) (seen : Nat) : Nat × List RegistryEvent :=
  let news := r.events.drop seen
  let lost := news.length - eventsKept
  (lost, news.drop lost)

end Registry
end MessageBroker
