import MessageBroker.Binding.Table
import MessageBroker.Message
/-!
# Destinations

A destination is a named place to send to: a queue, which keeps messages, or an exchange, which
forwards them along its bindings.  Deleting marks it; its identity stays known to those who hold
it.
-/
namespace MessageBroker

inductive DestinationKind where
  | queue | exchange
deriving DecidableEq, Repr

def DestinationKind.name : DestinationKind → String
  | .queue => "queue"
  | .exchange => "exchange"

inductive ExchangeType where
  /-- Forwards along the bindings whose key is the routing key. -/
  | direct
  /-- Forwards along every binding. -/
  | fanout
deriving DecidableEq, Repr

def ExchangeType.name : ExchangeType → String
  | .direct => "direct"
  | .fanout => "fanout"

def ExchangeType.ofName? (s : String) : Option ExchangeType := [direct, fanout].find? (·.name == s)

theorem ExchangeType.ofName?_name (t : ExchangeType) : ofName? t.name = some t := by
  cases t <;> decide

/-- A message on a queue. -/
structure QueueEntry where
  message : Message
  properties : InstanceProperties

structure Queue where
  capacity : Option Nat
  /-- Oldest first. -/
  entries : List QueueEntry

structure Exchange where
  type : ExchangeType
  /-- Made with the registry, and not to be deleted. -/
  system : Bool
  bindings : BindingTable

inductive Destination.Body where
  | queue (q : Queue)
  | exchange (e : Exchange)

/-- A link that publishes to a destination, and the address it does so under. -/
structure PublishingLink where
  name : String
  address : Option String
deriving DecidableEq, Repr

/-- Where messages go that find no way on from a destination: another destination, and the name
that it was chosen by. -/
structure Alternate where
  name : String
  target : DestinationId
deriving DecidableEq, Repr

structure Destination where
  name : String
  durable : Bool
  fallback : Option Alternate
  deleted : Bool
  /-- The links that publish here, each name once. -/
  links : List PublishingLink
  body : Destination.Body

namespace Queue

def depth (q : Queue) : Nat := q.entries.length

def hasRoom (q : Queue) : Bool :=
  match q.capacity with
  | none => true
  | some capacity => q.depth < capacity

end Queue

namespace Exchange

/-- The bindings that a routing key selects. -/
def candidates (e : Exchange) (key : String) : List Binding :=
  match e.type with
  | .direct => e.bindings.forKey key
  | .fanout => e.bindings.toList

end Exchange

namespace Destination

def kind (d : Destination) : DestinationKind :=
  match d.body with
  | .queue _ => .queue
  | .exchange _ => .exchange

def queue? (d : Destination) : Option Queue :=
  match d.body with
  | .queue q => some q
  | .exchange _ => none

def exchange? (d : Destination) : Option Exchange :=
  match d.body with
  | .queue _ => none
  | .exchange e => some e

def isSystem (d : Destination) : Bool :=
  match d.body with
  | .queue _ => false
  | .exchange e => e.system

def alternate (d : Destination) : Option DestinationId := d.fallback.map Alternate.target

def alternateName (d : Destination) : Option String := d.fallback.map Alternate.name

/-- Kind and name. -/
def label (d : Destination) : String := d.kind.name ++ ":" ++ d.name

/-- A live exchange takes every message, a live queue while it has room. -/
def accepts (d : Destination) : Bool :=
  !d.deleted && match d.body with
    | .queue q => q.hasRoom
    | .exchange _ => true

def mapQueue (d : Destination) (f : Queue → Queue) : Destination :=
  match d.body with
  | .queue q => { d with body := .queue (f q) }
  | .exchange _ => d

def mapBindings (d : Destination) (f : BindingTable → BindingTable) : Destination :=
  match d.body with
  | .queue _ => d
  | .exchange e => { d with body := .exchange { e with bindings := f e.bindings } }

/-- The entries on a queue. -/
def entries (d : Destination) : List QueueEntry :=
  match d.body with
  | .queue q => q.entries
  | .exchange _ => []

def bindings (d : Destination) : BindingTable :=
  match d.body with
  | .queue _ => .empty
  | .exchange e => e.bindings

/-- Registers a publishing link, unless one of that name is. -/
def linkAdded (d : Destination) (link : PublishingLink) : Bool × Destination :=
  if d.links.any (·.name == link.name) then (false, d)
  else (true, { d with links := d.links ++ [link] })

def linkRemoved (d : Destination) (name : String) : Bool × Destination :=
  (d.links.any (·.name == name), { d with links := d.links.filter (·.name != name) })

def newQueue (name : String) (durable : Bool) (capacity : Option Nat)
    (fallback : Option Alternate) : Destination :=
  ⟨name, durable, fallback, false, [], .queue ⟨capacity, []⟩⟩

def newExchange (name : String) (type : ExchangeType) (durable system : Bool)
    (fallback : Option Alternate) : Destination :=
  ⟨name, durable, fallback, false, [], .exchange ⟨type, system, .empty⟩⟩

end Destination
end MessageBroker
