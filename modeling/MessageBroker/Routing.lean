import MessageBroker.Notice
import MessageBroker.Registry
/-!
# Routing

A message sent to an exchange is followed along bindings and alternates to the queues that take
it.  An exchange is walked at most once per routing key: a finished walk is remembered with the
number of deliveries it led to, and one that is still under way counts as none, which breaks
cycles.  Every step from exchange to exchange is a hop, and hops are limited.
-/
namespace MessageBroker

/-- The queues that a message goes to, each once, in the order in which they were reached. -/
structure RoutingResult where
  message : Message
  properties : InstanceProperties
  queues : List DestinationId

namespace RoutingResult

def hasRoutes (r : RoutingResult) : Bool := !r.queues.isEmpty

def count (r : RoutingResult) : Nat := r.queues.length

end RoutingResult

namespace Routing

/-- Where a message sent to a destination ends up once queues that refuse it have handed it to
their alternates. -/
inductive Landing where
  | nowhere
  | queue (q : DestinationId)
  /-- An exchange, with the number of alternates that led to it. -/
  | exchange (e : DestinationId) (hops : Nat)
deriving DecidableEq, Repr

def Landing.further : Landing → Landing
  | .exchange e hops => .exchange e (hops + 1)
  | l => l

/-- Follows a chain of refusing queues, at most `length` of them.  Along full queues that are each other's alternates a
broker would go round without end; here the message gets nowhere once `length` of them have refused it. -/
def landing (r : Registry) : Nat → DestinationId → Landing × List Notice
  | 0, _ => (.nowhere, [])
  | length + 1, d => match r.live? d with
    | none => (.nowhere, [])
    | some x => match x.body with
      | .exchange _ => (.exchange d 0, [])
      | .queue q =>
        if q.hasRoom then (.queue d, [])
        else
          let refused := Notice.queueRefused x.name q.depth
          match x.alternate with
          | none => (.nowhere, [refused])
          | some a =>
            let (l, notices) := landing r length a
            (l.further, refused :: .alternateUsed x.name (r.labelOf a) :: notices)

/-- The bound that a chain of distinct queues cannot exceed. -/
def landingOf (r : Registry) (d : DestinationId) : Landing × List Notice :=
  landing r (r.destinations.length + 1) d

/-- What is known of an exchange and a routing key. -/
inductive Visit where
  | underWay
  | done (accepted : Nat)
deriving DecidableEq, Repr

/-- What a walk has found so far. -/
structure Progress where
  visits : List ((DestinationId × String) × Visit)
  queues : List DestinationId
  notices : List Notice

namespace Progress

def start : Progress := ⟨[], [], []⟩

def visit? (p : Progress) (d : DestinationId) (key : String) : Option Visit :=
  p.visits.lookup (d, key)

def mark (p : Progress) (d : DestinationId) (key : String) (v : Visit) : Progress :=
  { p with visits := ((d, key), v) :: p.visits }

def note (p : Progress) (notices : List Notice) : Progress :=
  { p with notices := p.notices ++ notices }

/-- Adds a queue unless it was reached before. -/
def reach (p : Progress) (q : DestinationId) : Progress :=
  if p.queues.contains q then p else { p with queues := p.queues ++ [q] }

end Progress

/-- What all steps of one walk share. -/
structure Scope where
  registry : Registry
  headers : Headers
  /-- Deliveries are counted modulo this number; zero means that they are counted exactly. -/
  modulus : Nat

/-- A walk into an exchange that takes a routing key there after so many hops, and answers how
many deliveries it led to. -/
abbrev Enter := DestinationId → String → Nat → Progress → Nat × Progress

/-- Sends to a destination, `hops` being what the exchange sent from was entered with. -/
def sendTo (s : Scope) (enter : Enter) (d : DestinationId) (key : String) (hops : Nat)
    (p : Progress) : Nat × Progress :=
  let (l, notices) := landingOf s.registry d
  let p := p.note notices
  match l with
  | .nowhere => (0, p)
  | .queue q => (1, p.reach q)
  | .exchange e further => enter e key (hops + 1 + further) p

/-- Sends along bindings, one after the other. -/
def sendAlong (s : Scope) (enter : Enter) (exchange : String) (key : String) (hops : Nat) :
    List Binding → Progress → Nat × Progress
  | [], p => (0, p)
  | b :: bs, p =>
    if b.accepts s.headers then
      let (n, p) := sendTo s enter b.destination (b.arguments.replacementKey.getD key) hops p
      let (m, p) := sendAlong s enter exchange key hops bs p
      (n + m, p)
    else
      sendAlong s enter exchange key hops bs
        (p.note [.selectorRejected exchange (s.registry.nameOf b.destination) b.key])

/-- Sends to the alternate of an exchange, which takes one hop more than a binding does. -/
def sendToAlternate (s : Scope) (enter : Enter) (exchange : String) (alternate : DestinationId)
    (key : String) (hops : Nat) (p : Progress) : Nat × Progress :=
  sendTo s enter alternate key (hops + 1)
    (p.note [.alternateUsed exchange (s.registry.labelOf alternate)])

/-- Walks into an exchange.  Every walk goes at least one hop further than the one it is part of,
so `fuel` need not be more than the hops that are left. -/
def walk (s : Scope) : Nat → Enter
  | 0, _, _, _, p => (0, p)
  | fuel + 1, d, key, hops, p => match s.registry.live? d with
    | none => (0, p)
    | some x => match x.body with
      | .queue _ => (0, p)
      | .exchange e =>
        if s.registry.settings.maxHops < hops then
          (0, p.note [.hopLimitReached x.name key s.registry.settings.maxHops])
        else match p.visit? d key with
          | some .underWay => (0, p)
          | some (.done n) => (n, p)
          | none =>
            let (n, p) := sendAlong s (walk s fuel) x.name key hops (e.candidates key)
              (p.mark d key .underWay)
            let (n, p) :=
              if n % s.modulus = 0 then match x.alternate with
                | none => (n, p)
                | some a =>
                  let (m, p) := sendToAlternate s (walk s fuel) x.name a key hops p
                  (n + m, p)
              else (n, p)
            (n, p.mark d key (.done n))

/-- The counter of deliveries has 64 bits. -/
def counterModulus : Nat := UInt64.size

/-- A walk from an exchange that no message has come through yet. -/
def walkFrom (r : Registry) (modulus : Nat) (headers : Headers) (exchange : DestinationId)
    (key : String) : Nat × Progress :=
  walk ⟨r, headers, modulus⟩ (r.settings.maxHops + 2) exchange key 0 .start

end Routing

namespace Registry

/-- The queues that a message sent to an exchange would be placed on, and what there is to tell
about finding them. -/
def route (r : Registry) (exchange : DestinationId) (message : Message) (key : String)
    (properties : InstanceProperties) : RoutingResult × List Notice :=
  match r.live? exchange with
  | none => (⟨message, properties, []⟩, [])
  | some x =>
    let (_, p) := Routing.walkFrom r Routing.counterModulus message.headers exchange key
    (⟨message, properties, p.queues⟩,
      p.notices ++ [.routeEvaluated x.name key p.queues.length])

/-- The result of sending straight to a queue. -/
def routeToQueue (r : Registry) (queue : DestinationId) (message : Message)
    (properties : InstanceProperties) : RoutingResult :=
  let accepts := ((r.get? queue).map Destination.accepts).getD false
  ⟨message, properties, if accepts then [queue] else []⟩

end Registry
end MessageBroker
