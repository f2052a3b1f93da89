import MessageBroker.Broker.Topology
import MessageBroker.Config
/-!
# Setting up a topology

Queues and exchanges are declared first, then alternates are set, then bindings are made, so the
declarations may name each other in any order.  The first that is refused ends it.
-/
namespace MessageBroker

/-- A declaration that was refused, and why. -/
inductive ApplyError where
  | queue (name : String) (cause : TopologyError)
  | exchange (name : String) (cause : TopologyError)
  | alternate (name : String) (cause : TopologyError)
  | binding (b : BindingDeclaration) (cause : TopologyError)

namespace ApplyError

def context : ApplyError → String
  | .queue name _ => "unable to declare queue '" ++ name ++ "'"
  | .exchange name _ => "unable to declare exchange '" ++ name ++ "'"
  | .alternate name _ => "unable to set alternate of '" ++ name ++ "'"
  | .binding b _ =>
    "unable to bind '" ++ b.destination ++ "' to '" ++ b.exchange ++ "' with key '" ++ b.key ++ "'"

def cause : ApplyError → TopologyError
  | .queue _ cause | .exchange _ cause | .alternate _ cause | .binding _ cause => cause

def message (e : ApplyError) : String := e.context ++ ": " ++ e.cause.message

end ApplyError

/-- One step of setting up. -/
inductive Declaration where
  | queue (q : QueueDeclaration)
  | exchange (e : ExchangeDeclaration)
  | alternate (name alternate : String)
  | binding (b : BindingDeclaration)

namespace Topology

/-- The steps that set up a topology, in order. -/
def steps (t : Topology) : List Declaration :=
  t.queues.map (fun q => .queue { q with alternate := none })
    ++ t.exchanges.map (fun e => .exchange { e with alternate := none })
    ++ t.queues.filterMap (fun q => q.alternate.map (.alternate q.name))
    ++ t.exchanges.filterMap (fun e => e.alternate.map (.alternate e.name))
    ++ t.bindings.map .binding

end Topology

namespace Broker

def declareBinding (b : Broker) (d : BindingDeclaration) : Broker × Except ApplyError Unit :=
  match b.bind d.exchange d.destination d.key d.arguments d.replace with
  | (b, .error e) => (b, .error (.binding d e))
  | (b, .ok true) => (b, .ok ())
  | (b, .ok false) => (b.note (.duplicateBinding d.exchange d.destination d.key), .ok ())

def declare (b : Broker) : Declaration → Broker × Except ApplyError Unit
  | .queue q => match b.createQueue q with
    | (b, .error e) => (b, .error (.queue q.name e))
    | (b, .ok _) => (b, .ok ())
  | .exchange x => match b.createExchange x with
    | (b, .error e) => (b, .error (.exchange x.name e))
    | (b, .ok _) => (b, .ok ())
  | .alternate name alternate => match b.setAlternate name (some alternate) with
    | (b, .error e) => (b, .error (.alternate name e))
    | (b, .ok ()) => (b, .ok ())
  | .binding d => b.declareBinding d

def declareAll (b : Broker) : List Declaration → Broker × Except ApplyError Unit
  | [] => (b, .ok ())
  | d :: ds => match b.declare d with
    | (b, .error e) => (b, .error e)
    | (b, .ok ()) => b.declareAll ds

def applyTopology (b : Broker) (t : Topology) : Broker × Except ApplyError Unit :=
  match b.declareAll t.steps with
  | (b, .error e) => (b, .error e)
  | (b, .ok ()) =>
    (b.note (.topologyApplied t.queues.length t.exchanges.length t.bindings.length), .ok ())

end Broker
end MessageBroker
