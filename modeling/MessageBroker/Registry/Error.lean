import MessageBroker.Destination
/-!
# Why the topology cannot be changed

Every refusal names the destination concerned and the fault that was found; one function words it.
-/
namespace MessageBroker

inductive CreationFault where
  | reserved (start : String)
  | nameTaken
  | ownAlternate
  | noAlternate (alternate : String)
  | transientAlternate (alternate : String)
deriving DecidableEq, Repr

inductive BindingFault where
  | toItself
  | exchangeDeleted
  | badSelector (e : Selector.Error)
deriving Repr

inductive DeletionFault where
  | systemExchange
  /-- The destinations whose alternate it is, sorted by name. -/
  | inUse (dependants : List String)
deriving DecidableEq, Repr

/-- A destination as an error names it. -/
structure Named where
  kind : DestinationKind
  name : String
deriving DecidableEq, Repr

def Named.label (n : Named) : String := n.kind.name ++ ":" ++ n.name

def Destination.named (d : Destination) : Named := ⟨d.kind, d.name⟩

inductive TopologyError where
  | noDestination (name : String)
  | noExchange (name : String)
  | cannotConfigure (destination : Named) (fault : CreationFault)
  | cannotBind (target : Named) (exchange key : String) (fault : BindingFault)
  /-- The target of a binding was deleted. -/
  | targetDeleted (target : Named) (exchange key : String)
  | cannotDelete (destination : Named) (fault : DeletionFault)
deriving Repr

/-- Whether a request was at odds with the configuration, or a resource was in the way. -/
inductive TopologyError.Family where
  | configuration | resource
deriving DecidableEq, Repr

def CreationFault.reason (name : String) : CreationFault → String
  | .reserved start => "exchange names starting with '" ++ start ++ "' are reserved"
  | .nameTaken => "'" ++ name ++ "' already exists"
  | .ownAlternate => "a destination cannot be its own alternate"
  | .noAlternate alternate => "alternate '" ++ alternate ++ "' does not exist"
  | .transientAlternate alternate =>
    "durable destination cannot use non-durable alternate '" ++ alternate ++ "'"

def BindingFault.reason : BindingFault → String
  | .toItself => "an exchange cannot be bound to itself"
  | .exchangeDeleted => "exchange has been deleted"
  | .badSelector e => "invalid selector: " ++ e.message

def DeletionFault.reason : DeletionFault → String
  | .systemExchange => "system exchanges cannot be deleted"
  | .inUse dependants => "in use as alternate by " ++ ", ".intercalate dependants

namespace TopologyError

def family : TopologyError → Family
  | .cannotDelete .. => .resource
  | _ => .configuration

def description : TopologyError → String
  | .noDestination name => "destination '" ++ name ++ "' does not exist"
  | .noExchange name => "exchange '" ++ name ++ "' does not exist"
  | .cannotConfigure d fault =>
    "cannot configure " ++ d.kind.name ++ " '" ++ d.name ++ "': " ++ fault.reason d.name
  | .cannotBind d exchange key fault =>
    "cannot bind '" ++ d.name ++ "' to exchange '" ++ exchange ++ "' with key '" ++ key ++ "': "
      ++ fault.reason
  | .targetDeleted d _ _ => "destination '" ++ d.name ++ "' does not exist"
  | .cannotDelete d fault =>
    "cannot delete " ++ d.kind.name ++ " '" ++ d.name ++ "': " ++ fault.reason

def message (e : TopologyError) : String :=
  match e.family with
  | .configuration => "configuration error: " ++ e.description
  | .resource => "resource error: " ++ e.description

end TopologyError
end MessageBroker
