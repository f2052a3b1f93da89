import MessageBroker.Registry.Error
import MessageBroker.Store
/-!
# Notices

What the broker tells its operators.  A notice says what happened; its record is the form in which
it is logged: a level, and named fields with their values as text.
-/
namespace MessageBroker

inductive Level where
  | debug | info | warn | error
deriving DecidableEq, Repr

def Level.name : Level → String
  | .debug => "debug" | .info => "info" | .warn => "warn" | .error => "error"

structure Record where
  level : Level
  fields : List (String × String)
deriving DecidableEq, Repr

/-- How a link came to an end. -/
inductive LinkEnd where
  | closed | destroyed
deriving DecidableEq, Repr

inductive Notice where
  -- topology
  | created (destination : Named) (durable : Bool) (alternate : Option String)
  | createRejected (destination : Named) (fault : CreationFault)
  | alternateUpdated (destination : String) (alternate : Option String)
  | deleteRefused (destination : Named) (fault : DeletionFault)
  | bindingsSwept (exchange destination : String) (removed : Nat)
  | deleted (destination : String) (bindings links : Nat)
  | bindingUpdated (outcome : BindOutcome) (exchange destination key : String)
  | bindingRemoved (exchange destination key : String)
  | bindingRejected (exchange : String) (target : Named) (key : String) (fault : BindingFault)
  | bindingTargetDeleted (error : TopologyError) (exchange : String) (target : Named)
      (key : String)
  | duplicateBinding (exchange destination key : String)
  | topologyApplied (queues exchanges bindings : Nat)
  -- routing
  | selectorRejected (exchange destination key : String)
  | queueRefused (queue : String) (depth : Nat)
  | alternateUsed (origin alternate : String)
  | hopLimitReached (exchange key : String) (limit : Nat)
  | routeEvaluated (exchange key : String) (routes : Nat)
  -- transactions
  | begun (id : TransactionId)
  | committed (id : TransactionId) (enqueued : Nat)
  | rolledBack (id : TransactionId) (discarded : Nat)
  | commitRefused (id : TransactionId)
  | commitFailed (id : TransactionId) (error : StoreError)
  | doomed (id : TransactionId)
  -- links
  | attached (link address : String) (unsettled : Nat)
  | attachFailed (link error : String)
  | reconciled (link : String) (dropped : Nat)
  | destinationChanged (link : String) (destination : Option String)
  | creditGranted (link : String) (credit : Nat)
  | ended (how : LinkEnd) (link : String)
  | suspended (link : String) (unsettled : Nat)
  | dynamicNodeDeleted (link node : String)
  | dynamicNodeKept (link node error : String)
  | deliveryRefused (link state : String)
  | deliveryAccepted (link tag outcome : String) (settled : Bool)
  | deliveryFailed (link tag error : String)
  | deliveryResumed (link tag state : String)
  | dispositionSent (link tag state : String) (settled : Bool)
  | dispositionDropped (tag : String)
  | remoteSettled (link tag : String)

namespace Notice

/-- The part of the broker that a notice comes from. -/
inductive Component where
  | registry | exchange | routing | coordinator | transaction | link | settlement
deriving DecidableEq, Repr

def Component.name : Component → String
  | .registry => "destination_registry"
  | .exchange => "exchange"
  | .routing => "routing_engine"
  | .coordinator => "transaction_coordinator"
  | .transaction => "local_transaction"
  | .link => "receiving_link"
  | .settlement => "settlement"

def orNone (s : Option String) : String := s.getD "none"

private def event (level : Level) (component : Component) (name : String)
    (fields : List (String × String)) : Record :=
  ⟨level, ("event", name) :: ("component", component.name) :: fields⟩

private def binding (exchange destination key : String) : List (String × String) :=
  [("exchange", exchange), ("destination", destination), ("binding_key", key)]

def bindEvent : BindOutcome → String
  | .added => "binding_added"
  | .replaced => "binding_replaced"
  | .unchanged | .refused => "binding_unchanged"

def createdEvent : DestinationKind → String
  | .queue => "queue_created"
  | .exchange => "exchange_created"

def endEvent : LinkEnd → String
  | .closed => "link_closed"
  | .destroyed => "link_destroyed"

def record : Notice → Record
  | created d durable alternate => event .info .registry (createdEvent d.kind)
      [("destination", d.label), ("durable", toString durable), ("alternate", orNone alternate)]
  | createRejected d fault => event .warn .registry "destination_create_rejected"
      [("destination", d.name), ("kind", d.kind.name), ("reason", fault.reason d.name)]
  | alternateUpdated d alternate => event .debug .registry "alternate_updated"
      [("destination", d), ("alternate", orNone alternate)]
  | deleteRefused d fault => event .warn .registry "destination_delete_refused"
      [("destination", d.label), ("reason", fault.reason)]
  | bindingsSwept e d removed => event .debug .registry "bindings_swept"
      [("exchange", e), ("destination", d), ("removed", toString removed)]
  | deleted d bindings links => event .info .registry "destination_deleted"
      [("destination", d), ("bindings_removed", toString bindings),
       ("publishing_links", toString links)]
  | bindingUpdated outcome e d key => event .debug .exchange (bindEvent outcome) (binding e d key)
  | bindingRemoved e d key => event .debug .exchange "binding_removed" (binding e d key)
  | bindingRejected e d key fault => event .warn .exchange "binding_rejected"
      (binding e d.label key ++ [("reason", fault.reason)])
  | bindingTargetDeleted error e d key => event .warn .exchange "binding_rejected"
      (binding e d.label key ++ [("err", error.message)])
  | duplicateBinding e d key => ⟨.warn, binding e d key⟩
  | topologyApplied queues exchanges bindings => ⟨.info,
      [("queues", toString queues), ("exchanges", toString exchanges),
       ("bindings", toString bindings)]⟩
  | selectorRejected e d key => event .debug .routing "route_selector_rejected" (binding e d key)
  | queueRefused q depth => event .debug .routing "route_queue_refused"
      [("queue", q), ("depth", toString depth)]
  | alternateUsed origin alternate => event .debug .routing "route_alternate_used"
      [("origin", origin), ("alternate", alternate)]
  | hopLimitReached e key limit => event .warn .routing "route_hop_limit_reached"
      [("exchange", e), ("routing_key", key), ("max_hops", toString limit)]
  | routeEvaluated e key routes => event .debug .routing "route_evaluated"
      [("exchange", e), ("routing_key", key), ("routes", toString routes)]
  | begun id => event .debug .coordinator "txn_begin" [("txn_id", toString id)]
  | committed id enqueued => event .info .coordinator "txn_commit"
      [("txn_id", toString id), ("enqueued", toString enqueued)]
  | rolledBack id discarded => event .info .coordinator "txn_rollback"
      [("txn_id", toString id), ("discarded", toString discarded)]
  | commitRefused id => event .warn .coordinator "txn_rollback"
      [("txn_id", toString id), ("reason", "rollback_only")]
  | commitFailed id error => event .warn .coordinator "txn_rollback"
      [("txn_id", toString id), ("err", error.message)]
  | doomed id => event .debug .transaction "txn_rollback_only" [("txn_id", toString id)]
  | attached link address unsettled => event .info .link "link_attached"
      [("link", link), ("address", address), ("unsettled", toString unsettled)]
  | attachFailed link error => event .error .link "link_attach_failed"
      [("link", link), ("err", error)]
  | reconciled link dropped => event .debug .link "unsettled_reconciled"
      [("link", link), ("dropped", toString dropped)]
  | destinationChanged link d => event .debug .link "link_destination_changed"
      [("link", link), ("destination", d.getD "anonymous")]
  | creditGranted link credit => event .debug .link "link_credit_granted"
      [("link", link), ("credit", toString credit)]
  | ended how link => event .info .link (endEvent how) [("link", link)]
  | suspended link unsettled => event .info .link "link_suspended"
      [("link", link), ("unsettled", toString unsettled)]
  | dynamicNodeDeleted link node => event .debug .link "dynamic_node_deleted"
      [("link", link), ("node", node)]
  | dynamicNodeKept link node error => event .warn .link "dynamic_node_deleted"
      [("link", link), ("node", node), ("err", error)]
  | deliveryRefused link state => event .debug .link "delivery_refused"
      [("link", link), ("state", state)]
  | deliveryAccepted link tag outcome settled => event .debug .link "delivery_accepted"
      [("link", link), ("tag", tag), ("outcome", outcome), ("settled", toString settled)]
  | deliveryFailed link tag error => event .warn .link "delivery_failed"
      [("link", link), ("tag", tag), ("err", error)]
  | deliveryResumed link tag state => event .debug .link "delivery_resumed"
      [("link", link), ("tag", tag), ("state", state)]
  | dispositionSent link tag state settled => event .debug .settlement "disposition_sent"
      [("link", link), ("tag", tag), ("state", state), ("settled", toString settled)]
  | dispositionDropped tag => event .warn .settlement "disposition_sent" [("tag", tag)]
  | remoteSettled link tag => event .debug .link "remote_settled" [("link", link), ("tag", tag)]

end Notice

/-- The notice that a refusal gives rise to; that a name is not registered gives none. -/
def TopologyError.notice? : TopologyError → Option Notice
  | .noDestination _ | .noExchange _ => none
  | .cannotConfigure d fault => some (.createRejected d fault)
  | .cannotBind d exchange key fault => some (.bindingRejected exchange d key fault)
  | .targetDeleted d exchange key =>
    some (.bindingTargetDeleted (.targetDeleted d exchange key) exchange d key)
  | .cannotDelete d fault => some (.deleteRefused d fault)

end MessageBroker
