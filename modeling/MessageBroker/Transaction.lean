import MessageBroker.Link
/-!
# Transactions

Outside a transaction enqueuing takes effect at once.  A local transaction keeps what is to be
enqueued, and the dispositions that are owed, until it is resolved.
-/
namespace MessageBroker

/-- An entry that a transaction holds back, and its queue. -/
structure PendingEnqueue where
  queue : DestinationId
  entry : QueueEntry

/-- A disposition owed once a transaction is resolved. -/
structure SettlementAction where
  link : LinkId
  disposition : Disposition
deriving DecidableEq, Repr

structure LocalTransaction where
  /-- Doomed: a commit rolls back instead. -/
  rollbackOnly : Bool
  resolved : Bool
  pending : List PendingEnqueue
  actions : List SettlementAction

def LocalTransaction.new : LocalTransaction := ⟨false, false, [], []⟩

inductive Transaction where
  | autoCommit
  | inside (id : TransactionId)
deriving DecidableEq, Repr

def Transaction.id? : Transaction → Option TransactionId
  | .autoCommit => none
  | .inside id => some id

def Transaction.isTransactional (t : Transaction) : Bool := t.id?.isSome

def Transaction.describe : Transaction → String
  | .autoCommit => "AutoCommit"
  | .inside id => "Local(" ++ toString id ++ ")"

inductive TransactionError where
  | notFound (id : TransactionId)
  | rolledBack (id : TransactionId)
  | store (id : TransactionId) (e : StoreError)
deriving DecidableEq, Repr

def TransactionError.message : TransactionError → String
  | .notFound id => "transaction " ++ toString id ++ " not found"
  | .rolledBack id =>
    "transaction " ++ toString id ++ " was marked rollback-only and has been rolled back"
  | .store id e =>
    "transaction " ++ toString id ++ " rolled back after a store failure: " ++ e.message

end MessageBroker
