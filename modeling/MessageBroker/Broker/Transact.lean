import MessageBroker.Broker.Publish
import MessageBroker.Broker.Settle
/-!
# Transactions of a broker

Beginning, dooming and resolving.  However a transaction is resolved, what it held back leaves it,
and the dispositions that it owes are sent.
-/
namespace MessageBroker.Broker

def begin (b : Broker) : Broker × TransactionId :=
  let id := b.transactions.length + 1
  (Broker.note { b with transactions := b.transactions ++ [.new] } (.begun id), id)

/-- A transaction that was begun and is not resolved. -/
def active? (b : Broker) (id : TransactionId) : Option LocalTransaction :=
  (b.transaction? id).filter (!·.resolved)

def activeCount (b : Broker) : Nat := b.transactions.countP (!·.resolved)

def transaction (b : Broker) (id : TransactionId) : Except TransactionError Transaction :=
  match b.active? id with
  | some _ => .ok (.inside id)
  | none => .error (.notFound id)

/-- Dooms a local transaction; the first time there is a notice. -/
def doom (b : Broker) (t : Transaction) : Broker :=
  match t with
  | .autoCommit => b
  | .inside id =>
    let doomed := ((b.transaction? id).map (·.rollbackOnly)).getD true
    if doomed then b
    else (b.modifyTransaction id fun t => { t with rollbackOnly := true }).note (.doomed id)

/-- Owes a disposition until the transaction is resolved; if it is, sends it now. -/
def owe (b : Broker) (id : TransactionId) (action : SettlementAction) : Broker :=
  match b.active? id with
  | none => b.fire [action]
  | some _ => b.modifyTransaction id fun t => { t with actions := t.actions ++ [action] }

/-- Marks a transaction resolved and empties it. -/
def close (b : Broker) (id : TransactionId) : Broker :=
  b.modifyTransaction id fun t => { t with resolved := true, pending := [], actions := [] }

def discard (b : Broker) (pending : List PendingEnqueue) : Broker :=
  b.releaseEntries (pending.map (·.entry))

/-- Places what was held back; what a deleted queue would get is released. -/
def placeHeld (b : Broker) (pending : List PendingEnqueue) : Broker :=
  pending.foldl (fun b p => (b.place p.queue p.entry).release p.entry.message.id) b

def commit (b : Broker) (id : TransactionId) : Broker × Except TransactionError Unit :=
  match b.active? id with
  | none => (b, .error (.notFound id))
  | some t =>
    let b := b.close id
    if t.rollbackOnly then
      (((b.discard t.pending).fire t.actions).note (.commitRefused id), .error (.rolledBack id))
    else
      match b.persist (t.pending.filterMap fun p => b.recordFor p.queue p.entry.message) with
      | (b, .error e) =>
        (((b.discard t.pending).fire t.actions).note (.commitFailed id e), .error (.store id e))
      | (b, .ok ()) =>
        (((b.placeHeld t.pending).fire t.actions).note (.committed id t.pending.length), .ok ())

def rollback (b : Broker) (id : TransactionId) : Broker × Except TransactionError Unit :=
  match b.active? id with
  | none => (b, .error (.notFound id))
  | some t =>
    (((b.close id).discard t.pending |>.fire t.actions).note
      (.rolledBack id t.pending.length), .ok ())

end MessageBroker.Broker
