import MessageBroker.Message
/-!
# The message store

Persistent messages on durable queues are recorded before they are enqueued.  The store keeps its
records in memory, in the order in which they were written.  It may refuse any of them, each with a
text of its own.
-/
namespace MessageBroker

abbrev TransactionId := Nat

inductive StoreError where
  | refused (text : String)
  | alreadyResolved (transaction : TransactionId)
deriving DecidableEq, Repr

def StoreError.message : StoreError → String
  | .refused text => "store error: " ++ text
  | .alreadyResolved id =>
    "store error: transaction " ++ toString id ++ " has already been resolved"

/-- A message recorded for a queue. -/
structure StoreRecord where
  queue : String
  message : MessageId
deriving DecidableEq, Repr

/-- Which records are refused, and with what text.  It may depend on the records that are in the
store by then, so that one record of a queue is taken and the next one is not. -/
def Refusals := List StoreRecord → StoreRecord → Option String

/-- Nothing is refused. -/
instance : EmptyCollection Refusals := ⟨fun _ _ => none⟩

/-- Every record for one of these queues is refused. -/
def Refusals.full (queues : List String) : Refusals := fun _ record =>
  if queues.contains record.queue then some "disk full" else none

instance : Coe (List String) Refusals := ⟨Refusals.full⟩

structure Store where
  /-- Whether records survive a restart. -/
  persistent : Bool
  failing : Refusals
  records : List StoreRecord

namespace Store

def refusal? (s : Store) (record : StoreRecord) : Option String := s.failing s.records record

def write (s : Store) (record : StoreRecord) : Except StoreError Store :=
  match s.refusal? record with
  | some text => .error (.refused text)
  | none => .ok { s with records := s.records ++ [record] }

end Store
end MessageBroker
