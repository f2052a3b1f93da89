import MessageBroker.Notice
import MessageBroker.Session
import MessageBroker.Transaction
/-!
# The broker

Everything that one virtual host and the links of one session hold.  Operations take the broker
and give it back changed; what goes out, dispositions and notices, is appended to lists.
-/
namespace MessageBroker

/-- One thing done to the store or to a queue. -/
inductive Deed where
  | record (r : StoreRecord)
  | place (p : PendingEnqueue)

structure Broker where
  registry : Registry
  references : References
  store : Store
  principal : Principal
  statistics : Statistics
  session : Session
  /-- Every transaction begun so far; the first has the number one. -/
  transactions : List LocalTransaction
  /-- Every link made so far; its place is its identity. -/
  links : List Link
  /-- How many messages were made. -/
  messages : Nat
  /-- How many receivers were made. -/
  receivers : Nat
  /-- The records written and the entries placed, oldest first. -/
  deeds : List Deed
  /-- The dispositions sent, oldest first. -/
  outbox : List (LinkId × Disposition)
  /-- The notices given, oldest first. -/
  journal : List Notice

namespace Broker

def new (settings : HostSettings) (store : Store) (principal : Principal) : Broker where
  registry := .new settings
  references := .empty
  store
  principal
  statistics := {}
  session := {}
  transactions := []
  links := []
  messages := 0
  receivers := 0
  deeds := []
  outbox := []
  journal := []

def note (b : Broker) (n : Notice) : Broker := { b with journal := b.journal ++ [n] }

def noteAll (b : Broker) (ns : List Notice) : Broker := { b with journal := b.journal ++ ns }

/-- Gives a message its identity. -/
def newMessage (b : Broker) (content : Message.Content) : Broker × Message :=
  ({ b with messages := b.messages + 1 }, { content with id := b.messages })

def newReceiver (b : Broker) (address : String) (credit : Nat) (kind : Receiver.Kind) :
    Broker × Receiver :=
  ({ b with receivers := b.receivers + 1 }, ⟨b.receivers, address, credit, kind⟩)

def newLink (b : Broker) (link : Link) : Broker × LinkId :=
  ({ b with links := b.links ++ [link] }, b.links.length)

def link? (b : Broker) (l : LinkId) : Option Link := b.links[l]?

def modifyLink (b : Broker) (l : LinkId) (f : Link → Link) : Broker :=
  { b with links := b.links.modify l f }

def acquire (b : Broker) (m : MessageId) : Broker :=
  { b with references := b.references.acquire m }

def release (b : Broker) (m : MessageId) : Broker :=
  { b with references := b.references.release m }

def releaseEntries (b : Broker) (es : List QueueEntry) : Broker :=
  { b with references := b.references.releaseAll (es.map (·.message.id)) }

end Broker
end MessageBroker
