import MessageBroker.Condition
import MessageBroker.Message
import MessageBroker.Settings
import MessageBroker.Store
import MessageBroker.Text.Hex
/-!
# Deliveries

A delivery carries a message over a link under a tag.  It is answered by a disposition, which
gives its state: an outcome, or in a transaction the outcome that it will have.
-/
namespace MessageBroker

/-- The sender's name for a delivery, unique among those not yet settled. -/
abbrev DeliveryTag := List UInt8

def DeliveryTag.hex (tag : DeliveryTag) : String := Text.hexOfBytes tag

inductive OutcomeKind where
  | accepted | rejected | released | modified
deriving DecidableEq, Repr

def OutcomeKind.name : OutcomeKind → String
  | .accepted => "accepted"
  | .rejected => "rejected"
  | .released => "released"
  | .modified => "modified"

def OutcomeKind.all : List OutcomeKind := [.accepted, .rejected, .released, .modified]

def OutcomeKind.ofName? (s : String) : Option OutcomeKind := all.find? (·.name == s)

theorem OutcomeKind.ofName?_name (k : OutcomeKind) : ofName? k.name = some k := by
  cases k <;> decide

def OutcomeKind.symbol (k : OutcomeKind) : String := "amqp:" ++ k.name ++ ":list"

inductive Outcome where
  | accepted
  | rejected (error : Option ProtocolError)
  | released
  | modified (deliveryFailed undeliverableHere : Bool)
deriving DecidableEq, Repr

def Outcome.kind : Outcome → OutcomeKind
  | .accepted => .accepted
  | .rejected _ => .rejected
  | .released => .released
  | .modified .. => .modified

def Outcome.display : Outcome → String
  | .rejected (some error) => "rejected(" ++ error.message ++ ")"
  | o => o.kind.name

inductive DeliveryState where
  | final (outcome : Outcome)
  /-- The provisional state of a delivery that takes part in a transaction. -/
  | transactional (transaction : TransactionId) (outcome : Option Outcome)
deriving DecidableEq, Repr

namespace DeliveryState

def isTerminal : DeliveryState → Bool
  | .final _ => true
  | .transactional .. => false

def outcome? : DeliveryState → Option Outcome
  | .final o => some o
  | .transactional _ o => o

def transaction? : DeliveryState → Option TransactionId
  | .final _ => none
  | .transactional id _ => some id

def display : DeliveryState → String
  | .final o => o.display
  | .transactional id (some o) => "transactional(" ++ toString id ++ ", " ++ o.display ++ ")"
  | .transactional id none => "transactional(" ++ toString id ++ ")"

/-- A state for a log record, `none` where there is none. -/
def displayOf (s : Option DeliveryState) : String :=
  match s with
  | some s => s.display
  | none => "none"

end DeliveryState

structure Delivery where
  tag : DeliveryTag
  /-- The code of the format in which the payload is written. -/
  format : Nat
  /-- What the payload reads as in its format. -/
  decoded : Except ProtocolError Message
  /-- The sender's state; a transactional one makes the delivery part of that transaction. -/
  state : Option DeliveryState
  /-- Whether the sender takes up a delivery again that it made before. -/
  resume : Bool
  settleMode : Option SettleMode

def Delivery.transaction? (d : Delivery) : Option TransactionId :=
  d.state.bind DeliveryState.transaction?

/-- What the sender is told about a delivery. -/
structure Disposition where
  tag : DeliveryTag
  state : Option DeliveryState
  settled : Bool
deriving DecidableEq, Repr

/-! ## Deliveries that are not settled -/

/-- The deliveries that are not settled, each tag once, with the last state sent or owed. -/
abbrev Unsettled := List (DeliveryTag × Option DeliveryState)

namespace Unsettled

/-- `none` if the tag is settled or unknown, `some none` if it is unsettled without a state. -/
def state? (u : Unsettled) (tag : DeliveryTag) : Option (Option DeliveryState) := u.lookup tag

def contains (u : Unsettled) (tag : DeliveryTag) : Bool := (u.state? tag).isSome

def remove (u : Unsettled) (tag : DeliveryTag) : Unsettled := u.filter (·.1 != tag)

theorem state?_remove_self (u : Unsettled) (tag : DeliveryTag) :
    (u.remove tag).state? tag = none := lookup_filter_self tag u

theorem state?_remove_of_ne (u : Unsettled) {tag other : DeliveryTag} (h : other ≠ tag) :
    (u.remove tag).state? other = u.state? other := lookup_filter_of_ne h u

def record (u : Unsettled) (tag : DeliveryTag) (state : Option DeliveryState) : Unsettled :=
  (tag, state) :: u.remove tag

theorem state?_record_self (u : Unsettled) (tag : DeliveryTag) (s : Option DeliveryState) :
    (u.record tag s).state? tag = some s := by
  simp [record, state?]

theorem state?_record_of_ne (u : Unsettled) {tag other : DeliveryTag} (h : other ≠ tag)
    (s : Option DeliveryState) : (u.record tag s).state? other = u.state? other := by
  simp [record, state?, List.lookup_cons, beq_eq_false_iff_ne.2 h, remove, lookup_filter_of_ne h]

/-- Keeps the deliveries that the sender still knows of. -/
def retain (u : Unsettled) (known : List DeliveryTag) : Unsettled :=
  u.filter fun e => known.contains e.1

end Unsettled
end MessageBroker
