/-!
# Conditions a peer is told about

An error that crosses the wire names one of a fixed set of conditions and describes the case.
-/
namespace MessageBroker

inductive Condition where
  | notImplemented
  | notAllowed
  | preconditionFailed
  | notFound
  | unknownTransaction
  | illegalState
  | internalError
deriving DecidableEq, Repr

def Condition.symbol : Condition → String
  | .notImplemented => "amqp:not-implemented"
  | .notAllowed => "amqp:unauthorized-access"
  | .preconditionFailed => "amqp:precondition-failed"
  | .notFound => "amqp:not-found"
  | .unknownTransaction => "amqp:transaction:unknown-id"
  | .illegalState => "amqp:illegal-state"
  | .internalError => "amqp:internal-error"

def Condition.all : List Condition :=
  [.notImplemented, .notAllowed, .preconditionFailed, .notFound, .unknownTransaction,
   .illegalState, .internalError]

def Condition.ofSymbol? (s : String) : Option Condition := all.find? (·.symbol == s)

theorem Condition.ofSymbol?_symbol (c : Condition) : ofSymbol? c.symbol = some c := by
  cases c <;> decide

structure ProtocolError where
  condition : Condition
  description : String
deriving DecidableEq, Repr

def ProtocolError.message (e : ProtocolError) : String :=
  e.condition.symbol ++ ": " ++ e.description

end MessageBroker
