/-!
# The session around the links

The principal that messages are checked against, the counters of what came in, and whether the
session or its connection is being closed.
-/
namespace MessageBroker

structure Principal where
  name : String := "guest"
  /-- Whether messages must carry the principal's own name. -/
  validate : Bool := false
deriving DecidableEq, Repr

/-- A message claims a user whose name the principal may not use. -/
structure AccessDenied where
  principal : String
  user : String
deriving DecidableEq, Repr

def AccessDenied.message (e : AccessDenied) : String :=
  "User '" ++ e.principal ++ "' is not permitted to send messages with user id '" ++ e.user ++ "'"

def Principal.authorize (p : Principal) : Option String → Except AccessDenied Unit
  | none => .ok ()
  | some user => if p.validate && user != p.name then .error ⟨p.name, user⟩ else .ok ()

structure Statistics where
  messagesIn : Nat := 0
  /-- A counter of 64 bits. -/
  bytesIn : UInt64 := 0
  transactedMessagesIn : Nat := 0
deriving DecidableEq, Repr

namespace Statistics

def received (s : Statistics) (size : Nat) : Statistics :=
  { s with messagesIn := s.messagesIn + 1, bytesIn := s.bytesIn + UInt64.ofNat size }

def transacted (s : Statistics) : Statistics :=
  { s with transactedMessagesIn := s.transactedMessagesIn + 1 }

end Statistics

structure Session where
  closing : Bool := false
  connectionClosing : Bool := false
deriving DecidableEq, Repr

end MessageBroker
