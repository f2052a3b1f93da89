/-!
# Settings

What a virtual host and its links are set up with.
-/
namespace MessageBroker

structure HostSettings where
  /-- Exchange names that begin so belong to the system. -/
  reservedPrefix : String := "amq."
  /-- How many exchange-to-exchange hops one publish may take. -/
  maxHops : Nat := 16
  /-- The depth beyond which a queue takes no more messages, for queues that do not say. -/
  queueCapacity : Option Nat := none
deriving DecidableEq, Repr

/-- What of a terminus outlives its link. -/
inductive Durability where
  | none | configuration | unsettledState
deriving DecidableEq, Repr

def Durability.all : List Durability := [.none, .configuration, .unsettledState]

def Durability.name : Durability → String
  | .none => "none"
  | .configuration => "configuration"
  | .unsettledState => "unsettled-state"

def Durability.ofName? (s : String) : Option Durability := all.find? (·.name == s)

theorem Durability.ofName?_name (d : Durability) : ofName? d.name = some d := by
  cases d <;> decide

def Durability.rank : Durability → Nat
  | .none => 0 | .configuration => 1 | .unsettledState => 2

/-- The lesser of two. -/
def Durability.least (a b : Durability) : Durability := if a.rank ≤ b.rank then a else b

inductive SettleMode where
  /-- The receiver settles as soon as it has processed the delivery. -/
  | first
  /-- The receiver settles only after the sender. -/
  | second
deriving DecidableEq, Repr

def SettleMode.name : SettleMode → String
  | .first => "first"
  | .second => "second"

def SettleMode.ofName? (s : String) : Option SettleMode := [first, second].find? (·.name == s)

theorem SettleMode.ofName?_name (m : SettleMode) : ofName? m.name = some m := by
  cases m <;> decide

structure LinkSettings where
  highestDurability : Durability := .unsettledState
  defaultCredit : Nat := 20000
  settleMode : Option SettleMode := none
  /-- Whether a detached link may keep its state for later. -/
  resumeSupported : Bool := false
deriving DecidableEq, Repr

end MessageBroker
