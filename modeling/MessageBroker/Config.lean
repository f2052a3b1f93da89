import MessageBroker.Json5.Fields
import MessageBroker.Json5.Parser
import MessageBroker.Registry.Admin
/-!
# Configuration

A configuration sets up the virtual host, its links and its store, and declares a topology.  It is
written in JSON5; every part of it may be left out.
-/
namespace MessageBroker

structure BindingDeclaration where
  exchange : String
  destination : String
  key : String := ""
  arguments : BindingArguments := .empty
  replace : Bool := false
deriving DecidableEq, Repr

structure Topology where
  exchanges : List ExchangeDeclaration := []
  queues : List QueueDeclaration := []
  bindings : List BindingDeclaration := []
deriving DecidableEq, Repr

structure Config where
  host : HostSettings := {}
  link : LinkSettings := {}
  storePersistent : Bool := false
  topology : Topology := {}
deriving DecidableEq, Repr

namespace Config

open Json5

def readHost (v : Value) : Option HostSettings := do
  let fs ← fields ["reserved-exchange-prefix", "max-route-hops", "queue-capacity"] v
  let d : HostSettings := {}
  pure
    { reservedPrefix := ← fs.getD "reserved-exchange-prefix" text? d.reservedPrefix
      maxHops := ← fs.getD "max-route-hops" unsigned64? d.maxHops
      queueCapacity := ← fs.getD "queue-capacity" (optional unsigned64?) d.queueCapacity }

def readLink (v : Value) : Option LinkSettings := do
  let fs ← fields
    ["highest-supported-durability", "default-credit", "receiver-settle-mode", "resume-supported"] v
  let d : LinkSettings := {}
  pure
    { highestDurability :=
        ← fs.getD "highest-supported-durability" (tag? Durability.ofName?) d.highestDurability
      defaultCredit := ← fs.getD "default-credit" unsigned32? d.defaultCredit
      settleMode :=
        ← fs.getD "receiver-settle-mode" (optional (tag? SettleMode.ofName?)) d.settleMode
      resumeSupported := ← fs.getD "resume-supported" bool? d.resumeSupported }

def readStore (v : Value) : Option Bool := do
  (← fields ["persistent"] v).getD "persistent" bool? false

def readExchange (v : Value) : Option ExchangeDeclaration := do
  let fs ← fields ["name", "type", "durable", "alternate"] v
  pure
    { name := ← fs.require "name" text?
      type := ← fs.getD "type" (tag? ExchangeType.ofName?) .direct
      durable := ← fs.getD "durable" bool? false
      alternate := ← fs.getD "alternate" (optional text?) none }

def readQueue (v : Value) : Option QueueDeclaration := do
  let fs ← fields ["name", "durable", "alternate", "capacity"] v
  pure
    { name := ← fs.require "name" text?
      durable := ← fs.getD "durable" bool? false
      alternate := ← fs.getD "alternate" (optional text?) none
      capacity := ← fs.getD "capacity" (optional unsigned64?) none }

def readArguments (v : Value) : Option BindingArguments := (texts? v).map .ofList

def readBinding (v : Value) : Option BindingDeclaration := do
  let fs ← fields ["exchange", "destination", "binding-key", "arguments", "replace-existing"] v
  pure
    { exchange := ← fs.require "exchange" text?
      destination := ← fs.require "destination" text?
      key := ← fs.getD "binding-key" text? ""
      arguments := ← fs.getD "arguments" readArguments .empty
      replace := ← fs.getD "replace-existing" bool? false }

def readTopology (v : Value) : Option Topology := do
  let fs ← fields ["exchanges", "queues", "bindings"] v
  pure
    { exchanges := ← fs.getD "exchanges" (list? readExchange) []
      queues := ← fs.getD "queues" (list? readQueue) []
      bindings := ← fs.getD "bindings" (list? readBinding) [] }

def read (v : Value) : Option Config := do
  let fs ← fields ["virtual-host", "link", "store", "topology"] v
  pure
    { host := ← fs.getD "virtual-host" readHost {}
      link := ← fs.getD "link" readLink {}
      storePersistent := ← fs.getD "store" readStore false
      topology := ← fs.getD "topology" readTopology {} }

def parse (text : String) : Option Config := (Json5.parse text).bind read

/-- Why a configuration file was not loaded. -/
inductive LoadError where
  | unreadable (path : String)
  | invalid (path : String)
deriving DecidableEq, Repr

def LoadError.message : LoadError → String
  | .unreadable path => "unable to read config file " ++ path
  | .invalid path => "invalid config file " ++ path

/-- Reads the contents of a file, which are missing if there is no such file. -/
def load (path : String) (contents : Option String) : Except LoadError Config :=
  match contents with
  | none => .error (.unreadable path)
  | some text => match parse text with
    | none => .error (.invalid path)
    | some config => .ok config

end Config
end MessageBroker
