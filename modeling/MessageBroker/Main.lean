import MessageBroker.Broker.Transact
import MessageBroker.Config.Apply
/-!
# The command line

Reads a configuration, sets up the topology it declares, logs what operators should know, and
stays up until it is interrupted.
-/
namespace MessageBroker

/-- What the command line asks for. -/
inductive Command where
  | help
  | run (config : String)
deriving DecidableEq, Repr

namespace Command

inductive UsageError where
  | unexpected (argument : String)
  | missingValue
  | givenTwice
deriving DecidableEq, Repr

def UsageError.message : UsageError → String
  | .unexpected argument => "unexpected argument '" ++ argument ++ "' found"
  | .missingValue => "a value is required for '--config <CONFIG>' but none was supplied"
  | .givenTwice => "the argument '--config <CONFIG>' cannot be used multiple times"

def defaultConfig : String := "DEFAULT_CONFIG.json5"

/-- The path in an argument that holds option and path in one. -/
def attached? (argument : String) : Option String :=
  ((argument.dropPrefix? "--config=") <|> (argument.dropPrefix? "-c=")
    <|> (if argument.startsWith "--" then none else argument.dropPrefix? "-c")).map (·.toString)

/-- Takes the path of an option, which may be given once. -/
def choose : Option String → String → Except UsageError String
  | none, path => .ok path
  | some _, _ => .error .givenTwice

/-- Reads the arguments left, given the path chosen so far. -/
def readArguments (chosen : Option String) : List String → Except UsageError Command
  | [] => .ok (.run (chosen.getD defaultConfig))
  | argument :: rest =>
    if argument = "-h" ∨ argument = "--help" then .ok .help
    else if argument = "-c" ∨ argument = "--config" then
      match rest with
      | [] => .error .missingValue
      | path :: rest =>
        if path.startsWith "-" then .error .missingValue
        else match choose chosen path with
          | .error e => .error e
          | .ok path => readArguments (some path) rest
    else match attached? argument with
      | none => .error (.unexpected argument)
      | some path => match choose chosen path with
        | .error e => .error e
        | .ok path => readArguments (some path) rest

def ofArguments (arguments : List String) : Except UsageError Command :=
  readArguments none arguments

def helpText : String :=
  "Runs a message broker with a topology declared in a JSON5 config file\n\n"
    ++ "Options:\n"
    ++ "  -c, --config <CONFIG>  Path to the JSON5 configuration file [default: "
    ++ defaultConfig ++ "]\n"
    ++ "  -h, --help             Print help"

end Command

/-- Whether records of this level are logged; those for debugging are not. -/
def Level.logged : Level → Bool
  | .debug => false
  | .info | .warn | .error => true

/-- A record as one line of the log. -/
def Record.line (r : Record) : String :=
  " ".intercalate (r.level.name :: r.fields.map fun (name, value) => name ++ "=" ++ value)

/-- What is logged once the topology is set up. -/
def Broker.ready (b : Broker) (link : LinkSettings) : Record :=
  ⟨.info,
    [("destinations", toString b.registry.toList.length),
     ("default_credit", toString link.defaultCredit),
     ("persistent_store", toString b.store.persistent),
     ("active_transactions", toString b.activeCount)]⟩

def log (r : Record) : IO Unit := do
  if r.level.logged then
    IO.println r.line
    (← IO.getStdout).flush

def fail (message : String) (cause : Option String) : IO UInt32 := do
  IO.eprintln ("Error: " ++ message ++ (cause.map ("\n\nCaused by:\n    " ++ ·)).getD "")
  return 1

def contents? (path : String) : IO (Option String) :=
  try some <$> IO.FS.readFile path catch _ => pure none

def stayUp : IO Unit := do
  repeat IO.sleep 1000

def serve (path : String) : IO UInt32 := do
  match Config.load path (← contents? path) with
  | .error e => fail e.message none
  | .ok config =>
    let store : Store := ⟨config.storePersistent, ∅, []⟩
    let (broker, result) := (Broker.new config.host store {}).applyTopology config.topology
    broker.journal.forM fun n => log n.record
    match result with
    | .error e => fail e.context (some e.cause.message)
    | .ok () =>
      log (broker.ready config.link)
      stayUp
      return 0

end MessageBroker

open MessageBroker in
def main (arguments : List String) : IO UInt32 := do
  match Command.ofArguments arguments with
  | .error e =>
    IO.eprintln ("error: " ++ e.message ++ "\n\nFor more information, try '--help'.")
    return 2
  | .ok .help => IO.println Command.helpText; return 0
  | .ok (.run path) => serve path
