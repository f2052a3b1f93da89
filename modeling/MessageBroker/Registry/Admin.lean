import MessageBroker.Registry
import MessageBroker.Registry.Error
/-!
# Changing the topology

Creating, binding and deleting.  Each operation first finds every fault that could stand in its
way and then yields the changed registry at once, so a refused operation has changed nothing.
-/
namespace MessageBroker

structure QueueDeclaration where
  name : String
  durable : Bool := false
  alternate : Option String := none
  /-- Overrides the default of the virtual host. -/
  capacity : Option Nat := none
deriving DecidableEq, Repr

structure ExchangeDeclaration where
  name : String
  type : ExchangeType := .direct
  durable : Bool := false
  alternate : Option String := none
deriving DecidableEq, Repr

/-- What a deletion took away. -/
structure Deletion where
  destination : DestinationId
  /-- The exchanges that had bindings to it, and how many each. -/
  swept : List (DestinationId × Nat)
  /-- Its own bindings, if it was an exchange. -/
  cleared : Nat
  /-- The entries that were on it, if it was a queue. -/
  entries : List QueueEntry

namespace Registry

def require (r : Registry) (name : String) : Except TopologyError DestinationId :=
  match r.lookup name with
  | some d => .ok d
  | none => .error (.noDestination name)

def requireExchange (r : Registry) (name : String) : Except TopologyError DestinationId :=
  match r.lookupExchange name with
  | some d => .ok d
  | none => .error (.noExchange name)

/-- The alternate that a destination asks for.  It must be another one, be registered, and be
durable if the destination is. -/
def resolveAlternate (r : Registry) (asking : Named) (durable : Bool) :
    Option String → Except TopologyError (Option Alternate)
  | none => .ok none
  | some alternate =>
    let refuse (fault : CreationFault) := .error (.cannotConfigure asking fault)
    if alternate = asking.name then refuse .ownAlternate
    else match r.lookup alternate with
      | none => refuse (.noAlternate alternate)
      | some a =>
        if durable && !((r.get? a).map Destination.durable).getD false then
          refuse (.transientAlternate alternate)
        else .ok (some ⟨alternate, a⟩)

/-- Registers a new destination under the next identity. -/
def add (r : Registry) (d : Destination) : Registry × DestinationId :=
  let id := r.destinations.length
  let r :=
    { r with
      destinations := r.destinations ++ [d]
      names := (d.name, id) :: r.names.filter (·.1 != d.name)
      ids := r.ids ++ [id] }
  (r.publish .created id, id)

def createQueue (r : Registry) (q : QueueDeclaration) :
    Except TopologyError (Registry × DestinationId) :=
  let asking : Named := ⟨.queue, q.name⟩
  if (r.lookup q.name).isSome then .error (.cannotConfigure asking .nameTaken)
  else do
    let alternate ← r.resolveAlternate asking q.durable q.alternate
    pure (r.add (.newQueue q.name q.durable (q.capacity <|> r.settings.queueCapacity) alternate))

def createExchange (r : Registry) (e : ExchangeDeclaration) :
    Except TopologyError (Registry × DestinationId) :=
  let asking : Named := ⟨.exchange, e.name⟩
  if e.name.startsWith r.settings.reservedPrefix then
    .error (.cannotConfigure asking (.reserved r.settings.reservedPrefix))
  else if (r.lookup e.name).isSome then .error (.cannotConfigure asking .nameTaken)
  else do
    let alternate ← r.resolveAlternate asking e.durable e.alternate
    pure (r.add (.newExchange e.name e.type e.durable false alternate))

def setAlternate (r : Registry) (name : String) (alternate : Option String) :
    Except TopologyError (Registry × DestinationId) := do
  let d ← r.require name
  match r.get? d with
  | none => .error (.noDestination name)
  | some destination =>
    let a ← r.resolveAlternate destination.named destination.durable alternate
    pure (r.modify d fun x => { x with fallback := a }, d)

/-- The exchange and the destination that a binding is to connect, by their names. -/
def endpoints (r : Registry) (exchange target : String) :
    Except TopologyError (DestinationId × DestinationId) := do
  let e ← r.requireExchange exchange
  let t ← r.require target
  pure (e, t)

/-- Binds an exchange to a destination, both given by identity. -/
def bind (r : Registry) (exchange target : DestinationId) (key : String)
    (arguments : BindingArguments) (replace : Bool) :
    Except TopologyError (Registry × BindOutcome) :=
  match r.get? exchange, r.get? target with
  | some e, some t =>
    let refuse (fault : BindingFault) := .error (.cannotBind t.named e.name key fault)
    if target = exchange then refuse .toItself
    else if e.deleted then refuse .exchangeDeleted
    else match arguments.selector with
      | .error fault => refuse (.badSelector fault)
      | .ok selector =>
        if t.deleted then .error (.targetDeleted t.named e.name key)
        else
          let (outcome, table) := e.bindings.bind ⟨key, target, arguments, selector⟩ replace
          .ok (r.modify exchange (·.mapBindings fun _ => table), outcome)
  | _, _ => .error (.noDestination "")

def unbind (r : Registry) (exchange target : DestinationId) (key : String) : Registry × Bool :=
  match r.get? exchange with
  | none => (r, false)
  | some e =>
    let (removed, table) := e.bindings.unbind key target
    (r.modify exchange (·.mapBindings fun _ => table), removed)

/-- Whether the destination at `i` names `d` as its alternate. -/
def dependsOn (d : DestinationId) (name : String) (i : DestinationId) (x : Destination) : Bool :=
  i != d && x.alternateName == some name

/-- The other registered destinations whose alternate is `d`, going by its name. -/
def dependants (r : Registry) (d : DestinationId) (name : String) : List Destination :=
  r.ids.filterMap fun i => (r.get? i).filter (dependsOn d name i)

/-- The exchanges with bindings to `d`, and how many. -/
def boundTo (r : Registry) (d : DestinationId) : List (DestinationId × Nat) :=
  r.ids.filterMap fun i =>
    let n := ((r.get? i).map (·.bindings.toList.countP (·.destination == d))).getD 0
    if n = 0 then none else some (i, n)

/-- The destination at `i` after the deletion of `d`: no binding and no alternate leads there. -/
def forget (d : DestinationId) (name : String) (i : DestinationId) (x : Destination) :
    Destination :=
  let x := if dependsOn d name i x then { x with fallback := none } else x
  x.mapBindings fun t => (t.removeDestination d).2

/-- Changes the registered destinations. -/
def mapRegistered (r : Registry) (f : DestinationId → Destination → Destination) : Registry :=
  { r with destinations := r.destinations.mapIdx fun i x => if r.ids.contains i then f i x else x }

/-- What is left of a deleted destination. -/
def bury (x : Destination) : Destination :=
  match x.body with
  | .queue q => { x with deleted := true, body := .queue { q with entries := [] } }
  | .exchange e => { x with deleted := true, body := .exchange { e with bindings := .empty } }

/-- Takes a destination out of both maps. -/
def unregister (r : Registry) (d : DestinationId) (name : String) : Registry :=
  { r with names := r.names.filter (·.1 != name), ids := r.ids.filter (· != d) }

/-- Deletes a destination and every way to it.  A system exchange stays, and so does a destination
that others use as alternate, unless `force` clears it from them. -/
def delete (r : Registry) (name : String) (force : Bool) :
    Except TopologyError (Registry × Deletion) := do
  let d ← r.require name
  match r.get? d with
  | none => .error (.noDestination name)
  | some x =>
    let dependants := ((r.dependants d name).map Destination.name).mergeSort
    if x.isSystem then .error (.cannotDelete x.named .systemExchange)
    else if !dependants.isEmpty && !force then .error (.cannotDelete x.named (.inUse dependants))
    else
      let left := ((r.mapRegistered (forget d name)).modify d bury).unregister d x.name
      pure (left.publish .deleted d, ⟨d, r.boundTo d, x.bindings.size, x.entries⟩)

end Registry
end MessageBroker
