import MessageBroker.Proofs.Registry.Consistency
import MessageBroker.Proofs.Run
import MessageBroker.Proofs.Registry.Tables
/-!
# Requests carried out step by step

The operations on the topology find every fault first and yield the changed registry at once.  Here they are carried
out the way a broker does it, check by check and change by change, where what was done before a fault would stay done
(`TopologyRequest.stepwise`).  It comes to the same (`run_stepwise`).
-/
namespace MessageBroker

namespace Registry

/-- Changes some destinations, one after the other. -/
def each (r : Registry) (is : List DestinationId) (f : Destination → Destination) : Registry :=
  is.foldl (fun r i => r.modify i f) r

/-- A destination that is deleted from now on, and drops what was on it. -/
def markDeleted (x : Destination) : Destination := { x.mapQueue fun q => { q with entries := [] } with deleted := true }

end Registry

/-- Work on a registry.  A fault ends it and undoes nothing. -/
def Stepwise (α : Type) : Type := Registry → Except TopologyError α × Registry

namespace Stepwise

variable {α β : Type}

def run (m : Stepwise α) (r : Registry) : Except TopologyError α × Registry := m r

instance : Monad Stepwise where
  pure a := fun r => (.ok a, r)
  bind m f := fun r => match m r with
    | (.ok a, r') => (f a).run r'
    | (.error e, r') => (.error e, r')

def read : Stepwise Registry := fun r => (.ok r, r)

def change (f : Registry → Registry) : Stepwise Unit := fun r => (.ok (), f r)

def fault (e : TopologyError) : Stepwise α := fun r => (.error e, r)

/-- A check that stops everything if this is so. -/
def stop (c : Prop) [Decidable c] (e : TopologyError) : Stepwise Unit := if c then fault e else pure ()

/-- Goes on with what was found, unless a fault was. -/
def found : Except TopologyError α → Stepwise α
  | .ok a => pure a
  | .error e => fault e

variable {f : α → Stepwise β} {r : Registry}

@[simp] theorem run_pure (a : α) : (pure a : Stepwise α).run r = (.ok a, r) := rfl

@[simp] theorem run_change (g : Registry → Registry) : (change g).run r = (.ok (), g r) := rfl

@[simp] theorem run_fault (e : TopologyError) : (fault e : Stepwise α).run r = (.error e, r) := rfl

@[simp] theorem run_read_bind (f : Registry → Stepwise β) : (read >>= f).run r = (f r).run r := rfl

@[simp] theorem run_pure_bind (a : α) : (pure a >>= f).run r = (f a).run r := rfl

@[simp] theorem run_change_bind (g : Registry → Registry) (f : Unit → Stepwise β) :
    (change g >>= f).run r = (f ()).run (g r) := rfl

@[simp] theorem run_fault_bind (e : TopologyError) : (fault e >>= f).run r = (.error e, r) := rfl

@[simp] theorem run_found_bind (x : Except TopologyError α) : (found x >>= f).run r = match x with
    | .ok a => (f a).run r
    | .error e => (.error e, r) := by
  cases x <;> rfl

@[simp] theorem run_stop_bind (c : Prop) [Decidable c] (e : TopologyError) (f : Unit → Stepwise β) :
    (stop c e >>= f).run r = if c then (.error e, r) else (f ()).run r := by
  unfold stop
  split <;> rfl

/-! ## The operations -/

def createQueue (q : QueueDeclaration) : Stepwise Bool := do
  let r ← read
  stop (r.lookup q.name).isSome (.cannotConfigure ⟨.queue, q.name⟩ .nameTaken)
  let alternate ← found (r.resolveAlternate ⟨.queue, q.name⟩ q.durable q.alternate)
  change fun r => (r.add (.newQueue q.name q.durable (q.capacity <|> r.settings.queueCapacity) alternate)).1
  return true

def createExchange (e : ExchangeDeclaration) : Stepwise Bool := do
  let r ← read
  stop (e.name.startsWith r.settings.reservedPrefix)
    (.cannotConfigure ⟨.exchange, e.name⟩ (.reserved r.settings.reservedPrefix))
  stop (r.lookup e.name).isSome (.cannotConfigure ⟨.exchange, e.name⟩ .nameTaken)
  let alternate ← found (r.resolveAlternate ⟨.exchange, e.name⟩ e.durable e.alternate)
  change fun r => (r.add (.newExchange e.name e.type e.durable false alternate)).1
  return true

def setAlternate (name : String) (alternate : Option String) : Stepwise Bool := do
  let r ← read
  let d ← found (r.require name)
  match r.get? d with
  | none => fault (.noDestination name)
  | some x =>
    let a ← found (r.resolveAlternate x.named x.durable alternate)
    change (·.modify d fun x => { x with fallback := a })
    return true

/-- The table of the exchange is stored only when there is a new one. -/
def bind (e t : DestinationId) (key : String) (arguments : BindingArguments) (replace : Bool) : Stepwise Bool := do
  let r ← read
  match r.get? e, r.get? t with
  | some x, some y =>
    stop (t = e) (.cannotBind y.named x.name key .toItself)
    stop x.deleted (.cannotBind y.named x.name key .exchangeDeleted)
    let selector ← found (arguments.selector.mapError fun fault => .cannotBind y.named x.name key (.badSelector fault))
    stop y.deleted (.targetDeleted y.named x.name key)
    match x.bindings.find? key t with
    | none =>
      change (·.modify e (·.mapBindings (·.upsert ⟨key, t, arguments, selector⟩)))
      return true
    | some old =>
      if !replace then return false
      else if old.arguments == arguments then return true
      else
        change (·.modify e (·.mapBindings (·.upsert ⟨key, t, arguments, selector⟩)))
        return true
  | _, _ => fault (.noDestination "")

def unbind (e t : DestinationId) (key : String) : Stepwise Bool := do
  let r ← read
  if (((r.get? e).bind fun x => x.bindings.find? key t).isSome) then
    change (·.modify e (·.mapBindings (·.removeWhere fun b => b.key == key && b.destination == t)))
    return true
  else return false

/-- Those whose alternate it was lose it, then it is marked, then every exchange is swept, and at last it leaves. -/
def delete (name : String) (force : Bool) : Stepwise Bool := do
  let r ← read
  let d ← found (r.require name)
  match r.get? d with
  | none => fault (.noDestination name)
  | some x =>
    stop x.isSystem (.cannotDelete x.named .systemExchange)
    let dependants := r.ids.filter fun i => (r.get? i).any (Registry.dependsOn d name i)
    stop (!dependants.isEmpty && !force)
      (.cannotDelete x.named (.inUse (((r.dependants d name).map Destination.name).mergeSort)))
    change (·.each dependants fun y => { y with fallback := none })
    change (·.modify d Registry.markDeleted)
    change (·.each r.ids (·.mapBindings fun t => (t.removeDestination d).2))
    change (·.modify d (·.mapBindings fun _ => .empty))
    change (·.unregister d x.name)
    change (·.publish .deleted d)
    return true

end Stepwise

/-- A request, carried out step by step. -/
def TopologyRequest.stepwise : TopologyRequest → Stepwise Bool
  | .createQueue q => .createQueue q
  | .createExchange e => .createExchange e
  | .setAlternate name alternate => .setAlternate name alternate
  | .bind exchange target key arguments replace => do
    let r ← .read
    let (e, t) ← .found (r.endpoints exchange target)
    .bind e t key arguments replace
  | .bindHeld e t key arguments replace => .bind e t key arguments replace
  | .unbind exchange target key => do
    let r ← .read
    let (e, t) ← .found (r.endpoints exchange target)
    .unbind e t key
  | .unbindHeld e t key => .unbind e t key
  | .delete name force => .delete name force

namespace Registry

variable {r r' : Registry}

/-! ## Changes in place -/

theorem modify_congr {d : DestinationId} {x : Destination} {f g : Destination → Destination} (hx : r.get? d = some x)
    (h : f x = g x) : r.modify d f = r.modify d g := by
  unfold modify
  refine congrArg (fun ds => { r with destinations := ds }) (List.ext_getElem? fun i => ?_)
  rw [List.getElem?_modify, List.getElem?_modify]
  by_cases hi : d = i
  · subst hi
    unfold get? at hx
    simp [hx, h]
  · simp [hi]

theorem modify_eq_self {d : DestinationId} {x : Destination} {f : Destination → Destination} (hx : r.get? d = some x)
    (h : f x = x) : r.modify d f = r := by
  rw [modify_congr (g := id) hx h]
  unfold modify
  rw [List.modify_id]

theorem mapBindings_const (x : Destination) (f : BindingTable → BindingTable) :
    (x.mapBindings fun _ => f x.bindings) = x.mapBindings f := by
  obtain ⟨_, _, _, _, _, body⟩ := x
  cases body <;> rfl

theorem mapBindings_self (x : Destination) : (x.mapBindings fun _ => x.bindings) = x := by
  obtain ⟨_, _, _, _, _, body⟩ := x
  cases body <;> rfl

/-- Registries with the same destinations are the same, if all the rest is. -/
theorem eq_of_get? (rest : { r' with destinations := r.destinations } = r) (h : ∀ i, r'.get? i = r.get? i) : r' = r := by
  have hds : r'.destinations = r.destinations := List.ext_getElem? h
  rw [← rest, ← hds]

theorem each_rest (is : List DestinationId) (f : Destination → Destination) (ds : List Destination) :
    ∀ r : Registry, { r.each is f with destinations := ds } = { r with destinations := ds } := by
  induction is with
  | nil => exact fun _ => rfl
  | cons i is ih => exact fun r => ih (r.modify i f)

/-- **Changing each of some destinations changes just those**, once. -/
theorem get?_each {is : List DestinationId} (nodup : is.Nodup) (f : Destination → Destination) (j : DestinationId) :
    ∀ r : Registry, (r.each is f).get? j = (r.get? j).map (if j ∈ is then f else id) := by
  induction is with
  | nil =>
    intro r
    rw [if_neg List.not_mem_nil, Option.map_id_fun]
    rfl
  | cons i is ih =>
    intro r
    obtain ⟨fresh, nodup⟩ := List.nodup_cons.1 nodup
    have h := ih nodup (r.modify i f)
    rw [get?_modify] at h
    refine h.trans ?_
    by_cases hi : i = j
    · subst hi
      rw [if_pos rfl, if_neg fresh, if_pos List.mem_cons_self, Option.map_map, Function.id_comp]
    · rw [if_neg hi, Option.map_id_fun, id]
      congr 1
      by_cases hj : j ∈ is
      · rw [if_pos hj, if_pos (List.mem_cons_of_mem _ hj)]
      · rw [if_neg hj, if_neg fun h => (List.mem_cons.1 h).elim (fun h => hi h.symm) hj]

end Registry

namespace Broker

open Registry

theorem registry_created_add (b : Broker) (x : Destination) :
    (b.created (b.registry.add x).1 (b.registry.add x).2).registry = (b.registry.add x).1 := by
  have h : (b.registry.add x).1.get? (b.registry.add x).2 = some x := by
    have hid : (b.registry.add x).2 = b.registry.destinations.length := rfl
    rw [get?_add, if_pos hid]
  unfold created
  rw [h]
  rfl

/-! ## Each operation comes to the same -/

theorem run_createQueue (b : Broker) (q : QueueDeclaration) : (Stepwise.createQueue q).run b.registry =
    ((b.createQueue q).2.map fun _ => true, (b.createQueue q).1.registry) := by
  unfold Stepwise.createQueue Broker.createQueue Registry.createQueue
  rw [Stepwise.run_read_bind, Stepwise.run_stop_bind]
  by_cases hfree : (b.registry.lookup q.name).isSome = true
  · rw [if_pos hfree, if_pos hfree]
    rfl
  rw [if_neg hfree, if_neg hfree, Stepwise.run_found_bind]
  cases b.registry.resolveAlternate ⟨.queue, q.name⟩ q.durable q.alternate with
  | error e => rfl
  | ok a => exact Prod.ext rfl (registry_created_add b _).symm

theorem run_createExchange (b : Broker) (e : ExchangeDeclaration) : (Stepwise.createExchange e).run b.registry =
    ((b.createExchange e).2.map fun _ => true, (b.createExchange e).1.registry) := by
  unfold Stepwise.createExchange Broker.createExchange Registry.createExchange
  rw [Stepwise.run_read_bind, Stepwise.run_stop_bind]
  by_cases hreserved : e.name.startsWith b.registry.settings.reservedPrefix = true
  · rw [if_pos hreserved, if_pos hreserved]
    rfl
  rw [if_neg hreserved, if_neg hreserved, Stepwise.run_stop_bind]
  by_cases hfree : (b.registry.lookup e.name).isSome = true
  · rw [if_pos hfree, if_pos hfree]
    rfl
  rw [if_neg hfree, if_neg hfree, Stepwise.run_found_bind]
  cases b.registry.resolveAlternate ⟨.exchange, e.name⟩ e.durable e.alternate with
  | error f => rfl
  | ok a => exact Prod.ext rfl (registry_created_add b _).symm

theorem run_setAlternate (b : Broker) (name : String) (alternate : Option String) :
    (Stepwise.setAlternate name alternate).run b.registry =
      ((b.setAlternate name alternate).2.map fun _ => true, (b.setAlternate name alternate).1.registry) := by
  unfold Stepwise.setAlternate Broker.setAlternate Registry.setAlternate
  rw [Stepwise.run_read_bind, Stepwise.run_found_bind]
  cases b.registry.require name with
  | error e => rfl
  | ok d =>
    simp only [ok_bind]
    cases b.registry.get? d with
    | none => rfl
    | some x =>
      simp only [Stepwise.run_found_bind]
      cases b.registry.resolveAlternate x.named x.durable alternate with
      | error e => rfl
      | ok a => rfl

theorem run_bindTo (b : Broker) (e t : DestinationId) (key : String) (arguments : BindingArguments) (replace : Bool) :
    (Stepwise.bind e t key arguments replace).run b.registry =
      ((b.bindTo e t key arguments replace).2, (b.bindTo e t key arguments replace).1.registry) := by
  unfold Stepwise.bind Broker.bindTo Registry.bind
  rw [Stepwise.run_read_bind]
  cases hx : b.registry.get? e with
  | none => rfl
  | some x =>
    cases hy : b.registry.get? t with
    | none => rfl
    | some y =>
      simp only [Stepwise.run_stop_bind]
      by_cases hself : t = e
      · rw [if_pos hself, if_pos hself]
        rfl
      rw [if_neg hself, if_neg hself]
      by_cases hdel : x.deleted = true
      · rw [if_pos hdel, if_pos hdel]
        rfl
      rw [if_neg hdel, if_neg hdel, Stepwise.run_found_bind]
      cases arguments.selector with
      | error f => rfl
      | ok selector =>
        simp only [Except.mapError, Stepwise.run_stop_bind]
        by_cases htarget : y.deleted = true
        · rw [if_pos htarget, if_pos htarget]
          rfl
        rw [if_neg htarget, if_neg htarget]
        have hkept : b.registry.modify e (·.mapBindings fun _ => x.bindings) = b.registry :=
          modify_eq_self hx (mapBindings_self x)
        have hput : b.registry.modify e (·.mapBindings fun _ => x.bindings.upsert ⟨key, t, arguments, selector⟩) =
            b.registry.modify e (·.mapBindings (·.upsert ⟨key, t, arguments, selector⟩)) :=
          modify_congr hx (mapBindings_const x (·.upsert ⟨key, t, arguments, selector⟩))
        unfold BindingTable.bind
        cases x.bindings.find? key t with
        | none => exact Prod.ext rfl hput.symm
        | some old =>
          cases replace with
          | false => exact Prod.ext rfl hkept.symm
          | true =>
            simp only [Bool.not_true, Bool.false_eq_true, if_false]
            by_cases hsame : (old.arguments == arguments) = true
            · simp only [hsame, if_true]
              exact Prod.ext rfl hkept.symm
            · simp only [hsame]
              exact Prod.ext rfl hput.symm

theorem run_unbindFrom (b : Broker) (e t : DestinationId) (key : String) :
    (Stepwise.unbind e t key).run b.registry = (.ok (b.unbindFrom e t key).2, (b.unbindFrom e t key).1.registry) := by
  unfold Stepwise.unbind Broker.unbindFrom Registry.unbind
  rw [Stepwise.run_read_bind]
  cases hx : b.registry.get? e with
  | none => rfl
  | some x =>
    cases hold : x.bindings.find? key t with
    | none =>
      have hnone : (x.bindings.unbind key t).1 = false := by simp [BindingTable.unbind, hold]
      have hkept : b.registry.modify e (·.mapBindings fun _ => (x.bindings.unbind key t).2) = b.registry := by
        rw [BindingTable.unbind_false hnone]
        exact modify_eq_self hx (mapBindings_self x)
      simp only [Option.bind_some, hold, hnone, hkept]
      rfl
    | some old =>
      have hsome : (x.bindings.unbind key t).1 = true := by simp [BindingTable.unbind, hold]
      have hput : b.registry.modify e (·.mapBindings fun _ => (x.bindings.unbind key t).2) =
          b.registry.modify e (·.mapBindings (·.removeWhere fun b => b.key == key && b.destination == t)) :=
        modify_congr hx (mapBindings_const x (·.removeWhere fun b => b.key == key && b.destination == t))
      simp only [Option.bind_some, hold, hsome, hput]
      rfl

theorem isEmpty_dependants (r : Registry) (d : DestinationId) (name : String) :
    (((r.dependants d name).map Destination.name).mergeSort).isEmpty =
      (r.ids.filter fun i => (r.get? i).any (dependsOn d name i)).isEmpty := by
  have hnone : ∀ i, (r.get? i).filter (dependsOn d name i) = none ↔ ¬ (r.get? i).any (dependsOn d name i) = true := by
    intro i
    cases r.get? i with
    | none => simp
    | some y => simp [Option.filter_some]
  rw [isEmpty_sortedNames, Bool.eq_iff_iff, List.isEmpty_iff, List.isEmpty_iff]
  unfold dependants
  rw [List.filterMap_eq_nil_iff, List.filter_eq_nil_iff]
  simp only [hnone]

/-- What marking and clearing leave of a destination that was swept is what is buried of it. -/
theorem bury_eq (x : Destination) (t : BindingTable → BindingTable) :
    ((markDeleted x).mapBindings t).mapBindings (fun _ => .empty) = bury (x.mapBindings t) := by
  obtain ⟨_, _, _, _, _, body⟩ := x
  cases body <;> rfl

/-- **Sweeping one destination after the other** leaves what forgetting everywhere at once does. -/
theorem swept_eq {r : Registry} {d : DestinationId} {x : Destination} {name : String} (h : r.Consistent)
    (found : r.lookup name = some d) (at_d : r.get? d = some x) :
    (((r.each (r.ids.filter fun i => (r.get? i).any (dependsOn d name i)) fun y => { y with fallback := none }).modify d
      markDeleted).each r.ids (·.mapBindings fun t => (t.removeDestination d).2)).modify d
        (·.mapBindings fun _ => .empty) = (r.mapRegistered (forget d name)).modify d bury := by
  have hd : d ∈ r.ids := (registered?_eq_some.1 (h.registered_of_lookup found at_d).1).1
  refine eq_of_get? ((each_rest r.ids _ _ _).trans (each_rest _ _ _ r)) fun i => ?_
  rw [get?_modify, get?_each h.ids_nodup, get?_modify, get?_each (h.ids_nodup.filter _), get?_modify,
    get?_mapRegistered]
  cases hi : r.get? i with
  | none => rfl
  | some y =>
    have hmem : i ∈ r.ids.filter (fun i => (r.get? i).any (dependsOn d name i)) ↔
        i ∈ r.ids ∧ dependsOn d name i y = true := by
      rw [List.mem_filter, hi, Option.any_some]
    simp only [Option.map_some, Option.some.injEq]
    by_cases hid : d = i
    · subst hid
      have hself : dependsOn d name d y = false := by simp [dependsOn]
      rw [if_pos rfl, if_pos rfl, if_pos rfl, if_pos hd, if_pos hd,
        if_neg fun hm => by rw [(hmem.1 hm).2] at hself; cases hself]
      have hforget : forget d name d y = y.mapBindings fun t => (t.removeDestination d).2 := by
        unfold forget
        rw [hself]
        rfl
      rw [hforget]
      exact bury_eq y _
    · rw [if_neg hid, if_neg hid, if_neg hid]
      by_cases hreg : i ∈ r.ids
      · rw [if_pos hreg, if_pos hreg]
        unfold forget
        by_cases hdep : dependsOn d name i y = true
        · rw [if_pos (hmem.2 ⟨hreg, hdep⟩), if_pos hdep]
          rfl
        · rw [if_neg fun hm => hdep (hmem.1 hm).2, if_neg hdep]
          rfl
      · rw [if_neg hreg, if_neg hreg, if_neg fun hm => hreg (hmem.1 hm).1]
        rfl

theorem run_delete (b : Broker) (h : b.registry.Consistent) (name : String) (force : Bool) :
    (Stepwise.delete name force).run b.registry =
      ((b.delete name force).2.map fun _ => true, (b.delete name force).1.registry) := by
  unfold Stepwise.delete Broker.delete Registry.delete
  rw [Stepwise.run_read_bind, Stepwise.run_found_bind]
  cases hd : b.registry.require name with
  | error e => rfl
  | ok d =>
    simp only [ok_bind]
    cases hx : b.registry.get? d with
    | none => rfl
    | some x =>
      simp only [Stepwise.run_stop_bind]
      by_cases hsys : x.isSystem = true
      · rw [if_pos hsys, if_pos hsys]
        rfl
      rw [if_neg hsys, if_neg hsys, isEmpty_dependants]
      by_cases hinUse : (!(b.registry.ids.filter fun i => (b.registry.get? i).any (dependsOn d name i)).isEmpty &&
          !force) = true
      · rw [if_pos hinUse, if_pos hinUse]
        rfl
      rw [if_neg hinUse, if_neg hinUse]
      simp only [Stepwise.run_change_bind, swept_eq h (require_ok hd) hx]
      rfl

/-- **A request comes to the same step by step**, down to the order of things. -/
theorem run_stepwise (b : Broker) (h : b.registry.Consistent) (q : TopologyRequest) :
    q.stepwise.run b.registry = (b.reply q, (b.administer q).registry) := by
  cases q with
  | createQueue q => exact run_createQueue b q
  | createExchange e => exact run_createExchange b e
  | setAlternate name alternate => exact run_setAlternate b name alternate
  | bind exchange target key arguments replace =>
    simp only [TopologyRequest.stepwise, Stepwise.run_read_bind, Stepwise.run_found_bind, reply, administer, Broker.bind]
    cases b.registry.endpoints exchange target with
    | error e => rfl
    | ok z => exact run_bindTo b z.1 z.2 key arguments replace
  | bindHeld e t key arguments replace => exact run_bindTo b e t key arguments replace
  | unbind exchange target key =>
    simp only [TopologyRequest.stepwise, Stepwise.run_read_bind, Stepwise.run_found_bind, reply, administer, Broker.unbind]
    cases b.registry.endpoints exchange target with
    | error e => rfl
    | ok z => exact run_unbindFrom b z.1 z.2 key
  | unbindHeld e t key => exact run_unbindFrom b e t key
  | delete name force => exact run_delete b h name force

end Broker
end MessageBroker
