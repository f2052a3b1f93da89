import MessageBroker.Association
import MessageBroker.Registry.Admin
import MessageBroker.Proofs.Results
/-!
# Administrative requests, and what each can do

A request that is granted changes a registry in one of a few ways, each under conditions that were found to hold
(`Granted`), and one that is refused changes nothing.  Whatever these changes keep is kept by every run of requests
(`after_induction`).
-/
namespace MessageBroker

inductive TopologyRequest where
  | createQueue (q : QueueDeclaration)
  | createExchange (e : ExchangeDeclaration)
  | setAlternate (name : String) (alternate : Option String)
  | bind (exchange target key : String) (arguments : BindingArguments) (replace : Bool)
  /-- The ends of the binding are held, so either may have been deleted. -/
  | bindHeld (exchange target : DestinationId) (key : String) (arguments : BindingArguments) (replace : Bool)
  | unbind (exchange target key : String)
  | unbindHeld (exchange target : DestinationId) (key : String)
  | delete (name : String) (force : Bool)

namespace Registry

/-- The registry once a request is granted. -/
def serve (r : Registry) : TopologyRequest → Except TopologyError Registry
  | .createQueue q => (r.createQueue q).map Prod.fst
  | .createExchange e => (r.createExchange e).map Prod.fst
  | .setAlternate name alternate => (r.setAlternate name alternate).map Prod.fst
  | .bind exchange target key arguments replace => do
    let (e, t) ← r.endpoints exchange target
    (r.bind e t key arguments replace).map Prod.fst
  | .bindHeld e t key arguments replace => (r.bind e t key arguments replace).map Prod.fst
  | .unbind exchange target key => do
    let (e, t) ← r.endpoints exchange target
    pure (r.unbind e t key).1
  | .unbindHeld e t key => .ok (r.unbind e t key).1
  | .delete name force => (r.delete name force).map Prod.fst

/-- The registry after a request, granted or refused. -/
def obey (r : Registry) (q : TopologyRequest) : Registry :=
  match r.serve q with
  | .ok r' => r'
  | .error _ => r

/-- The registry after a run of requests. -/
def after (r : Registry) (qs : List TopologyRequest) : Registry := qs.foldl obey r

/-! ## The changes, seen through the maps -/

@[simp] theorem get?_publish (r : Registry) (c : Change) (d i : DestinationId) :
    (r.publish c d).get? i = r.get? i := by
  unfold publish
  split <;> rfl

@[simp] theorem lookup_publish (r : Registry) (c : Change) (d : DestinationId) (name : String) :
    (r.publish c d).lookup name = r.lookup name := by
  unfold publish
  split <;> rfl

@[simp] theorem ids_publish (r : Registry) (c : Change) (d : DestinationId) : (r.publish c d).ids = r.ids := by
  unfold publish
  split <;> rfl

@[simp] theorem settings_publish (r : Registry) (c : Change) (d : DestinationId) :
    (r.publish c d).settings = r.settings := by
  unfold publish
  split <;> rfl

theorem get?_modify (r : Registry) (d i : DestinationId) (f : Destination → Destination) :
    (r.modify d f).get? i = (r.get? i).map (if d = i then f else id) := by
  by_cases h : d = i
  · subst h; rw [get?_modify_self, if_pos rfl]
  · rw [get?_modify_of_ne r h, if_neg h, Option.map_id_fun, id]

theorem get?_mapRegistered (r : Registry) (f : DestinationId → Destination → Destination) (i : DestinationId) :
    (r.mapRegistered f).get? i = (r.get? i).map (if i ∈ r.ids then f i else id) := by
  unfold mapRegistered get?
  rw [List.getElem?_mapIdx]
  congr 1
  funext x
  by_cases h : i ∈ r.ids <;> simp [h]

theorem registered?_eq_some {r : Registry} {d : DestinationId} {x : Destination} :
    r.registered? d = some x ↔ d ∈ r.ids ∧ r.get? d = some x := by
  unfold registered?
  by_cases h : d ∈ r.ids <;> simp [h]

theorem live?_eq_some {r : Registry} {d : DestinationId} {x : Destination} :
    r.live? d = some x ↔ r.get? d = some x ∧ x.deleted = false := by
  simp [live?, Option.filter_eq_some_iff]

theorem get?_lt {r : Registry} {d : DestinationId} {x : Destination} (h : r.get? d = some x) :
    d < r.destinations.length := by
  obtain ⟨hlt, -⟩ := List.getElem?_eq_some_iff.1 h
  exact hlt

/-! ## A destination that leaves -/

/-- A destination is marked deleted and taken out of both maps. -/
def depart (r : Registry) (d : DestinationId) (name : String) : Registry := (r.modify d bury).unregister d name

theorem get?_depart (r : Registry) (d : DestinationId) (name : String) (i : DestinationId) :
    (r.depart d name).get? i = (r.get? i).map (if d = i then bury else id) := get?_modify r d i bury

theorem lookup_depart (r : Registry) (d : DestinationId) (name other : String) :
    (r.depart d name).lookup other = if other = name then none else r.lookup other := by
  unfold depart lookup unregister
  by_cases h : other = name
  · subst h; rw [if_pos rfl]; exact lookup_filter_self other r.names
  · rw [if_neg h]; exact lookup_filter_of_ne h r.names

theorem mem_ids_depart {r : Registry} {d : DestinationId} {name : String} {i : DestinationId} :
    i ∈ (r.depart d name).ids ↔ i ∈ r.ids ∧ i ≠ d := by
  simp [depart, unregister, modify]

theorem registered?_depart {r : Registry} {d : DestinationId} {name : String} {i : DestinationId} {x : Destination} :
    (r.depart d name).registered? i = some x ↔ r.registered? i = some x ∧ i ≠ d := by
  rw [registered?_eq_some, registered?_eq_some, mem_ids_depart, get?_depart]
  by_cases h : i = d
  · simp [h]
  · simp [h, Ne.symm h]

/-! ## A new destination -/

theorem get?_add (r : Registry) (x : Destination) (i : DestinationId) :
    (r.add x).1.get? i = if i = r.destinations.length then some x else r.get? i := by
  simp only [add, get?_publish]
  unfold get?
  by_cases h : i = r.destinations.length
  · subst h; simp
  · rw [if_neg h]
    rcases Nat.lt_or_gt_of_ne h with hlt | hgt
    · rw [List.getElem?_append_left hlt]
    · rw [List.getElem?_eq_none (by rw [List.length_append, List.length_singleton]; omega),
        List.getElem?_eq_none (by omega)]

theorem lookup_add (r : Registry) (x : Destination) (name : String) :
    (r.add x).1.lookup name = if name = x.name then some r.destinations.length else r.lookup name := by
  simp only [add, lookup_publish]
  unfold lookup
  by_cases h : name = x.name
  · subst h; simp
  · simp [List.lookup_cons, beq_eq_false_iff_ne.2 h, h, lookup_filter_of_ne h]

theorem ids_add (r : Registry) (x : Destination) : (r.add x).1.ids = r.ids ++ [r.destinations.length] := by
  simp [add]

theorem registered?_add (r : Registry) (x : Destination) (i : DestinationId) :
    (r.add x).1.registered? i = if i = r.destinations.length then some x else r.registered? i := by
  unfold registered?
  rw [get?_add, ids_add]
  by_cases h : i = r.destinations.length <;> simp [h]

theorem settings_add (r : Registry) (x : Destination) : (r.add x).1.settings = r.settings := by
  simp [add]

/-! ## What a granted request does -/

/-- An alternate that a destination of this name may have: another name, of a registered destination that is
durable if the one asking is. -/
def Suits (r : Registry) (name : String) (durable : Bool) (a : Alternate) : Prop :=
  a.name ≠ name ∧ r.lookup a.name = some a.target ∧
    (durable = true → ∃ y, r.get? a.target = some y ∧ y.durable = true)

/-- A destination as it is made. -/
structure Blank (x : Destination) : Prop where
  live : x.deleted = false
  unbound : x.bindings = .empty
  empty : x.entries = []
  ordinary : x.isSystem = false
  unpublished : x.links = []

/-- **What a request can make of a registry.** -/
inductive Granted (r : Registry) : Registry → Prop where
  | unchanged : Granted r r
  | created (x : Destination) (blank : Blank x) (free : r.lookup x.name = none)
      (suits : ∀ a, x.fallback = some a → r.Suits x.name x.durable a) : Granted r (r.add x).1
  | alternateSet (name : String) (d : DestinationId) (x : Destination) (f : Option Alternate)
      (found : r.lookup name = some d) (at_d : r.get? d = some x)
      (suits : ∀ a, f = some a → r.Suits x.name x.durable a) :
      Granted r (r.modify d fun x => { x with fallback := f })
  | bound (e : DestinationId) (x y : Destination) (b : Binding) (replace : Bool) (at_e : r.get? e = some x)
      (live : x.deleted = false) (target : r.get? b.destination = some y) (target_live : y.deleted = false)
      (other : b.destination ≠ e) (parsed : b.arguments.selector.toOption = some b.selector) :
      Granted r (r.modify e (·.mapBindings fun _ => (x.bindings.bind b replace).2))
  | unbound (e t : DestinationId) (key : String) (x : Destination) (at_e : r.get? e = some x) :
      Granted r (r.modify e (·.mapBindings fun _ => (x.bindings.unbind key t).2))
  | deleted (name : String) (d : DestinationId) (x : Destination) (found : r.lookup name = some d)
      (at_d : r.get? d = some x) (ordinary : x.isSystem = false) :
      Granted r (((r.mapRegistered (forget d name)).depart d x.name).publish .deleted d)

theorem resolveAlternate_ok {r : Registry} {asking : Named} {durable : Bool} {alternate : Option String}
    {f : Option Alternate} (h : r.resolveAlternate asking durable alternate = .ok f) :
    ∀ a, f = some a → r.Suits asking.name durable a := by
  rintro a rfl
  cases alternate with
  | none => cases h
  | some name =>
    simp only [resolveAlternate] at h
    split at h
    · cases h
    rename_i hne
    split at h
    · cases h
    rename_i t ht
    split at h
    · cases h
    rename_i hd
    simp only [Except.ok.injEq, Option.some.injEq] at h
    subst h
    refine ⟨hne, ht, fun hdur => ?_⟩
    subst hdur
    cases hy : r.get? t with
    | none => simp [hy] at hd
    | some y => exact ⟨y, rfl, by simpa [hy] using hd⟩

/-- A queue that is made is added, under a free name and with an alternate that suits it. -/
theorem createQueue_eq_add {r : Registry} {q : QueueDeclaration} {z : Registry × DestinationId}
    (h : r.createQueue q = .ok z) : ∃ f, r.lookup q.name = none ∧ (∀ a, f = some a → r.Suits q.name q.durable a) ∧
      z = r.add (.newQueue q.name q.durable (q.capacity <|> r.settings.queueCapacity) f) := by
  unfold createQueue at h
  split at h
  · cases h
  rename_i hfree
  obtain ⟨f, hf, h⟩ := ok_of_bind h
  exact ⟨f, Option.not_isSome_iff_eq_none.1 hfree, resolveAlternate_ok hf, (Except.ok.inj h).symm⟩

/-- So is an exchange. -/
theorem createExchange_eq_add {r : Registry} {e : ExchangeDeclaration} {z : Registry × DestinationId}
    (h : r.createExchange e = .ok z) : ∃ f, r.lookup e.name = none ∧ (∀ a, f = some a → r.Suits e.name e.durable a) ∧
      z = r.add (.newExchange e.name e.type e.durable false f) := by
  unfold createExchange at h
  split at h
  · cases h
  split at h
  · cases h
  rename_i hfree
  obtain ⟨f, hf, h⟩ := ok_of_bind h
  exact ⟨f, Option.not_isSome_iff_eq_none.1 hfree, resolveAlternate_ok hf, (Except.ok.inj h).symm⟩

theorem createQueue_ok {r r' : Registry} {q : QueueDeclaration} {d : DestinationId}
    (h : r.createQueue q = .ok (r', d)) : r.Granted r' := by
  obtain ⟨f, free, suits, hz⟩ := createQueue_eq_add h
  cases hz
  exact .created (.newQueue q.name q.durable (q.capacity <|> r.settings.queueCapacity) f) ⟨rfl, rfl, rfl, rfl, rfl⟩
    free suits

theorem createExchange_ok {r r' : Registry} {e : ExchangeDeclaration} {d : DestinationId}
    (h : r.createExchange e = .ok (r', d)) : r.Granted r' := by
  obtain ⟨f, free, suits, hz⟩ := createExchange_eq_add h
  cases hz
  exact .created (.newExchange e.name e.type e.durable false f) ⟨rfl, rfl, rfl, rfl, rfl⟩ free suits

theorem require_ok {r : Registry} {name : String} {d : DestinationId} (h : r.require name = .ok d) :
    r.lookup name = some d := by
  unfold require at h
  split at h
  · cases h; assumption
  · cases h

/-- The ends of a binding are found by their names. -/
theorem endpoints_eq_ok {r : Registry} {exchange target : String} {z : DestinationId × DestinationId} :
    r.endpoints exchange target = .ok z ↔ r.lookupExchange exchange = some z.1 ∧ r.lookup target = some z.2 := by
  constructor
  · intro h
    obtain ⟨e, he, h⟩ := ok_of_bind h
    obtain ⟨t, ht, h⟩ := ok_of_bind h
    cases h
    refine ⟨?_, require_ok ht⟩
    unfold requireExchange at he
    split at he
    · cases he
      assumption
    · cases he
  · rintro ⟨he, ht⟩
    unfold endpoints requireExchange require
    rw [he, ht]
    rfl

/-- An alternate is set that suits the destination. -/
theorem setAlternate_eq_modify {r : Registry} {name : String} {alternate : Option String}
    {z : Registry × DestinationId} (h : r.setAlternate name alternate = .ok z) :
    ∃ d x f, r.lookup name = some d ∧ r.get? d = some x ∧ (∀ a, f = some a → r.Suits x.name x.durable a) ∧
      z = (r.modify d fun x => { x with fallback := f }, d) := by
  obtain ⟨d, hd, h⟩ := ok_of_bind h
  split at h
  · cases h
  rename_i x hx
  obtain ⟨f, hf, h⟩ := ok_of_bind h
  exact ⟨d, x, f, require_ok hd, hx, resolveAlternate_ok hf, (Except.ok.inj h).symm⟩

theorem setAlternate_ok {r r' : Registry} {name : String} {alternate : Option String} {d : DestinationId}
    (h : r.setAlternate name alternate = .ok (r', d)) : r.Granted r' := by
  obtain ⟨d, x, f, found, at_d, suits, hz⟩ := setAlternate_eq_modify h
  cases hz
  exact .alternateSet name d x f found at_d suits

/-- What there is to bind, and what comes of it. -/
theorem bind_eq_ok {r r' : Registry} {e t : DestinationId} {key : String} {arguments : BindingArguments}
    {replace : Bool} {outcome : BindOutcome} (h : r.bind e t key arguments replace = .ok (r', outcome)) :
    ∃ x y s, r.live? e = some x ∧ r.live? t = some y ∧ t ≠ e ∧ arguments.selector = .ok s ∧
      outcome = (x.bindings.bind ⟨key, t, arguments, s⟩ replace).1 ∧
      r' = r.modify e (·.mapBindings fun _ => (x.bindings.bind ⟨key, t, arguments, s⟩ replace).2) := by
  unfold bind at h
  split at h
  · rename_i x y hx hy
    simp only at h
    split at h
    · cases h
    rename_i hne
    split at h
    · cases h
    rename_i hlive
    split at h
    · cases h
    rename_i s hs
    split at h
    · cases h
    rename_i htarget
    cases h
    exact ⟨x, y, s, live?_eq_some.2 ⟨hx, by simpa using hlive⟩, live?_eq_some.2 ⟨hy, by simpa using htarget⟩, hne, hs,
      rfl, rfl⟩
  · cases h

theorem bind_ok {r r' : Registry} {e t : DestinationId} {key : String} {arguments : BindingArguments}
    {replace : Bool} {outcome : BindOutcome} (h : r.bind e t key arguments replace = .ok (r', outcome)) :
    r.Granted r' := by
  obtain ⟨x, y, s, he, ht, hne, hs, -, rfl⟩ := bind_eq_ok h
  obtain ⟨hx, hlive⟩ := live?_eq_some.1 he
  obtain ⟨hy, htarget⟩ := live?_eq_some.1 ht
  exact .bound e x y ⟨key, t, arguments, s⟩ replace hx hlive hy htarget hne (by rw [hs]; rfl)

theorem unbind_granted (r : Registry) (e t : DestinationId) (key : String) : r.Granted (r.unbind e t key).1 := by
  unfold unbind
  split
  · exact .unchanged
  · rename_i x hx
    exact .unbound e t key x hx

theorem isEmpty_sortedNames (ds : List Destination) : ((ds.map Destination.name).mergeSort).isEmpty = ds.isEmpty := by
  rw [Bool.eq_iff_iff, List.isEmpty_iff, List.isEmpty_iff, ← List.length_eq_zero_iff, List.length_mergeSort,
    List.length_map, List.length_eq_zero_iff]

/-- **When a deletion is granted, and what it comes to.** -/
theorem delete_eq_ok {r r' : Registry} {name : String} {force : Bool} {z : Deletion} :
    r.delete name force = .ok (r', z) ↔ ∃ d x, r.lookup name = some d ∧ r.get? d = some x ∧ x.isSystem = false ∧
      (force = true ∨ r.dependants d name = []) ∧
      r' = ((r.mapRegistered (forget d name)).depart d x.name).publish .deleted d ∧
      z = ⟨d, r.boundTo d, x.bindings.size, x.entries⟩ := by
  have hfree : ∀ ds : List Destination, (!((ds.map Destination.name).mergeSort).isEmpty && !force) = false ↔
      force = true ∨ ds = [] := by
    intro ds
    rw [isEmpty_sortedNames]
    cases force with
    | true => simp
    | false => simp
  constructor
  · intro h
    obtain ⟨d, hd, h⟩ := ok_of_bind h
    split at h
    · cases h
    rename_i x hx
    simp only at h
    split at h
    · cases h
    rename_i hsys
    split at h
    · cases h
    rename_i huse
    cases h
    exact ⟨d, x, require_ok hd, hx, by simpa using hsys, (hfree _).1 (Bool.eq_false_iff.2 huse), rfl, rfl⟩
  · rintro ⟨d, x, hd, hx, hsys, free, rfl, rfl⟩
    have hr : r.require name = .ok d := by
      unfold require
      rw [hd]
    have huse := (hfree (r.dependants d name)).2 free
    unfold delete
    simp only [hr, ok_bind, hx, hsys, huse]
    rfl

theorem delete_ok {r r' : Registry} {name : String} {force : Bool} {x : Deletion}
    (h : r.delete name force = .ok (r', x)) : r.Granted r' := by
  obtain ⟨d, y, hd, hy, hsys, -, rfl, -⟩ := delete_eq_ok.1 h
  exact .deleted name d y hd hy hsys

/-- **A granted request does one of the things that requests can do.** -/
theorem serve_granted {r r' : Registry} {q : TopologyRequest} (h : r.serve q = .ok r') : r.Granted r' := by
  cases q with
  | createQueue q =>
    obtain ⟨d, hd⟩ := ok_of_map_fst h
    exact createQueue_ok hd
  | createExchange e =>
    obtain ⟨d, hd⟩ := ok_of_map_fst h
    exact createExchange_ok hd
  | setAlternate name alternate =>
    obtain ⟨d, hd⟩ := ok_of_map_fst h
    exact setAlternate_ok hd
  | bind exchange target key arguments replace =>
    obtain ⟨p, -, h⟩ := ok_of_bind h
    obtain ⟨o, ho⟩ := ok_of_map_fst h
    exact bind_ok ho
  | bindHeld e t key arguments replace =>
    obtain ⟨o, ho⟩ := ok_of_map_fst h
    exact bind_ok ho
  | unbind exchange target key =>
    obtain ⟨p, -, h⟩ := ok_of_bind h
    cases h
    exact unbind_granted r p.1 p.2 key
  | unbindHeld e t key =>
    cases h
    exact unbind_granted r e t key
  | delete name force =>
    obtain ⟨x, hx⟩ := ok_of_map_fst h
    exact delete_ok hx

theorem obey_granted (r : Registry) (q : TopologyRequest) : r.Granted (r.obey q) := by
  unfold obey
  split
  · exact serve_granted ‹_›
  · exact .unchanged

/-- **What granted requests keep, a run keeps.** -/
theorem after_induction {P : Registry → Prop} (step : ∀ r r', P r → r.Granted r' → P r') :
    ∀ (qs : List TopologyRequest) (r : Registry), P r → P (r.after qs)
  | [], _, h => h
  | q :: qs, r, h => after_induction step qs (r.obey q) (step r _ h (obey_granted r q))

end Registry
end MessageBroker
