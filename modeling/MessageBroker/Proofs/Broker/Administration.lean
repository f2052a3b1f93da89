import MessageBroker.Broker.Topology
import MessageBroker.Proofs.Registry.Requests
/-!
# What administration does

A request on the topology is refused, or leaves on the queues what was on them; only a deletion takes entries away, and
it releases their messages.  Whichever request it is, it does one of these (`Administered`).
-/
namespace MessageBroker

/-- How many of some entries are of a message. -/
def copiesIn (m : MessageId) (es : List QueueEntry) : Nat := es.countP (·.message.id == m)

theorem copiesIn_append (m : MessageId) (es es' : List QueueEntry) :
    copiesIn m (es ++ es') = copiesIn m es + copiesIn m es' := List.countP_append

theorem copiesIn_singleton (m : MessageId) (e : QueueEntry) :
    copiesIn m [e] = if m = e.message.id then 1 else 0 := by
  unfold copiesIn
  rw [List.countP_singleton]
  simp only [beq_iff_eq, eq_comm (a := m)]

theorem copiesIn_cons (m : MessageId) (e : QueueEntry) (es : List QueueEntry) :
    copiesIn m (e :: es) = (if m = e.message.id then 1 else 0) + copiesIn m es := by
  rw [← List.singleton_append, copiesIn_append, copiesIn_singleton]

theorem count_map_id (m : MessageId) (es : List QueueEntry) : (es.map (·.message.id)).count m = copiesIn m es := by
  unfold copiesIn List.count
  rw [List.countP_map]
  rfl

/-- Changing one of the places where entries are changes their number by what is put there. -/
theorem copiesIn_flatMap_modify {α : Type} (m : MessageId) (g : α → List QueueEntry) (f : α → α) :
    ∀ {l : List α} {i : Nat} {x : α}, l[i]? = some x →
      copiesIn m ((l.modify i f).flatMap g) + copiesIn m (g x) = copiesIn m (l.flatMap g) + copiesIn m (g (f x))
  | [], _, _, h => by cases h
  | y :: l, 0, x, h => by
    cases h
    rw [List.modify_zero_cons, List.flatMap_cons, List.flatMap_cons, copiesIn_append, copiesIn_append]
    omega
  | y :: l, i + 1, x, h => by
    have ih := copiesIn_flatMap_modify m g f (l := l) (i := i) (x := x) (by simpa using h)
    rw [List.modify_succ_cons, List.flatMap_cons, List.flatMap_cons, copiesIn_append, copiesIn_append]
    omega

theorem copiesIn_flatMap_modify_of_eq {α : Type} (m : MessageId) {g : α → List QueueEntry} {f : α → α} {l : List α}
    {i : Nat} (h : ∀ x, l[i]? = some x → g (f x) = g x) :
    copiesIn m ((l.modify i f).flatMap g) = copiesIn m (l.flatMap g) := by
  cases hx : l[i]? with
  | none => rw [List.modify_eq_self (List.getElem?_eq_none_iff.1 hx)]
  | some x =>
    have h1 := copiesIn_flatMap_modify m g f hx
    rw [h x hx] at h1
    omega

theorem entries_mapBindings (x : Destination) (f : BindingTable → BindingTable) :
    (x.mapBindings f).entries = x.entries := by
  obtain ⟨_, _, _, _, _, body⟩ := x
  cases body <;> rfl

namespace Registry

/-- The entries of a message on all queues. -/
def copies (r : Registry) (m : MessageId) : Nat := copiesIn m (r.destinations.flatMap Destination.entries)

variable {r r' : Registry} {m : MessageId}

theorem copies_congr (h : r'.destinations.map Destination.entries = r.destinations.map Destination.entries) :
    r'.copies m = r.copies m := by
  unfold copies
  rw [List.flatMap_def, List.flatMap_def, h]

theorem copies_modify {d : DestinationId} {x : Destination} (hx : r.get? d = some x)
    (f : Destination → Destination) :
    (r.modify d f).copies m + copiesIn m x.entries = r.copies m + copiesIn m (f x).entries :=
  copiesIn_flatMap_modify m Destination.entries f hx

theorem copies_modify_of_entries {d : DestinationId} {f : Destination → Destination}
    (h : ∀ x, r.get? d = some x → (f x).entries = x.entries) : (r.modify d f).copies m = r.copies m :=
  copiesIn_flatMap_modify_of_eq m h

theorem copies_publish (r : Registry) (c : Change) (d : DestinationId) (m : MessageId) :
    (r.publish c d).copies m = r.copies m := by
  unfold publish
  split <;> rfl

theorem copies_add {x : Destination} (blank : Blank x) : (r.add x).1.copies m = r.copies m := by
  unfold add
  simp only
  rw [copies_publish]
  unfold copies
  rw [List.flatMap_append, List.flatMap_singleton, blank.empty, List.append_nil]

theorem entries_forget (d : DestinationId) (name : String) (i : DestinationId) (x : Destination) :
    (forget d name i x).entries = x.entries := by
  unfold forget
  simp only [entries_mapBindings]
  split <;> rfl

theorem entries_bury (x : Destination) : (bury x).entries = [] := by
  unfold bury
  split <;> rfl

theorem copies_mapRegistered_forget (d : DestinationId) (name : String) :
    (r.mapRegistered (forget d name)).copies m = r.copies m := by
  refine copies_congr (List.ext_getElem? fun i => ?_)
  have h := get?_mapRegistered r (forget d name) i
  unfold get? at h
  rw [List.getElem?_map, List.getElem?_map, h, Option.map_map]
  refine congrArg (Option.map · _) (funext fun x => ?_)
  simp only [Function.comp]
  split
  · exact entries_forget d name i x
  · rfl

/-- A destination that leaves loses its entries, and no other does. -/
theorem copies_depart {d : DestinationId} {x : Destination} (hx : r.get? d = some x) (name : String) :
    (r.depart d name).copies m + copiesIn m x.entries = r.copies m := by
  have h := copies_modify (m := m) hx bury
  rwa [entries_bury] at h

theorem copies_deleted {d : DestinationId} {x : Destination} (hx : r.get? d = some x) (name name' : String) :
    (((r.mapRegistered (forget d name)).depart d name').publish .deleted d).copies m + copiesIn m x.entries =
      r.copies m := by
  obtain ⟨y, hy, he⟩ : ∃ y, (r.mapRegistered (forget d name)).get? d = some y ∧ y.entries = x.entries := by
    rw [get?_mapRegistered, hx]
    refine ⟨_, rfl, ?_⟩
    split
    · exact entries_forget d name d x
    · rfl
  rw [copies_publish, ← he, copies_depart hy, copies_mapRegistered_forget]

end Registry

namespace Broker

open Registry

/-- **What a request on the topology does.** -/
inductive Administered (b : Broker) : Broker → Prop where
  | refused (ns : List Notice) : Administered b (b.noteAll ns)
  | granted {r : Registry} (granted : b.registry.Granted r) (copies : ∀ m, r.copies m = b.registry.copies m)
      (ns : List Notice) : Administered b (({ b with registry := r } : Broker).noteAll ns)
  | deleted {r : Registry} (granted : b.registry.Granted r) (es : List QueueEntry)
      (copies : ∀ m, r.copies m + copiesIn m es = b.registry.copies m) (ns : List Notice) :
      Administered b ((({ b with registry := r } : Broker).releaseEntries es).noteAll ns)

variable (b : Broker)

theorem administered_refuse {α : Type} (e : TopologyError) : Administered b (b.refuse (α := α) e).1 := .refused _

theorem administered_created {r : Registry} (d : DestinationId) (granted : b.registry.Granted r)
    (copies : ∀ m, r.copies m = b.registry.copies m) : Administered b (b.created r d) := by
  unfold created
  split
  · have h := Administered.refused (b := b) []
    unfold noteAll at h
    rwa [List.append_nil] at h
  · exact .granted granted copies [_]

theorem administered_createQueue (q : QueueDeclaration) : Administered b (b.createQueue q).1 := by
  unfold createQueue
  split
  · exact administered_refuse b _
  · rename_i r d h
    refine administered_created b d (createQueue_ok h) fun m => ?_
    obtain ⟨f, -, -, hz⟩ := createQueue_eq_add h
    cases hz
    exact copies_add ⟨rfl, rfl, rfl, rfl, rfl⟩

theorem administered_createExchange (e : ExchangeDeclaration) : Administered b (b.createExchange e).1 := by
  unfold createExchange
  split
  · exact administered_refuse b _
  · rename_i r d h
    refine administered_created b d (createExchange_ok h) fun m => ?_
    obtain ⟨f, -, -, hz⟩ := createExchange_eq_add h
    cases hz
    exact copies_add ⟨rfl, rfl, rfl, rfl, rfl⟩

theorem administered_setAlternate (name : String) (alternate : Option String) :
    Administered b (b.setAlternate name alternate).1 := by
  unfold setAlternate
  split
  · exact administered_refuse b _
  · rename_i h
    refine .granted (setAlternate_ok h) (fun m => ?_) [_]
    obtain ⟨i, x, f, -, -, -, hz⟩ := setAlternate_eq_modify h
    cases hz
    exact copies_modify_of_entries fun _ _ => rfl

theorem administered_bindTo (e t : DestinationId) (key : String) (arguments : BindingArguments) (replace : Bool) :
    Administered b (b.bindTo e t key arguments replace).1 := by
  unfold bindTo
  split
  · exact administered_refuse b _
  · rename_i h
    refine .granted (bind_ok h) (fun m => ?_) [_]
    obtain ⟨x, y, s, -, -, -, -, -, rfl⟩ := bind_eq_ok h
    exact copies_modify_of_entries fun x _ => entries_mapBindings x _

theorem copies_unbind (r : Registry) (e t : DestinationId) (key : String) (m : MessageId) :
    (r.unbind e t key).1.copies m = r.copies m := by
  unfold Registry.unbind
  split
  · rfl
  · exact copies_modify_of_entries fun x _ => entries_mapBindings x _

theorem administered_unbindFrom (e t : DestinationId) (key : String) : Administered b (b.unbindFrom e t key).1 := by
  have h := fun ns => Administered.granted (unbind_granted b.registry e t key)
    (copies_unbind b.registry e t key) ns
  unfold unbindFrom
  simp only
  split
  · exact h [_]
  · have h1 := h []
    unfold noteAll at h1
    rwa [List.append_nil] at h1

theorem administered_bind (exchange target key : String) (arguments : BindingArguments) (replace : Bool) :
    Administered b (b.bind exchange target key arguments replace).1 := by
  unfold bind
  split
  · exact administered_refuse b _
  · exact administered_bindTo b _ _ key arguments replace

theorem administered_unbind (exchange target key : String) : Administered b (b.unbind exchange target key).1 := by
  unfold unbind
  split
  · exact administered_refuse b _
  · exact administered_unbindFrom b _ _ key

theorem administered_delete (name : String) (force : Bool) : Administered b (b.delete name force).1 := by
  unfold delete
  split
  · exact administered_refuse b _
  · rename_i r x h
    refine .deleted (delete_ok h) x.entries (fun m => ?_) _
    obtain ⟨d, y, -, hy, -, -, rfl, rfl⟩ := delete_eq_ok.1 h
    exact copies_deleted hy name y.name

/-- What a deletion that is granted makes of a broker. -/
theorem delete_granted {name : String} {force : Bool} (h : (b.delete name force).2 = .ok ()) :
    ∃ d x ns, b.registry.lookup name = some d ∧ b.registry.get? d = some x ∧ x.isSystem = false ∧
      (force = true ∨ b.registry.dependants d name = []) ∧
      (b.delete name force).1 = (({ b with
        registry := ((b.registry.mapRegistered (forget d name)).depart d x.name).publish .deleted d } :
          Broker).releaseEntries x.entries).noteAll ns := by
  unfold delete at h ⊢
  cases heq : b.registry.delete name force with
  | error e =>
    rw [heq] at h
    cases h
  | ok z =>
    obtain ⟨d, x, hd, hx, hsys, free, hr, hz⟩ := delete_eq_ok.1 heq
    refine ⟨d, x, deletionNotices z.1 z.2, hd, hx, hsys, free, ?_⟩
    simp only [hr, hz]

end Broker
end MessageBroker
