import MessageBroker.Proofs.Registry.Consistency
import MessageBroker.Proofs.Registry.Tables
import MessageBroker.Proofs.Routing.Walk
/-!
# What a deletion takes away

A destination that is deleted leaves both maps and loses what it holds, and every other registered one loses what leads
there (`Destination.without`); nothing else changes.  From then on it is gone (`Gone`): the invariant of the registry
alone keeps every way to it shut.
-/
namespace MessageBroker

/-- A destination without anything that leads to another one, `d`. -/
def Destination.without (x : Destination) (d : DestinationId) : Destination :=
  ({ x with fallback := x.fallback.filter (·.target != d) } : Destination).mapBindings (·.removeWhere (·.destination == d))

namespace Registry

/-- A registry after the deletion of `d`, which is registered under `name`. -/
def remove (r : Registry) (d : DestinationId) (name : String) : Registry :=
  ((r.mapRegistered (forget d name)).depart d name).publish .deleted d

/-- **What is gone for good**: deleted and in neither map, where no route ends and nothing is bound or can be. -/
structure Gone (r : Registry) (d : DestinationId) : Prop where
  deleted : ∃ x, r.get? d = some x ∧ x.deleted = true
  unregistered : r.registered? d = none
  unnamed : ∀ name, r.lookup name ≠ some d
  /-- Not by a message to an exchange, registered or only held, nor by one straight to a destination. -/
  unrouted : ∀ start message key properties, d ∉ (r.route start message key properties).1.queues ∧
    d ∉ (r.routeToQueue start message properties).queues
  unbound : ∀ e x, r.get? e = some x → x.bindings.isDestinationBound d = false ∧
    ∀ key, x.bindings.find? key d = none ∧ ∀ arguments, x.bindings.isBoundWith key d arguments = false
  unbindable : ∀ e key arguments replace, ∃ fault, r.bind e d key arguments replace = .error fault
  /-- Nor does a name of an exchange and one of a destination stand for a binding to it. -/
  unmeant : ∀ exchange target e, r.endpoints exchange target ≠ .ok (e, d)
  alternates : ∀ i x, r.registered? i = some x → x.alternate ≠ some d

variable {r : Registry} {d i : DestinationId} {x y : Destination} {name : String}

theorem toList_without (x : Destination) (d : DestinationId) :
    (x.without d).bindings.toList = x.bindings.toList.filter (·.destination != d) := by
  obtain ⟨_, _, _, _, _, body⟩ := x
  cases body with
  | queue q => rfl
  | exchange e => exact e.bindings.toList_removeWhere _

theorem forKey_without (x : Destination) (d : DestinationId) (key : String) :
    (x.without d).bindings.forKey key = (x.bindings.forKey key).filter (·.destination != d) := by
  obtain ⟨_, _, _, _, _, body⟩ := x
  cases body with
  | queue q => rfl
  | exchange e => exact e.bindings.forKey_removeWhere _ key

theorem fallback_without (x : Destination) (d : DestinationId) :
    (x.without d).fallback = x.fallback.filter (·.target != d) := fallback_mapBindings _ _

theorem fallback_bury (x : Destination) : (bury x).fallback = x.fallback := by
  unfold bury
  split <;> rfl

theorem body_without {q : Queue} (body : x.body = .queue q) : (x.without d).body = .queue q := by
  unfold Destination.without Destination.mapBindings
  simp only [body]

/-! ## Deleting -/

/-- **What is found by the name that an alternate was chosen by is the alternate itself**, so what is to be cleared is
what leads to `d`. -/
theorem dependsOn_iff (h : r.Consistent) (found : r.lookup name = some d) (at_d : r.get? d = some x)
    (hy : r.registered? i = some y) : dependsOn d name i y = true ↔ y.alternate = some d := by
  unfold dependsOn Destination.alternateName Destination.alternate
  cases hf : y.fallback with
  | none => simp
  | some a =>
    obtain ⟨hne, z, hz, hzn, -⟩ := h.alternate i y a hy hf
    have hsame : a.name = name ↔ a.target = d := hzn ▸ h.name_eq_iff found at_d hz
    simp only [Option.map_some, Bool.and_eq_true, bne_iff_ne, beq_iff_eq, Option.some.injEq, hsame]
    constructor
    · exact And.right
    · intro ht
      exact ⟨fun hi => hne (ht.trans hi.symm), ht⟩

theorem forget_eq_without (h : r.Consistent) (found : r.lookup name = some d) (at_d : r.get? d = some x)
    (hy : r.registered? i = some y) : forget d name i y = y.without d := by
  have hdep := dependsOn_iff h found at_d hy
  have hfallback : y.fallback.filter (·.target != d) = if dependsOn d name i y then none else y.fallback := by
    unfold Destination.alternate at hdep
    cases hf : y.fallback with
    | none => exact (ite_self none).symm
    | some a =>
      rw [hf, Option.map_some, Option.some.injEq] at hdep
      rw [Option.filter_some]
      by_cases ht : a.target = d
      · rw [if_pos (hdep.2 ht), if_neg (by simpa using ht)]
      · rw [if_neg (fun hd => ht (hdep.1 hd)), if_pos (by simpa using ht)]
  unfold forget Destination.without
  rw [hfallback]
  simp only
  split <;> rfl

/-- Without force nothing that is registered has `d` as its alternate. -/
theorem alternate_ne_of_dependants (h : r.Consistent) (found : r.lookup name = some d) (at_d : r.get? d = some x)
    (unused : r.dependants d name = []) (hy : r.registered? i = some y) : y.alternate ≠ some d := by
  intro ha
  obtain ⟨hi, hg⟩ := registered?_eq_some.1 hy
  have hnone := List.filterMap_eq_nil_iff.1 unused i hi
  rw [hg, Option.filter_some, if_pos ((dependsOn_iff h found at_d hy).2 ha)] at hnone
  cases hnone

theorem lookup_remove (h : r.Consistent) (found : r.lookup name = some d) (at_d : r.get? d = some x) (n : String) :
    (r.remove d name).lookup n = (r.lookup n).filter (· != d) := by
  have hgone : (r.remove d name).lookup n = if n = name then none else r.lookup n :=
    (lookup_publish _ _ _ n).trans (lookup_depart (r.mapRegistered (forget d name)) d name n)
  rw [hgone]
  by_cases hn : n = name
  · subst hn
    rw [if_pos rfl, found, Option.filter_some, if_neg (by simp)]
  · rw [if_neg hn]
    cases hl : r.lookup n with
    | none => rfl
    | some j =>
      obtain ⟨z, hz, rfl⟩ := (h.lookup_iff n j).1 hl
      have hj : j ≠ d := fun hj => hn ((h.name_eq_iff found at_d hz).2 hj)
      rw [Option.filter_some, if_pos (by simpa using hj)]

theorem ids_remove (r : Registry) (d : DestinationId) (name : String) :
    (r.remove d name).ids = r.ids.filter (· != d) := ids_publish _ _ _

theorem get?_remove (r : Registry) (d : DestinationId) (name : String) (i : DestinationId) :
    (r.remove d name).get? i = ((r.get? i).map (if i ∈ r.ids then forget d name i else id)).map
      (if d = i then bury else id) := by
  unfold remove
  rw [get?_publish, get?_depart, get?_mapRegistered]

/-- What is registered loses what leads to `d`, which loses all that it holds besides. -/
theorem get?_remove_of_registered (h : r.Consistent) (found : r.lookup name = some d) (at_d : r.get? d = some x)
    (hy : r.registered? i = some y) :
    (r.remove d name).get? i = some (if i = d then bury (y.without d) else y.without d) := by
  obtain ⟨hreg, hg⟩ := registered?_eq_some.1 hy
  rw [get?_remove, hg, if_pos hreg, Option.map_some, Option.map_some, forget_eq_without h found at_d hy]
  by_cases hi : d = i
  · rw [if_pos hi, if_pos hi.symm]
  · rw [if_neg hi, if_neg (Ne.symm hi)]
    rfl

/-- What had left the registry before stays as it is. -/
theorem get?_remove_of_left (hd : d ∈ r.ids) (hi : i ∉ r.ids) : (r.remove d name).get? i = r.get? i := by
  have hne : d ≠ i := fun he => hi (he ▸ hd)
  rw [get?_remove, if_neg hi, if_neg hne, Option.map_id]
  rfl

/-- Nothing is changed but the destinations, the maps and the events. -/
theorem remove_rest (r : Registry) (d : DestinationId) (name : String) : r.remove d name = { r with
    destinations := (r.remove d name).destinations
    names := (r.remove d name).names
    ids := (r.remove d name).ids
    events := (r.remove d name).events } := by
  unfold remove publish
  split <;> rfl

/-! ## Gone -/

/-- **What is deleted is gone**: the invariant keeps every way shut. -/
theorem Consistent.gone (h : r.Consistent) (at_d : r.get? d = some x) (hdel : x.deleted = true) : r.Gone d := by
  have hlive : ∀ y, r.live? d ≠ some y := fun y hy => by
    obtain ⟨hg, hl⟩ := live?_eq_some.1 hy
    rw [at_d] at hg
    cases hg
    rw [hdel] at hl
    cases hl
  have hreg : ∀ y, r.registered? d ≠ some y := fun y hy =>
    hlive y (live?_eq_some.2 ⟨(registered?_eq_some.1 hy).2, h.registered_live hy⟩)
  have hname : ∀ n, r.lookup n ≠ some d := fun n hn => by
    obtain ⟨y, hy, -⟩ := (h.lookup_iff n d).1 hn
    exact hreg y hy
  have hfree : ∀ e y, r.get? e = some y → ∀ b ∈ y.bindings.toList, b.destination ≠ d := fun e y hy b hb he => by
    obtain ⟨z, hz⟩ := h.bound e y hy b hb
    exact hreg z (he ▸ hz)
  refine ⟨⟨x, at_d, hdel⟩, Option.eq_none_iff_forall_ne_some.2 hreg, hname, fun start message key properties => ⟨?_, ?_⟩,
    fun e y hy => ⟨?_, fun key => ?_⟩, fun e key arguments replace => ?_, fun exchange target e hz => ?_,
    fun i y hy ha => ?_⟩
  · intro hq
    obtain ⟨y, -, hy, -⟩ := (r.route_sound start message key properties).2 d hq
    exact hlive y hy
  · -- a result straight to a destination has that one only, and only if it accepts
    unfold routeToQueue
    simp only
    split
    · rename_i hacc
      intro hq
      rw [← List.mem_singleton.1 hq, at_d] at hacc
      simp [Destination.accepts, hdel] at hacc
    · exact List.not_mem_nil
  · unfold BindingTable.isDestinationBound
    simpa using hfree e y hy
  · have hnone : y.bindings.find? key d = none := BindingTable.find?_eq_none.2 fun b hb hpair =>
      hfree e y hy b hb (congrArg Prod.snd hpair)
    refine ⟨hnone, fun arguments => ?_⟩
    unfold BindingTable.isBoundWith
    rw [hnone]
  · cases hb : r.bind e d key arguments replace with
    | error fault => exact ⟨fault, rfl⟩
    | ok z =>
      obtain ⟨r', outcome⟩ := z
      obtain ⟨-, y, -, -, hy, -⟩ := bind_eq_ok hb
      exact absurd hy (hlive y)
  · obtain ⟨e', -, hz⟩ := ok_of_bind hz
    obtain ⟨t, ht, hz⟩ := ok_of_bind hz
    cases hz
    exact hname target (require_ok ht)
  · obtain ⟨a, hf, rfl⟩ := Option.map_eq_some_iff.1 ha
    obtain ⟨-, z, hz, -⟩ := h.alternate i y a hy hf
    exact hreg z hz

end Registry
end MessageBroker
