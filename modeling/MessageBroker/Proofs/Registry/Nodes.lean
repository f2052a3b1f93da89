import Mathlib.Data.List.TakeWhile
import MessageBroker.Proofs.Broker.Lasting
import MessageBroker.Proofs.Registry.Removal
import MessageBroker.Proofs.Routing.Serving
/-!
# Nodes that are made for a link

A link that asks for a node of its own is made a queue, whose name it records and under which the queue is deleted again.
As long as nobody else takes that name, or chooses the queue for an alternate, the name that is recorded leads to the one
queue of the link that is registered, if any is (`Owns`), whatever becomes of the link (`Owns.tends`).
-/
namespace MessageBroker
namespace Registry

/-- Destinations are still what they were, and what was deleted still is. -/
def Ages (r r' : Registry) : Prop :=
  ∀ d x, r.get? d = some x → ∃ x', r'.get? d = some x' ∧ x'.name = x.name ∧ x'.kind = x.kind ∧
    (x.deleted = true → x'.deleted = true)

/-- The destinations that were made between one registry and a later one. -/
def since (r r' : Registry) : List DestinationId :=
  List.range' r.destinations.length (r'.destinations.length - r.destinations.length)

/-- A registry with a queue that was made for a link. -/
def withNode (r : Registry) (link : String) : Registry :=
  (r.add (.newQueue (r.nextDynamicName link) false r.settings.queueCapacity none)).1

/-- A registry whose node of that name was deleted, if there was one and nobody used it. -/
def dropNode (r : Registry) (own : Option String) : Registry :=
  match own with
  | none => r
  | some name => match r.delete name false with
    | .ok (r', _) => r'
    | .error _ => r

/-- **What becomes of a link's node**, and of the name that the link has recorded: nothing, or one is made because there is
none, or it is dropped. -/
inductive Tends (r : Registry) (link : String) (own : Option String) : Registry → Option String → Prop where
  | kept {r' : Registry} (serves : r.Serves r') : Tends r link own r' own
  | made {r' : Registry} (missing : own.bind r.resolve = none) (serves : (r.withNode link).Serves r') :
      Tends r link own r' (some (r.nextDynamicName link))
  | dropped {r₁ r' : Registry} (before : r.Serves r₁) (consistent : r.Consistent → r₁.Consistent)
      (serves : (r₁.dropNode own).Serves r') : Tends r link own r' none

/-- **A link owns nodes**: those in the list were made for it, and `own` is the name that it has recorded. -/
structure Owns (r : Registry) (nodes : List DestinationId) (own : Option String) : Prop where
  queue : ∀ d ∈ nodes, r.HasQueue d
  unused : ∀ d ∈ nodes, ∀ i x, r.registered? i = some x → x.alternate ≠ some d
  /-- A node that is registered is the one whose name is recorded. -/
  recorded : ∀ d ∈ nodes, ∀ x, r.registered? d = some x → own = some x.name
  named : ∀ name, own = some name → '/' ∉ name.toList ∧ ∃ d ∈ nodes, ∃ x, r.get? d = some x ∧ x.name = name
  found : ∀ name d, own = some name → r.lookup name = some d → d ∈ nodes

variable {r r' r'' : Registry} {link : String} {own own' : Option String} {nodes : List DestinationId}

/-! ## What stays -/

theorem Ages.refl (r : Registry) : r.Ages r := fun _ x hx => ⟨x, hx, rfl, rfl, id⟩

theorem Ages.trans (h : r.Ages r') (h' : r'.Ages r'') : r.Ages r'' := by
  intro d x hx
  obtain ⟨x', hx', name, kind, deleted⟩ := h d x hx
  obtain ⟨x'', hx'', name', kind', deleted'⟩ := h' d x' hx'
  exact ⟨x'', hx'', name'.trans name, kind'.trans kind, fun hdel => deleted' (deleted hdel)⟩

theorem Granted.ages (h : r.Granted r') : r.Ages r' := by
  intro d x hx
  obtain ⟨x', hx', kind, deleted⟩ := h.flow.kept d x hx
  obtain ⟨y, hy, lasts⟩ := h.lasts.kept d x hx
  rw [hx'] at hy
  cases hy
  exact ⟨x', hx', lasts.name, kind, deleted⟩

theorem Serves.ages (h : r.Serves r') : r.Ages r' := by
  intro d x hx
  obtain ⟨x', hx', same⟩ := h.same d x hx
  refine ⟨x', hx', same.name, ?_, fun hdel => same.deleted.trans hdel⟩
  unfold Destination.kind
  cases hbody : x.body with
  | exchange e => rw [same.exchange hbody]
  | queue q =>
    obtain ⟨q', hq', -⟩ := same.queue hbody
    rw [hq']

/-- What was there and is registered has been registered all along. -/
theorem Ages.registered (h : r.Ages r') (hc : r.Consistent) (hc' : r'.Consistent) {d : DestinationId}
    {x x' : Destination} (hx : r.get? d = some x) (hx' : r'.registered? d = some x') :
    r.registered? d = some x ∧ x'.name = x.name := by
  obtain ⟨y, hy, name, -, deleted⟩ := h d x hx
  rw [(registered?_eq_some.1 hx').2] at hy
  cases hy
  refine ⟨hc.registered_of_live hx (Bool.eq_false_iff.2 fun hdel => ?_), name⟩
  rw [hc'.registered_live hx'] at deleted
  cases deleted hdel

theorem since_of_length (h : r'.destinations.length = r.destinations.length) : r.since r' = [] := by
  unfold since
  rw [h, Nat.sub_self]
  rfl

theorem length_add (r : Registry) (x : Destination) :
    (r.add x).1.destinations.length = r.destinations.length + 1 := by
  unfold add publish
  simp only
  split <;> exact List.length_append

theorem length_delete {name : String} {force : Bool} {z : Deletion} (h : r.delete name force = .ok (r', z)) :
    r'.destinations.length = r.destinations.length := by
  obtain ⟨d, x, -, -, -, -, rfl, -⟩ := delete_eq_ok.1 h
  unfold publish
  split <;> simp [depart, unregister, modify, mapRegistered]

theorem length_dropNode (r : Registry) (own : Option String) :
    (r.dropNode own).destinations.length = r.destinations.length := by
  unfold dropNode
  split
  · rfl
  · split
    · exact length_delete ‹_›
    · rfl

theorem Consistent.dropNode (h : r.Consistent) (own : Option String) : (r.dropNode own).Consistent := by
  unfold Registry.dropNode
  split
  · exact h
  · split
    · exact (delete_ok ‹_›).consistent h
    · exact h

theorem serves_dynamicNodes (r : Registry) (nodes : List DestinationId) : r.Serves { r with dynamicNodes := nodes } :=
  ⟨rfl, rfl, rfl, fun _ x hx => ⟨x, hx, .refl x⟩⟩

/-! ## Names of nodes -/

theorem not_slash_of_digit {n : Nat} {c : Char} (h : c ∈ (toString n).toList) : c ≠ '/' := by
  rintro rfl
  rw [Nat.toString_eq_repr, Nat.toList_repr] at h
  have hdigit := Nat.isDigit_of_mem_toDigits (by decide) (by decide) h
  revert hdigit
  decide

/-- The name of a node is no address of an exchange, if the name of the link is none. -/
theorem not_slash_nextDynamicName (r : Registry) (plain : '/' ∉ link.toList) :
    '/' ∉ (r.nextDynamicName link).toList := by
  have hname : ∀ n, '/' ∉ (dynamicName link n).toList := fun n => by
    unfold dynamicName
    simp only [String.toList_append, List.mem_append, not_or]
    exact ⟨⟨⟨by decide, plain⟩, by decide⟩, fun h => not_slash_of_digit h rfl⟩
  unfold nextDynamicName freshName
  split
  · simp only [String.toList_append, String.toList_ofList, List.mem_append, not_or]
    exact ⟨hname _, fun h => absurd (List.eq_of_mem_replicate h) (by decide)⟩
  · exact hname _

/-- Such a name leads to the destination that is registered under it, or nowhere. -/
theorem resolve_of_not_slash {name : String} (plain : '/' ∉ name.toList) :
    r.resolve name = (r.lookup name).map (⟨·, none⟩) := by
  unfold resolve
  cases r.lookup name with
  | some d => rfl
  | none =>
    have hdrop : name.toList.dropWhile (· != '/') = [] :=
      List.dropWhile_eq_nil_iff.2 fun c hc => bne_iff_ne.2 fun he => plain (he ▸ hc)
    simp [splitAddress, hdrop]

/-! ## Owning -/

theorem HasQueue.isSystem {d : DestinationId} {x : Destination} (h : r.HasQueue d) (hx : r.get? d = some x) :
    x.isSystem = false := by
  obtain ⟨y, hy, kind⟩ := h
  rw [hx] at hy
  cases hy
  unfold Destination.kind at kind
  unfold Destination.isSystem
  split at kind
  · rfl
  · cases kind

theorem Ages.hasQueue (h : r.Ages r') {d : DestinationId} (hd : r.HasQueue d) : r'.HasQueue d := by
  obtain ⟨x, hx, kind⟩ := hd
  obtain ⟨x', hx', -, kind', -⟩ := h d x hx
  exact ⟨x', hx', kind'.trans kind⟩

/-- What a deletion leaves registered was so before, and has no alternate that it did not have. -/
theorem registered?_remove (hc : r.Consistent) {d : DestinationId} {x : Destination} (hx : r.registered? d = some x)
    {i : DestinationId} {y' : Destination} (hy' : (r.remove d x.name).registered? i = some y') :
    i ≠ d ∧ ∃ y, r.registered? i = some y ∧ y' = y.without d := by
  obtain ⟨hi, hget'⟩ := registered?_eq_some.1 hy'
  rw [ids_remove, List.mem_filter, bne_iff_ne] at hi
  have hlookup := (hc.lookup_iff x.name d).2 ⟨x, hx, rfl⟩
  obtain ⟨y, hy, -⟩ := (hc.mem_ids i).1 hi.1
  have hreg := registered?_eq_some.2 ⟨hi.1, hy⟩
  rw [get?_remove_of_registered hc hlookup (registered?_eq_some.1 hx).2 hreg, if_neg hi.2] at hget'
  exact ⟨hi.2, y, hreg, (Option.some.inj hget').symm⟩

namespace Owns

theorem nothing (r : Registry) : r.Owns [] none := by
  refine ⟨?_, ?_, ?_, ?_, ?_⟩
  · intro d hd
    cases hd
  · intro d hd
    cases hd
  · intro d hd
    cases hd
  · intro name hname
    cases hname
  · intro name d hname
    cases hname

/-- The registered node of a link, and the name that leads to it. -/
theorem lookup (h : r.Owns nodes own) (hc : r.Consistent) {d : DestinationId} (hd : d ∈ nodes) {x : Destination}
    (hx : r.registered? d = some x) :
    own = some x.name ∧ r.lookup x.name = some d ∧ own.bind r.resolve = some ⟨d, none⟩ := by
  have hown := h.recorded d hd x hx
  have hlookup := (hc.lookup_iff x.name d).2 ⟨x, hx, rfl⟩
  refine ⟨hown, hlookup, ?_⟩
  rw [hown, Option.bind_some, resolve_of_not_slash (h.named _ hown).1, hlookup]
  rfl

/-- Two nodes of a link are not registered at once. -/
theorem unique (h : r.Owns nodes own) (hc : r.Consistent) {d d' : DestinationId} (hd : d ∈ nodes) (hd' : d' ∈ nodes)
    {x x' : Destination} (hx : r.registered? d = some x) (hx' : r.registered? d' = some x') : d' = d := by
  obtain ⟨hown, hlookup, -⟩ := h.lookup hc hd hx
  obtain ⟨hown', hlookup', -⟩ := h.lookup hc hd' hx'
  rw [hown] at hown'
  rw [← Option.some.inj hown', hlookup] at hlookup'
  exact (Option.some.inj hlookup').symm

/-- **What else happens leaves a link its nodes**, as long as their names are not taken and none becomes an alternate. -/
theorem spared (h : r.Owns nodes own) (hc : r.Consistent) (hc' : r'.Consistent) (ages : r.Ages r')
    (fresh : ∀ d ∈ nodes, ∀ x, r.get? d = some x → ∀ i y, r'.registered? i = some y → r.registered? i = none →
      y.name ≠ x.name)
    (unused : ∀ d ∈ nodes, ∀ i x, r'.registered? i = some x → x.alternate ≠ some d) : r'.Owns nodes own := by
  refine ⟨fun d hd => ages.hasQueue (h.queue d hd), unused, fun d hd x' hx' => ?_, fun name hname => ?_,
    fun name i hname hi => ?_⟩
  · obtain ⟨x, hx, -⟩ := h.queue d hd
    obtain ⟨hreg, name⟩ := ages.registered hc hc' hx hx'
    rw [name]
    exact h.recorded d hd x hreg
  · obtain ⟨plain, d, hd, x, hx, rfl⟩ := h.named name hname
    obtain ⟨x', hx', name, -⟩ := ages d x hx
    exact ⟨plain, d, hd, x', hx', name⟩
  · obtain ⟨y, hy, hyname⟩ := (hc'.lookup_iff name i).1 hi
    cases hold : r.registered? i with
    | none =>
      obtain ⟨-, d, hd, x, hx, rfl⟩ := h.named name hname
      exact absurd hyname (fresh d hd x hx i y hy hold)
    | some z =>
      obtain ⟨-, hz⟩ := ages.registered hc hc' (registered?_eq_some.1 hold).2 hy
      exact h.found name i hname ((hc.lookup_iff name i).2 ⟨z, hold, hz.symm.trans hyname⟩)

theorem serves (h : r.Owns nodes own) (hc : r.Consistent) (hc' : r'.Consistent) (serves : r.Serves r') :
    r'.Owns nodes own := by
  -- what is registered later was there before, with the same alternate
  have hback : ∀ i y, r'.registered? i = some y → ∃ x, r.registered? i = some x ∧ y.alternate = x.alternate := by
    intro i y hy
    have hget := (registered?_eq_some.1 hy).2
    obtain ⟨x, hx⟩ : ∃ x, r.get? i = some x :=
      ⟨_, List.getElem?_eq_getElem (Nat.lt_of_lt_of_le (get?_lt hget) (Nat.le_of_eq serves.length))⟩
    obtain ⟨x', hx', same⟩ := serves.same i x hx
    rw [hget] at hx'
    cases hx'
    exact ⟨x, (serves.ages.registered hc hc' hx hy).1, same.alternate⟩
  refine h.spared hc hc' serves.ages (fun d hd x hx i y hy hnew => ?_) fun d hd i y hy => ?_
  · obtain ⟨z, hz, -⟩ := hback i y hy
    rw [hnew] at hz
    cases hz
  · obtain ⟨x, hx, halternate⟩ := hback i y hy
    rw [halternate]
    exact h.unused d hd i x hx

/-- **A queue that is made for a link is its only one.** -/
theorem withNode (h : r.Owns nodes own) (hc : r.Consistent) (plain : '/' ∉ link.toList)
    (missing : own.bind r.resolve = none) :
    (r.withNode link).Owns (nodes ++ [r.destinations.length]) (some (r.nextDynamicName link)) := by
  let queue : Destination := .newQueue (r.nextDynamicName link) false r.settings.queueCapacity none
  have hlt : ∀ d ∈ nodes, d ≠ r.destinations.length := fun d hd => by
    obtain ⟨x, hx, -⟩ := h.queue d hd
    exact Nat.ne_of_lt (get?_lt hx)
  have hnew : (r.withNode link).get? r.destinations.length = some queue := by
    unfold Registry.withNode
    rw [get?_add, if_pos rfl]
  refine ⟨fun d hd => ?_, fun d hd i x hx => ?_, fun d hd x hx => ?_, fun name hname => ?_, fun name d hname hd => ?_⟩
  · rcases List.mem_append.1 hd with hd | hd
    · obtain ⟨x, hx, kind⟩ := h.queue d hd
      refine ⟨x, ?_, kind⟩
      unfold Registry.withNode
      rw [get?_add, if_neg (hlt d hd), hx]
    · rw [List.mem_singleton.1 hd]
      exact ⟨queue, hnew, rfl⟩
  · unfold Registry.withNode at hx
    rw [registered?_add] at hx
    split at hx
    · cases hx
      exact fun halternate => by cases halternate
    · rcases List.mem_append.1 hd with hd | hd
      · exact h.unused d hd i x hx
      · rw [List.mem_singleton.1 hd]
        intro halternate
        obtain ⟨a, ha, htarget⟩ := Option.map_eq_some_iff.1 halternate
        obtain ⟨-, y, hy, -⟩ := hc.alternate i x a hx ha
        rw [htarget] at hy
        exact Nat.lt_irrefl _ (get?_lt (registered?_eq_some.1 hy).2)
  · unfold Registry.withNode at hx
    rw [registered?_add] at hx
    split at hx
    · cases hx
      rfl
    · rename_i hne
      rcases List.mem_append.1 hd with hd | hd
      · rw [(h.lookup hc hd hx).2.2] at missing
        cases missing
      · exact absurd (List.mem_singleton.1 hd) hne
  · cases hname
    exact ⟨r.not_slash_nextDynamicName plain, _, List.mem_append_right _ (List.mem_singleton_self _), queue, hnew, rfl⟩
  · cases hname
    unfold Registry.withNode at hd
    rw [lookup_add] at hd
    have hd : some r.destinations.length = some d := hd.symm.trans (if_pos rfl) |>.symm
    rw [← Option.some.inj hd]
    exact List.mem_append_right _ (List.mem_singleton_self _)

/-- Nobody is in the way of a node's deletion. -/
theorem dependants_eq_nil (h : r.Owns nodes own) (hc : r.Consistent) {d : DestinationId} (hd : d ∈ nodes)
    {x : Destination} (hx : r.registered? d = some x) : r.dependants d x.name = [] := by
  obtain ⟨-, hlookup, -⟩ := h.lookup hc hd hx
  refine List.filterMap_eq_nil_iff.2 fun i hi => Option.eq_none_iff_forall_ne_some.2 fun y hy => ?_
  obtain ⟨hy, hdepends⟩ := Option.filter_eq_some_iff.1 hy
  have hreg := registered?_eq_some.2 ⟨hi, hy⟩
  exact h.unused d hd i y hreg ((dependsOn_iff hc hlookup (registered?_eq_some.1 hx).2 hreg).1 hdepends)

/-- A node that is registered can be deleted. -/
theorem delete_eq (h : r.Owns nodes own) (hc : r.Consistent) {d : DestinationId} (hd : d ∈ nodes) {x : Destination}
    (hx : r.registered? d = some x) : ∃ z, r.delete x.name false = .ok (r.remove d x.name, z) := by
  obtain ⟨-, hlookup, -⟩ := h.lookup hc hd hx
  have hget := (registered?_eq_some.1 hx).2
  exact ⟨_, delete_eq_ok.2 ⟨d, x, hlookup, hget, (h.queue d hd).isSystem hget, .inr (h.dependants_eq_nil hc hd hx), rfl,
    rfl⟩⟩

/-- A link of whose nodes none is registered has none recorded. -/
theorem left (h : r.Owns nodes own) (ages : r.Ages r') (left : ∀ d ∈ nodes, ∀ x, r'.registered? d ≠ some x)
    (unused : ∀ d ∈ nodes, ∀ i x, r'.registered? i = some x → x.alternate ≠ some d) : r'.Owns nodes none := by
  refine ⟨fun d hd => ages.hasQueue (h.queue d hd), unused, fun d hd x hx => absurd hx (left d hd x),
    fun _ hname => ?_, fun _ _ hname => ?_⟩
  · cases hname
  · cases hname

/-- **A link that drops its node has none left.** -/
theorem dropNode (h : r.Owns nodes own) (hc : r.Consistent) : (r.dropNode own).Owns nodes none := by
  unfold Registry.dropNode
  split
  · refine h.left (.refl r) (fun d hd x hx => ?_) h.unused
    cases h.recorded d hd x hx
  · rename_i name
    split
    · rename_i r' z hr
      obtain ⟨e, y, hlookup, hy, -, -, rfl, -⟩ := delete_eq_ok.1 hr
      obtain ⟨hreg, rfl⟩ := hc.registered_of_lookup hlookup hy
      refine h.left (delete_ok hr).ages (fun d hd x hx => ?_) fun d hd i x hx => ?_
      · obtain ⟨hne, x₀, hx₀, -⟩ := registered?_remove hc hreg hx
        obtain ⟨hrecorded, hlookup', -⟩ := h.lookup hc hd hx₀
        rw [← Option.some.inj hrecorded, hlookup] at hlookup'
        exact hne (Option.some.inj hlookup').symm
      · obtain ⟨-, x₀, hx₀, rfl⟩ := registered?_remove hc hreg hx
        intro halternate
        obtain ⟨a, ha, rfl⟩ := Option.map_eq_some_iff.1 halternate
        rw [fallback_without] at ha
        refine h.unused _ hd i x₀ hx₀ ?_
        unfold Destination.alternate
        rw [(Option.filter_eq_some_iff.1 ha).1]
        rfl
    · -- a refused deletion is none of a node
      rename_i e hr
      refine h.left (.refl r) (fun d hd x hx => ?_) h.unused
      obtain ⟨z, hz⟩ := h.delete_eq hc hd hx
      cases h.recorded d hd x hx
      rw [hr] at hz
      cases hz

end Owns

/-- A node stays what it is, or is made or dropped, whatever else is done that addresses do not see. -/
theorem Tends.serves (t : r.Tends link own r' own') (h : r'.Serves r'') : r.Tends link own r'' own' := by
  cases t with
  | kept serves => exact .kept (serves.trans h)
  | made missing serves => exact .made missing (serves.trans h)
  | dropped before consistent serves => exact .dropped before consistent (serves.trans h)

/-- Nothing is made for a link that has no node in the end. -/
theorem Tends.since_of_none (t : r.Tends link own r' none) : r.since r' = [] := by
  cases t with
  | kept serves => exact since_of_length serves.length
  | dropped before _ serves => exact since_of_length (serves.length.trans ((length_dropNode _ own).trans before.length))

/-- A link that still has a node that is registered is led to that one. -/
theorem Tends.lookup {name : String} (t : r.Tends link own r' (some name)) (hc : r.Consistent) (h : r.Owns nodes own)
    {d : DestinationId} (hd : d ∈ nodes) {x : Destination} (hx : r.registered? d = some x) : r'.lookup name = some d := by
  obtain ⟨hown, hlookup, hresolve⟩ := h.lookup hc hd hx
  cases t with
  | kept serves =>
    rw [serves.lookup, Option.some.inj hown, hlookup]
  | made missing =>
    rw [hresolve] at missing
    cases missing

/-- **A link goes on owning what was made for it**, and what is made for it now. -/
theorem Tends.owns (t : r.Tends link own r' own') (hc : r.Consistent) (hc' : r'.Consistent) (plain : '/' ∉ link.toList)
    (h : r.Owns nodes own) : r'.Owns (nodes ++ r.since r') own' := by
  cases t with
  | kept serves =>
    rw [since_of_length serves.length, List.append_nil]
    exact h.serves hc hc' serves
  | made missing serves =>
    have hsince : r.since r' = [r.destinations.length] := by
      unfold since
      rw [serves.length, withNode, length_add, Nat.add_sub_cancel_left]
      rfl
    rw [hsince]
    refine (h.withNode hc plain missing).serves (hc.add ?_ ?_ ?_) hc' serves
    · exact ⟨rfl, rfl, rfl, rfl, rfl⟩
    · exact r.lookup_freshName _
    · exact fun a ha => by cases ha
  | @dropped r₁ _ before consistent serves =>
    rw [since_of_length (serves.length.trans ((length_dropNode r₁ own).trans before.length)), List.append_nil]
    have hc₁ := consistent hc
    exact ((h.serves hc hc₁ before).dropNode hc₁).serves (hc₁.dropNode own) hc' serves

end Registry
end MessageBroker
