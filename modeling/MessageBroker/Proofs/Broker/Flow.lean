import MessageBroker.Proofs.Registry.Requests
import MessageBroker.Broker.Topology
import MessageBroker.Broker.Publish
/-!
# What flows through the queues

`Flow` says what was taken off the queues and what was placed on them between one registry and a later one: on every
queue that is not deleted, what was taken and what is left is what was there and what was placed.  Requests neither
take nor place anything (`Granted.flow`).
-/
namespace MessageBroker

/-- What is placed on one queue, in order. -/
def onQueue (q : DestinationId) (ps : List PendingEnqueue) : List QueueEntry :=
  (ps.filter (·.queue == q)).map (·.entry)

theorem onQueue_append (q : DestinationId) (ps ps' : List PendingEnqueue) :
    onQueue q (ps ++ ps') = onQueue q ps ++ onQueue q ps' := by
  unfold onQueue
  rw [List.filter_append, List.map_append]

theorem onQueue_singleton (q : DestinationId) (p : PendingEnqueue) :
    onQueue q [p] = if p.queue = q then [p.entry] else [] := by
  unfold onQueue
  by_cases h : p.queue = q <;> simp [h]

theorem onQueue_eq_nil {q : DestinationId} {ps : List PendingEnqueue} (h : ∀ p ∈ ps, p.queue ≠ q) :
    onQueue q ps = [] := by
  unfold onQueue
  rw [List.filter_eq_nil_iff.2 fun p hp => by simpa using h p hp]
  rfl

theorem onQueue_map_self (q : DestinationId) (es : List QueueEntry) : onQueue q (es.map (⟨q, ·⟩)) = es := by
  unfold onQueue
  rw [List.filter_eq_self.2 fun p hp => by obtain ⟨e, -, rfl⟩ := List.mem_map.1 hp; simp, List.map_map]
  exact List.map_id es

theorem onQueue_map_of_ne {q q' : DestinationId} (h : q ≠ q') (es : List QueueEntry) :
    onQueue q' (es.map (⟨q, ·⟩)) = [] :=
  onQueue_eq_nil fun p hp => by obtain ⟨e, -, rfl⟩ := List.mem_map.1 hp; exact h

namespace Registry

/-- The entries on a queue; there are none where there is no queue. -/
def entriesOf (r : Registry) (q : DestinationId) : List QueueEntry := ((r.get? q).map Destination.entries).getD []

/-- A queue was made with this identity, and may have been deleted. -/
def HasQueue (r : Registry) (q : DestinationId) : Prop := ∃ x, r.get? q = some x ∧ x.kind = .queue

/-- What may be placed together: on queues that were made, and on each once. -/
structure Aimed (r : Registry) (ps : List PendingEnqueue) : Prop where
  nodup : (ps.map (·.queue)).Nodup
  made : ∀ p ∈ ps, r.HasQueue p.queue

structure Flow (r r' : Registry) (taken placed : List PendingEnqueue) : Prop where
  /-- What was made stays what it is, and once deleted it stays so. -/
  kept : ∀ d x, r.get? d = some x → ∃ x', r'.get? d = some x' ∧ x'.kind = x.kind ∧
    (x.deleted = true → x'.deleted = true)
  aimed : ∀ p ∈ taken ++ placed, r'.HasQueue p.queue
  entries : ∀ q x, r'.get? q = some x → x.deleted = false →
    onQueue q taken ++ x.entries = r.entriesOf q ++ onQueue q placed

variable {r r' r'' : Registry}

theorem entriesOf_some {q : DestinationId} {x : Destination} (h : r.get? q = some x) : r.entriesOf q = x.entries := by
  unfold entriesOf
  rw [h]
  rfl

theorem entriesOf_none {q : DestinationId} (h : r.get? q = none) : r.entriesOf q = [] := by
  unfold entriesOf
  rw [h]
  rfl

namespace Flow

variable {taken taken' placed placed' : List PendingEnqueue}

theorem refl (r : Registry) : Flow r r [] [] := by
  refine ⟨fun d x hx => ⟨x, hx, rfl, id⟩, fun p hp => (List.not_mem_nil hp).elim, fun q x hx _ => ?_⟩
  rw [entriesOf_some hx]
  exact (List.append_nil _).symm

theorem hasQueue (h : Flow r r' taken placed) {q : DestinationId} (hq : r.HasQueue q) : r'.HasQueue q := by
  obtain ⟨x, hx, hk⟩ := hq
  obtain ⟨x', hx', hk', -⟩ := h.kept q x hx
  exact ⟨x', hx', hk'.trans hk⟩

theorem keeps_aimed (h : Flow r r' taken placed) {ps : List PendingEnqueue} (hps : r.Aimed ps) : r'.Aimed ps :=
  ⟨hps.nodup, fun p hp => h.hasQueue (hps.made p hp)⟩

/-- Flows add up.  A queue that is made only in the second part had nothing in the first. -/
theorem trans (h : Flow r r' taken placed) (h' : Flow r' r'' taken' placed') :
    Flow r r'' (taken ++ taken') (placed ++ placed') := by
  refine ⟨fun d x hx => ?_, fun p hp => ?_, fun q x'' hx'' hlive => ?_⟩
  · obtain ⟨x', hx', hk, hd⟩ := h.kept d x hx
    obtain ⟨x'', hx'', hk', hd'⟩ := h'.kept d x' hx'
    exact ⟨x'', hx'', hk'.trans hk, fun hx => hd' (hd hx)⟩
  · simp only [List.mem_append] at hp
    rcases hp with (hp | hp) | (hp | hp)
    · exact h'.hasQueue (h.aimed p (List.mem_append_left _ hp))
    · exact h'.aimed p (List.mem_append_left _ hp)
    · exact h'.hasQueue (h.aimed p (List.mem_append_right _ hp))
    · exact h'.aimed p (List.mem_append_right _ hp)
  · have h2 := h'.entries q x'' hx'' hlive
    have h1 : onQueue q taken ++ r'.entriesOf q = r.entriesOf q ++ onQueue q placed := by
      cases hx' : r'.get? q with
      | some x' =>
        obtain ⟨y, hy, -, hd⟩ := h'.kept q x' hx'
        rw [hx''] at hy
        cases hy
        rw [entriesOf_some hx']
        refine h.entries q x' hx' (Bool.eq_false_iff.2 fun hx => ?_)
        rw [hd hx] at hlive
        cases hlive
      | none =>
        have hnone : ∀ p ∈ taken ++ placed, p.queue ≠ q := fun p hp he => by
          obtain ⟨y, hy, -⟩ := h.aimed p hp
          rw [he, hx'] at hy
          cases hy
        have hr : r.get? q = none := Option.eq_none_iff_forall_ne_some.2 fun x hx => by
          obtain ⟨y, hy, -⟩ := h.kept q x hx
          rw [hx'] at hy
          cases hy
        rw [entriesOf_none hx', entriesOf_none hr,
          onQueue_eq_nil fun p hp => hnone p (List.mem_append_left _ hp),
          onQueue_eq_nil fun p hp => hnone p (List.mem_append_right _ hp)]
    rw [onQueue_append, onQueue_append, List.append_assoc, h2, ← List.append_assoc, h1, List.append_assoc]

end Flow

/-! ## What changes a destination without any flow -/

/-- A destination became another one without losing entries, unless it was deleted. -/
structure Holds (x x' : Destination) : Prop where
  kind : x'.kind = x.kind
  deleted : x.deleted = true → x'.deleted = true
  entries : x'.deleted = false → x'.entries = x.entries

theorem Holds.refl (x : Destination) : Holds x x := ⟨rfl, id, fun _ => rfl⟩

theorem holds_mapBindings (x : Destination) (f : BindingTable → BindingTable) : Holds x (x.mapBindings f) := by
  obtain ⟨_, _, _, _, _, body⟩ := x
  cases body <;> exact ⟨rfl, id, fun _ => rfl⟩

theorem holds_forget (d : DestinationId) (name : String) (i : DestinationId) (x : Destination) :
    Holds x (forget d name i x) := by
  have hm := holds_mapBindings (if dependsOn d name i x then { x with fallback := none } else x)
    fun t => (t.removeDestination d).2
  refine ⟨hm.kind.trans ?_, fun hd => hm.deleted ?_, fun hl => (hm.entries hl).trans ?_⟩
  · split <;> rfl
  · split <;> exact hd
  · split <;> rfl

theorem holds_bury (x : Destination) : Holds x (bury x) := by
  obtain ⟨_, _, _, _, _, body⟩ := x
  cases body with
  | queue q => exact ⟨rfl, fun _ => rfl, fun hl => by cases hl⟩
  | exchange e => exact ⟨rfl, fun _ => rfl, fun hl => by cases hl⟩

/-- **Changing destinations in place lets nothing flow** if each holds what it held. -/
theorem Flow.of_map (g : DestinationId → Destination → Destination) (hget : ∀ d, r'.get? d = (r.get? d).map (g d))
    (hg : ∀ d x, r.get? d = some x → Holds x (g d x)) : Flow r r' [] [] := by
  refine ⟨fun d x hx => ⟨g d x, by rw [hget, hx]; rfl, (hg d x hx).kind, (hg d x hx).deleted⟩,
    fun p hp => (List.not_mem_nil hp).elim, fun q x' hx' hlive => ?_⟩
  rw [hget] at hx'
  obtain ⟨x, hx, rfl⟩ := Option.map_eq_some_iff.1 hx'
  rw [entriesOf_some hx, (hg q x hx).entries hlive]
  exact (List.append_nil _).symm

theorem flow_modify (r : Registry) (d : DestinationId) (f : Destination → Destination)
    (hf : ∀ x, r.get? d = some x → Holds x (f x)) : Flow r (r.modify d f) [] [] := by
  refine .of_map _ (fun i => get?_modify r d i f) fun i x hx => ?_
  split
  · rename_i hi
    exact hf x (hi ▸ hx)
  · exact .refl x

theorem flow_add (r : Registry) {x : Destination} (blank : Blank x) : Flow r (r.add x).1 [] [] := by
  refine ⟨fun d y hy => ⟨y, ?_, rfl, id⟩, fun p hp => (List.not_mem_nil hp).elim, fun q y hy _ => ?_⟩
  · rw [get?_add, if_neg (Nat.ne_of_lt (get?_lt hy)), hy]
  · rw [get?_add] at hy
    split at hy
    · rename_i hq
      cases hy
      rw [entriesOf_none (List.getElem?_eq_none (Nat.le_of_eq hq.symm)), blank.empty]
      rfl
    · rw [entriesOf_some hy]
      exact (List.append_nil _).symm

/-- **A request lets nothing flow.** -/
theorem Granted.flow (hg : r.Granted r') : Flow r r' [] [] := by
  cases hg with
  | unchanged => exact .refl r
  | created x blank free suits => exact flow_add r blank
  | alternateSet name d x f found at_d suits => exact flow_modify r d _ fun _ _ => ⟨rfl, id, fun _ => rfl⟩
  | bound e x y b replace at_e live target target_live other parsed =>
    exact flow_modify r e _ fun z _ => holds_mapBindings z _
  | unbound e t key x at_e => exact flow_modify r e _ fun z _ => holds_mapBindings z _
  | deleted name d x found at_d ordinary =>
    have h1 : Flow r (r.mapRegistered (forget d name)) [] [] := by
      refine .of_map _ (get?_mapRegistered r _) fun i y _ => ?_
      split
      · exact holds_forget d name i y
      · exact .refl y
    have h2 : Flow (r.mapRegistered (forget d name)) ((r.mapRegistered (forget d name)).depart d x.name) [] [] := by
      refine .of_map _ (get?_depart _ d x.name) fun i y _ => ?_
      split
      · exact holds_bury y
      · exact .refl y
    exact (h1.trans h2).trans
      (.of_map (fun _ y => y) (fun i => by rw [get?_publish, Option.map_id']) fun _ y _ => .refl y)

/-! ## Placing and taking -/

/-- **What happens on one queue** is all that flows when only that queue is changed. -/
theorem flow_mapQueue {q : DestinationId} {x : Destination} {c : Queue} (hx : r.get? q = some x)
    (body : x.body = .queue c) (f : Queue → Queue) (taken placed : List QueueEntry)
    (heq : taken ++ (f c).entries = c.entries ++ placed) :
    Flow r (r.modify q (·.mapQueue f)) (taken.map (⟨q, ·⟩)) (placed.map (⟨q, ·⟩)) := by
  have hmap : x.mapQueue f = { x with body := .queue (f c) } := by
    unfold Destination.mapQueue
    rw [body]
  have hself : (r.modify q (·.mapQueue f)).get? q = some { x with body := .queue (f c) } := by
    rw [get?_modify_self, hx, Option.map_some, hmap]
  refine ⟨fun d y hy => ?_, fun p hp => ?_, fun d y hy _ => ?_⟩
  · by_cases hd : q = d
    · subst hd
      rw [hx] at hy
      cases hy
      exact ⟨_, hself, by simp [Destination.kind, body], id⟩
    · exact ⟨y, by rw [get?_modify_of_ne r hd, hy], rfl, id⟩
  · have hpq : p.queue = q := by
      simp only [List.mem_append, List.mem_map] at hp
      rcases hp with ⟨e, -, rfl⟩ | ⟨e, -, rfl⟩ <;> rfl
    rw [hpq]
    exact ⟨_, hself, rfl⟩
  · by_cases hd : q = d
    · subst hd
      rw [hself] at hy
      cases hy
      rw [entriesOf_some hx, onQueue_map_self, onQueue_map_self]
      simpa [Destination.entries, body] using heq
    · rw [get?_modify_of_ne r hd] at hy
      rw [entriesOf_some hy, onQueue_map_of_ne hd, onQueue_map_of_ne hd]
      exact (List.append_nil _).symm

end Registry

namespace Broker

open Registry

theorem flow_place {b : Broker} {q : DestinationId} (hq : b.registry.HasQueue q) (entry : QueueEntry) :
    Flow b.registry (b.place q entry).registry [] [⟨q, entry⟩] := by
  obtain ⟨x, hx, hk⟩ := hq
  unfold place
  split
  · rename_i dead
    refine ⟨fun d y hy => ⟨y, hy, rfl, id⟩, fun p hp => ?_, fun d y hy hl => ?_⟩
    · rw [List.nil_append, List.mem_singleton] at hp
      subst hp
      exact ⟨x, hx, hk⟩
    · have hne : q ≠ d := fun he => by
        subst he
        rw [live?_eq_some.2 ⟨hy, hl⟩] at dead
        cases dead
      rw [entriesOf_some hy, onQueue_singleton, if_neg hne]
      exact (List.append_nil _).symm
  · obtain ⟨c, body⟩ : ∃ c, x.body = .queue c := by
      unfold Destination.kind at hk
      split at hk
      · exact ⟨_, ‹_›⟩
      · cases hk
    exact flow_mapQueue hx body _ [] [entry] rfl

theorem flow_pop (b : Broker) (q : DestinationId) :
    Flow b.registry (b.pop q).1.registry ((b.pop q).2.toList.map (⟨q, ·⟩)) [] := by
  unfold pop
  split
  · rename_i entry rest h
    obtain ⟨x, hx, hes⟩ := Option.map_eq_some_iff.1 h
    obtain ⟨c, body⟩ : ∃ c, x.body = .queue c := by
      unfold Destination.entries at hes
      split at hes
      · exact ⟨_, ‹_›⟩
      · cases hes
    simp only [Destination.entries, body] at hes
    refine flow_mapQueue hx body _ [entry] [] ?_
    rw [hes]
    exact (List.append_nil _).symm
  · exact .refl b.registry

end Broker
end MessageBroker
