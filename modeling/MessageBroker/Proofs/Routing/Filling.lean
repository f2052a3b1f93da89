import MessageBroker.Proofs.Registry.Requests
import MessageBroker.Proofs.Routing.Serving
/-!
# Filling queues without limit

A queue without limit takes every message, whatever is on it.  So it makes no difference to addresses and routes what is
on such queues (`Registry.Filled.resolve`, `Registry.Filled.route`).
-/
namespace MessageBroker

/-- The same destination, but for what is on it if it is a queue without limit. -/
inductive Destination.Filled (x : Destination) : Destination → Prop where
  | same : Filled x x
  | queue {q : Queue} (body : x.body = .queue q) (unlimited : q.capacity = none) (entries : List QueueEntry) :
      Filled x { x with body := .queue { q with entries } }

namespace Destination.Filled

variable {x x' x'' : Destination}

theorem trans (h : x.Filled x') (h' : x'.Filled x'') : x.Filled x'' := by
  cases h with
  | same => exact h'
  | queue body unlimited entries =>
    cases h' with
    | same => exact .queue body unlimited entries
    | queue body' unlimited' entries' =>
      cases body'
      exact .queue body unlimited entries'

theorem deleted (h : x.Filled x') : x'.deleted = x.deleted := by cases h <;> rfl

/-- What is on a queue without limit is no concern of addresses and routes. -/
theorem serves (h : x.Filled x') : x.Serves x' := by
  cases h with
  | same => exact .refl x
  | @queue q body unlimited entries =>
    refine ⟨rfl, rfl, rfl, rfl, ?_⟩
    have hroom : q.hasRoom = true := by simp [Queue.hasRoom, unlimited]
    rw [body]
    exact .queue (by simp [Queue.hasRoom, unlimited]) fun hfull => by simp [hroom] at hfull

end Destination.Filled

namespace Registry

open Routing

/-- **The same registry, but for what is on queues without limit.** -/
structure Filled (r r' : Registry) : Prop where
  rest : r' = { r with destinations := r'.destinations }
  length : r'.destinations.length = r.destinations.length
  same : ∀ d x, r.get? d = some x → ∃ x', r'.get? d = some x' ∧ x.Filled x'

/-- A live queue without limit. -/
def Unlimited (r : Registry) (d : DestinationId) : Prop :=
  ∃ x q, r.live? d = some x ∧ x.body = .queue q ∧ q.capacity = none

variable {r r' r'' : Registry}

namespace Filled

theorem refl (r : Registry) : r.Filled r := ⟨rfl, rfl, fun _ x hx => ⟨x, hx, .same⟩⟩

theorem trans (h : r.Filled r') (h' : r'.Filled r'') : r.Filled r'' := by
  refine ⟨by rw [h'.rest, h.rest], h'.length.trans h.length, fun d x hx => ?_⟩
  obtain ⟨x', hx', h1⟩ := h.same d x hx
  obtain ⟨x'', hx'', h2⟩ := h'.same d x' hx'
  exact ⟨x'', hx'', h1.trans h2⟩

theorem live? (h : r.Filled r') {d : DestinationId} {x : Destination} (live : r.live? d = some x) :
    ∃ x', r'.live? d = some x' ∧ x.Filled x' := by
  obtain ⟨hx, hl⟩ := live?_eq_some.1 live
  obtain ⟨x', hx', hs⟩ := h.same d x hx
  exact ⟨x', live?_eq_some.2 ⟨hx', hs.deleted.trans hl⟩, hs⟩

theorem unlimited (h : r.Filled r') {d : DestinationId} (hd : r.Unlimited d) : r'.Unlimited d := by
  obtain ⟨x, q, live, body, unlimited⟩ := hd
  obtain ⟨x', live', hs⟩ := h.live? live
  cases hs with
  | same => exact ⟨x, q, live', body, unlimited⟩
  | queue body' unlimited' entries => exact ⟨_, _, live', rfl, unlimited'⟩

/-! ## Addresses and routes -/

theorem serves (h : r.Filled r') : r.Serves r' := by
  have hrest := h.rest
  refine ⟨by rw [hrest], by rw [hrest], h.length, fun d x hx => ?_⟩
  obtain ⟨x', hx', hs⟩ := h.same d x hx
  exact ⟨x', hx', hs.serves⟩

theorem live?_eq_none (h : r.Filled r') {d : DestinationId} (dead : r.live? d = none) : r'.live? d = none :=
  h.serves.live?_eq_none dead

theorem exchange? (h : r.Filled r') (d : DestinationId) :
    (r'.get? d).bind Destination.exchange? = (r.get? d).bind Destination.exchange? := h.serves.exchange? d

/-- **An address leads to where it led.** -/
theorem resolve (h : r.Filled r') (address : String) : r'.resolve address = r.resolve address := h.serves.resolve address

/-- **A message goes where it went**, and there is the same to tell about its way. -/
theorem route (h : r.Filled r') (exchange : DestinationId) (message : Message) (key : String)
    (properties : InstanceProperties) :
    r'.route exchange message key properties = r.route exchange message key properties :=
  h.serves.route exchange message key properties

theorem routeToQueue (h : r.Filled r') (queue : DestinationId) (message : Message) (properties : InstanceProperties) :
    r'.routeToQueue queue message properties = r.routeToQueue queue message properties :=
  h.serves.routeToQueue queue message properties

end Filled

/-- Adding to a queue without limit fills it. -/
theorem filled_mapQueue {d : DestinationId} (h : r.Unlimited d) (f : List QueueEntry → List QueueEntry) :
    r.Filled (r.modify d (·.mapQueue fun q => { q with entries := f q.entries })) := by
  obtain ⟨x, q, live, body, unlimited⟩ := h
  refine ⟨rfl, List.length_modify _ _ _, fun i y hy => ?_⟩
  rw [get?_modify, hy]
  by_cases hi : i = d
  · subst hi
    rw [(live?_eq_some.1 live).1] at hy
    cases hy
    refine ⟨_, rfl, ?_⟩
    rw [if_pos rfl, Destination.mapQueue, body]
    exact .queue body unlimited _
  · exact ⟨y, by rw [if_neg (Ne.symm hi)]; rfl, .same⟩

end Registry
end MessageBroker
