import Mathlib.Data.List.Basic
import Mathlib.Logic.Relation
import Mathlib.Tactic.Choose
import MessageBroker.Routing
/-!
# What routing means, without a memory

`Reaches` is the plain meaning of sending a message on: every way is walked every time it is met, and the queues are
listed as often as they are reached.  It has at most one answer (`Reaches.unique`).  Where the graph that it walks
(`Forwards`) has no cycle it also has one; that is shown beside the walk that remembers.
-/
namespace MessageBroker

/-- The bindings that a message goes along: of those whose key matches, the ones whose selector accepts it.  The key
matches if it is the same, or always. -/
def Exchange.matching (e : Exchange) (key : String) (headers : Headers) : List Binding :=
  match e.type with
  | .direct => e.bindings.toList.filter fun b => b.key == key && b.accepts headers
  | .fanout => e.bindings.toList.filter (·.accepts headers)

namespace Routing

/-- **A message with these headers, sent to a destination under a key, reaches these queues**, in this order. -/
inductive Reaches (r : Registry) (headers : Headers) : DestinationId → String → List DestinationId → Prop where
  | gone {d key} (dead : r.live? d = none) : Reaches r headers d key []
  | taken {d key x q} (live : r.live? d = some x) (body : x.body = .queue q) (room : q.hasRoom = true) :
      Reaches r headers d key [d]
  | refused {d key x q} (live : r.live? d = some x) (body : x.body = .queue q) (full : q.hasRoom = false)
      (last : x.alternate = none) : Reaches r headers d key []
  | diverted {d key x q a qs} (live : r.live? d = some x) (body : x.body = .queue q) (full : q.hasRoom = false)
      (next : x.alternate = some a) (on : Reaches r headers a key qs) : Reaches r headers d key qs
  /-- Along each binding under its replacement key, or else the key that arrived. -/
  | forwarded {d key x e qs} (out : Binding → List DestinationId) (live : r.live? d = some x)
      (body : x.body = .exchange e) (each : ∀ b ∈ e.matching key headers,
        Reaches r headers b.destination (b.arguments.replacementKey.getD key) (out b))
      (all : (e.matching key headers).flatMap out = qs) (found : qs ≠ []) : Reaches r headers d key qs
  | unroutable {d key x e} (live : r.live? d = some x) (body : x.body = .exchange e)
      (each : ∀ b ∈ e.matching key headers,
        Reaches r headers b.destination (b.arguments.replacementKey.getD key) [])
      (last : x.alternate = none) : Reaches r headers d key []
  | fallback {d key x e a qs} (live : r.live? d = some x) (body : x.body = .exchange e)
      (each : ∀ b ∈ e.matching key headers,
        Reaches r headers b.destination (b.arguments.replacementKey.getD key) [])
      (next : x.alternate = some a) (on : Reaches r headers a key qs) : Reaches r headers d key qs

/-- **One destination leads to another**: an exchange to what it is bound to and to its alternate, a queue that
refuses to its alternate. -/
inductive Forwards (r : Registry) : DestinationId → DestinationId → Prop where
  | binding {d x e b} (live : r.live? d = some x) (body : x.body = .exchange e) (mem : b ∈ e.bindings.toList) :
      Forwards r d b.destination
  | alternate {d x e a} (live : r.live? d = some x) (body : x.body = .exchange e) (next : x.alternate = some a) :
      Forwards r d a
  | refused {d x q a} (live : r.live? d = some x) (body : x.body = .queue q) (full : q.hasRoom = false)
      (next : x.alternate = some a) : Forwards r d a

/-- No way from a destination comes back to where it was. -/
def Acyclic (r : Registry) (start : DestinationId) : Prop :=
  ∀ d, Relation.ReflTransGen (Forwards r) start d → ¬ Relation.TransGen (Forwards r) d d

variable {r : Registry} {headers : Headers}

theorem exchange_of_bind {d : DestinationId} {e : Exchange} (h : (r.get? d).bind Destination.exchange? = some e) :
    ∃ x, r.get? d = some x ∧ x.body = .exchange e := by
  obtain ⟨x, hx, he⟩ := Option.bind_eq_some_iff.1 h
  refine ⟨x, hx, ?_⟩
  unfold Destination.exchange? at he
  split at he
  · cases he
  · cases he; assumption

theorem Forwards.live {d d' : DestinationId} (h : Forwards r d d') : ∃ x, r.live? d = some x := by
  cases h <;> exact ⟨_, ‹_›⟩

theorem mem_matching {e : Exchange} {key : String} {b : Binding} (h : b ∈ e.matching key headers) :
    b ∈ e.bindings.toList := by
  unfold Exchange.matching at h
  split at h <;> exact (List.mem_filter.1 h).1

/-- What is reached from a live queue. -/
theorem Reaches.from_queue {d : DestinationId} {key : String} {qs : List DestinationId} {x : Destination} {q : Queue}
    (h : Reaches r headers d key qs) (live : r.live? d = some x) (body : x.body = .queue q) :
    q.hasRoom = true ∧ qs = [d] ∨ q.hasRoom = false ∧ x.alternate = none ∧ qs = [] ∨
      q.hasRoom = false ∧ ∃ a, x.alternate = some a ∧ Reaches r headers a key qs := by
  cases h with
  | gone dead => rw [dead] at live; cases live
  | taken live' body' room =>
    rw [live'] at live; cases live
    rw [body'] at body; cases body
    exact .inl ⟨room, rfl⟩
  | refused live' body' full last =>
    rw [live'] at live; cases live
    rw [body'] at body; cases body
    exact .inr (.inl ⟨full, last, rfl⟩)
  | diverted live' body' full next on =>
    rw [live'] at live; cases live
    rw [body'] at body; cases body
    exact .inr (.inr ⟨full, _, next, on⟩)
  | forwarded out live' body' => rw [live'] at live; cases live; rw [body'] at body; cases body
  | unroutable live' body' => rw [live'] at live; cases live; rw [body'] at body; cases body
  | fallback live' body' => rw [live'] at live; cases live; rw [body'] at body; cases body

/-- What is reached from a live exchange: what its bindings lead to, or if that is nothing what its alternate does. -/
theorem Reaches.from_exchange {d : DestinationId} {key : String} {qs : List DestinationId} {x : Destination}
    {e : Exchange} (h : Reaches r headers d key qs) (live : r.live? d = some x) (body : x.body = .exchange e) :
    ∃ out : Binding → List DestinationId, (∀ b ∈ e.matching key headers,
      Reaches r headers b.destination (b.arguments.replacementKey.getD key) (out b)) ∧
      ((e.matching key headers).flatMap out = qs ∧ qs ≠ [] ∨ (e.matching key headers).flatMap out = [] ∧
        (x.alternate = none ∧ qs = [] ∨ ∃ a, x.alternate = some a ∧ Reaches r headers a key qs)) := by
  have hnil : (e.matching key headers).flatMap (fun _ => ([] : List DestinationId)) = [] :=
    List.flatMap_eq_nil_iff.2 fun _ _ => rfl
  cases h with
  | gone dead => rw [dead] at live; cases live
  | taken live' body' => rw [live'] at live; cases live; rw [body'] at body; cases body
  | refused live' body' => rw [live'] at live; cases live; rw [body'] at body; cases body
  | diverted live' body' => rw [live'] at live; cases live; rw [body'] at body; cases body
  | forwarded out live' body' each all found =>
    rw [live'] at live; cases live
    rw [body'] at body; cases body
    exact ⟨out, each, .inl ⟨all, found⟩⟩
  | unroutable live' body' each last =>
    rw [live'] at live; cases live
    rw [body'] at body; cases body
    exact ⟨fun _ => [], each, .inr ⟨hnil, .inl ⟨last, rfl⟩⟩⟩
  | fallback live' body' each next on =>
    rw [live'] at live; cases live
    rw [body'] at body; cases body
    exact ⟨fun _ => [], each, .inr ⟨hnil, .inr ⟨_, next, on⟩⟩⟩

/-- **Without a memory there is at most one answer.** -/
theorem Reaches.unique {d : DestinationId} {key : String} {qs qs' : List DestinationId}
    (h : Reaches r headers d key qs) (h' : Reaches r headers d key qs') : qs = qs' := by
  induction h generalizing qs' with
  | gone dead => cases h' <;> simp_all
  | taken live body room =>
    rcases h'.from_queue live body with ⟨-, rfl⟩ | ⟨hf, -⟩ | ⟨hf, -⟩
    · rfl
    · rw [room] at hf; cases hf
    · rw [room] at hf; cases hf
  | refused live body full last =>
    rcases h'.from_queue live body with ⟨ht, -⟩ | ⟨-, -, rfl⟩ | ⟨-, a, ha, -⟩
    · rw [full] at ht; cases ht
    · rfl
    · rw [last] at ha; cases ha
  | diverted live body full next on ih =>
    rcases h'.from_queue live body with ⟨ht, -⟩ | ⟨-, ha, -⟩ | ⟨-, a, ha, hon⟩
    · rw [full] at ht; cases ht
    · rw [next] at ha; cases ha
    · rw [next] at ha; cases ha
      exact ih hon
  | forwarded out live body each all found ih =>
    obtain ⟨out', each', hall⟩ := h'.from_exchange live body
    rw [← List.flatMap_congr fun b hb => ih b hb (each' b hb), all] at hall
    rcases hall with ⟨rfl, -⟩ | ⟨hn, -⟩
    · rfl
    · exact absurd hn found
  | unroutable live body each last ih =>
    obtain ⟨out', each', hall⟩ := h'.from_exchange live body
    rw [List.flatMap_eq_nil_iff.2 fun b hb => (ih b hb (each' b hb)).symm] at hall
    rcases hall with ⟨rfl, hn⟩ | ⟨-, ⟨-, rfl⟩ | ⟨a, ha, -⟩⟩
    · rfl
    · rfl
    · rw [last] at ha; cases ha
  | fallback live body each next on ih ih' =>
    obtain ⟨out', each', hall⟩ := h'.from_exchange live body
    rw [List.flatMap_eq_nil_iff.2 fun b hb => (ih b hb (each' b hb)).symm] at hall
    rcases hall with ⟨rfl, hn⟩ | ⟨-, ⟨ha, -⟩ | ⟨a, ha, hon⟩⟩
    · exact absurd rfl hn
    · rw [next] at ha; cases ha
    · rw [next] at ha; cases ha
      exact ih' hon

end Routing
end MessageBroker
