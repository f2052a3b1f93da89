import MessageBroker.Proofs.Routing.Runs
import MessageBroker.Proofs.Routing.Walk
/-!
# The ways that a message can take

A `Way` is a chain of steps from the exchange that a message is sent to, each of which has a reason: a binding that
takes the message, the alternate of an exchange, or the alternate of a queue that refuses it.  Whatever part of a walk
is run, a way leads there, so every queue that is found lies at the end of one (`Runs.found`).
-/
namespace MessageBroker
namespace Routing

/-- **A message sent to the exchange `start` under `key` may come to a destination under a key**, and would enter it
after so many hops if it is an exchange.  It goes on from live exchanges only that were entered within the limit, and
from live queues that refuse it. -/
inductive Way (r : Registry) (headers : Headers) (start : DestinationId) (key : String) :
    DestinationId → String → Nat → Prop where
  | start : Way r headers start key start key 0
  | binding {d k hops x e b} (before : Way r headers start key d k hops) (live : r.live? d = some x)
      (body : x.body = .exchange e) (near : hops ≤ r.settings.maxHops) (mem : b ∈ e.matching k headers) :
      Way r headers start key b.destination (b.arguments.replacementKey.getD k) (hops + 1)
  /-- An alternate is a hop of its own. -/
  | alternate {d k hops x e a} (before : Way r headers start key d k hops) (live : r.live? d = some x)
      (body : x.body = .exchange e) (near : hops ≤ r.settings.maxHops) (next : x.alternate = some a) :
      Way r headers start key a k (hops + 2)
  | refused {d k hops x q a} (before : Way r headers start key d k hops) (live : r.live? d = some x)
      (body : x.body = .queue q) (full : q.hasRoom = false) (next : x.alternate = some a) :
      Way r headers start key a k (hops + 1)

variable {r : Registry} {headers : Headers} {start : DestinationId} {key : String}

/-! ## Where a message lands -/

theorem landingOf_exchange {d : DestinationId} {x : Destination} {e : Exchange} (live : r.live? d = some x)
    (body : x.body = .exchange e) : landingOf r d = (.exchange d 0, []) := by
  unfold landingOf landing
  simp only [live, body]

theorem landingOf_takes {q : DestinationId} (h : r.Takes q) : landingOf r q = (.queue q, []) := by
  obtain ⟨x, c, live, body, room⟩ := h
  unfold landingOf landing
  simp only [live, body, room, if_true]

/-- What a landing says of the ways, if one leads to where the message was sent. -/
def Landing.Follows (r : Registry) (headers : Headers) (start : DestinationId) (key k : String) (hops : Nat) :
    Landing → Prop
  | .nowhere => True
  | .queue q => ∃ hops, Way r headers start key q k hops
  | .exchange e further => (∃ x b, r.live? e = some x ∧ x.body = .exchange b) ∧
      Way r headers start key e k (hops + further)

theorem Way.landing (n : Nat) : ∀ {d : DestinationId} {k : String} {hops : Nat},
    Way r headers start key d k hops → (landing r n d).1.Follows r headers start key k hops := by
  induction n with
  | zero => exact fun _ => trivial
  | succ n ih =>
    intro d k hops way
    unfold Routing.landing
    cases live : r.live? d with
    | none => trivial
    | some x =>
      cases body : x.body with
      | exchange e =>
        simp only [body]
        exact ⟨⟨x, e, live, body⟩, way⟩
      | queue q =>
        cases room : q.hasRoom with
        | true =>
          simp only [body, room, if_true]
          exact ⟨hops, way⟩
        | false =>
          cases next : x.alternate with
          | none =>
            simp only [body, room, next, Bool.false_eq_true, if_false]
            trivial
          | some a =>
            simp only [body, room, next, Bool.false_eq_true, if_false]
            have h := ih (way.refused live body room next)
            revert h
            cases (Routing.landing r n a).1 with
            | nowhere => exact id
            | queue q' => exact id
            | exchange e further => exact fun h => ⟨h.1, by rw [Nat.add_comm further, ← Nat.add_assoc]; exact h.2⟩

theorem Way.lands {d : DestinationId} {k : String} {hops : Nat} {l : Landing} {notices : List Notice}
    (way : Way r headers start key d k hops) (lands : landingOf r d = (l, notices)) :
    l.Follows r headers start key k hops := by
  have h := way.landing (r.destinations.length + 1)
  rwa [show Routing.landing r (r.destinations.length + 1) d = (l, notices) from lands] at h

/-! ## A way leads to every part of a walk -/

variable {s : Scope}

/-- A way leads to where a part of a walk begins. -/
def Task.Comes (s : Scope) (start : DestinationId) (key : String) : Task → Prop
  | .enter d k hops => Way s.registry s.headers start key d k hops
  | .send d k hops => Way s.registry s.headers start key d k (hops + 1)
  | .along _ k hops bs => ∀ b ∈ bs, b.accepts s.headers = true →
      Way s.registry s.headers start key b.destination (b.arguments.replacementKey.getD k) (hops + 1)

namespace Task.Comes

variable {d : DestinationId} {k name : String} {hops : Nat} {x : Destination} {e : Exchange}

theorem along (h : (Task.enter d k hops).Comes s start key) (live : s.registry.live? d = some x)
    (body : x.body = .exchange e) (near : hops ≤ s.registry.settings.maxHops) :
    (Task.along name k hops (e.candidates k)).Comes s start key := fun b hb ha => by
  refine .binding h live body near ?_
  rw [← filter_candidates]
  exact List.mem_filter.2 ⟨hb, ha⟩

theorem alternate {a : DestinationId} (h : (Task.enter d k hops).Comes s start key)
    (live : s.registry.live? d = some x) (body : x.body = .exchange e) (near : hops ≤ s.registry.settings.maxHops)
    (next : x.alternate = some a) : (Task.send a k (hops + 1)).Comes s start key :=
  Way.alternate h live body near next

theorem entered {i : DestinationId} {further : Nat} {notices : List Notice}
    (h : (Task.send d k hops).Comes s start key) (lands : landingOf s.registry d = (.exchange i further, notices)) :
    (Task.enter i k (hops + 1 + further)).Comes s start key := (Way.lands h lands).2

theorem first {b : Binding} {bs : List Binding} (h : (Task.along name k hops (b :: bs)).Comes s start key)
    (accepts : b.accepts s.headers = true) :
    (Task.send b.destination (b.arguments.replacementKey.getD k) hops).Comes s start key :=
  h b List.mem_cons_self accepts

theorem rest {b : Binding} {bs : List Binding} (h : (Task.along name k hops (b :: bs)).Comes s start key) :
    (Task.along name k hops bs).Comes s start key := fun b' hb => h b' (List.mem_cons_of_mem _ hb)

end Task.Comes

/-- **A queue that a run finds takes the message, and a way leads there.** -/
theorem Runs.found {t : Task} {p p' : Progress} {n : Nat} (h : Runs s t p n p') (ht : t.Comes s start key) :
    ∀ q ∈ p'.queues, q ∈ p.queues ∨ s.registry.Takes q ∧ ∃ k hops, Way s.registry s.headers start key q k hops := by
  induction h with
  | gone => exact fun q hq => .inl hq
  | limited => exact fun q hq => .inl hq
  | underWay => exact fun q hq => .inl hq
  | remembered => exact fun q hq => .inl hq
  | routed live body near new along last ih => exact ih (ht.along live body near)
  | fallback live body near new along zero next on ih ih' =>
    intro q hq
    rcases ih' (ht.alternate live body near next) q hq with hq | hq
    · exact ih (ht.along live body near) q hq
    · exact .inr hq
  | nowhere => exact fun q hq => .inl hq
  | taken lands =>
    rename_i d k hops p notices i
    intro q hq
    rw [Progress.queues_reach, mem_listing, List.mem_singleton] at hq
    rcases hq with hq | rfl
    · exact .inl hq
    · exact .inr ⟨landing_takes _ d (congrArg Prod.fst lands), k, Way.lands ht lands⟩
  | entered lands on ih => exact ih (ht.entered lands)
  | nil => exact fun q hq => .inl hq
  | cons accepts first rest ih ih' =>
    intro q hq
    rcases ih' ht.rest q hq with hq | hq
    · exact ih (ht.first accepts) q hq
    · exact .inr hq
  | skip rejects rest ih => exact ih ht.rest

end Routing

namespace Registry

open Routing

/-- **Routing finds a queue only at the end of a way**, whatever cycles there are and however few hops are allowed. -/
theorem way_of_mem_route {r : Registry} {start q : DestinationId} {message : Message} {key : String}
    {properties : InstanceProperties} (hq : q ∈ (r.route start message key properties).1.queues) :
    ∃ k hops, Way r message.headers start key q k hops := by
  unfold route at hq
  split at hq
  · exact (List.not_mem_nil hq).elim
  · have comes : (Task.enter start key 0).Comes ⟨r, message.headers, counterModulus⟩ start key := .start
    have h := (runs_walkFrom r counterModulus message.headers start key).found comes q hq
    exact (h.resolve_left List.not_mem_nil).2

end Registry
end MessageBroker
