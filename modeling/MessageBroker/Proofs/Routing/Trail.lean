import MessageBroker.Proofs.Registry.Requests
import MessageBroker.Proofs.Routing.Plain
/-!
# The way a message has come

A `Trail` is the list of the destinations that a message came through.  Where the graph has no cycle none of them is
met again, so a trail is no longer than the registry has live destinations.  This bounds how deep routing can go: the
plain meaning always has an answer there (`Trail.reaches`), and a chain of refusing queues comes to its end.
-/
namespace MessageBroker

/-- The destinations that are not deleted. -/
def Registry.liveIds (r : Registry) : List DestinationId :=
  (List.range r.destinations.length).filter fun d => (r.live? d).isSome

namespace Routing

variable {r : Registry} {headers : Headers}

theorem mem_liveIds {d : DestinationId} {x : Destination} (h : r.live? d = some x) : d ∈ r.liveIds := by
  obtain ⟨hx, -⟩ := Registry.live?_eq_some.1 h
  exact List.mem_filter.2 ⟨List.mem_range.2 (Registry.get?_lt hx), by rw [h]; rfl⟩

theorem length_liveIds_le (r : Registry) : r.liveIds.length ≤ r.destinations.length :=
  Nat.le_trans (List.length_filter_le _ _) (Nat.le_of_eq List.length_range)

/-- No way comes back where every destination leads to ones made before it. -/
theorem Acyclic.of_descending (h : ∀ p ∈ r.destinations.zipIdx, (∀ b ∈ p.1.bindings.toList, b.destination < p.2) ∧
    ∀ a ∈ p.1.alternate.toList, a < p.2) (start : DestinationId) : Acyclic r start := by
  have hat : ∀ d x, r.live? d = some x →
      (∀ b ∈ x.bindings.toList, b.destination < d) ∧ ∀ a, x.alternate = some a → a < d := fun d x hx => by
    have hmem := h (x, d) (List.mem_zipIdx_iff_getElem?.2 (Registry.live?_eq_some.1 hx).1)
    exact ⟨hmem.1, fun a ha => hmem.2 a (Option.mem_toList.2 ha)⟩
  have hstep : ∀ d d', Forwards r d d' → d' < d := fun d d' hf => by
    cases hf with
    | binding live body mem =>
      refine (hat d _ live).1 _ ?_
      rwa [Destination.bindings, body]
    | alternate live body next => exact (hat d _ live).2 _ next
    | refused live body full next => exact (hat d _ live).2 _ next
  have hway : ∀ d d', Relation.TransGen (Forwards r) d d' → d' < d := fun d d' ht => by
    induction ht with
    | single hf => exact hstep _ _ hf
    | tail _ hf ih => exact Nat.lt_trans (hstep _ _ hf) ih
  exact fun d _ ht => Nat.lt_irrefl d (hway d d ht)

/-- The live destinations that a message has come through on its way to `d`. -/
structure Trail (r : Registry) (path : List DestinationId) (d : DestinationId) : Prop where
  nodup : path.Nodup
  leads : ∀ i ∈ path, i ∈ r.liveIds ∧ Relation.TransGen (Forwards r) i d
  acyclic : Acyclic r d

namespace Trail

variable {path : List DestinationId} {d d' : DestinationId}

theorem start (h : Acyclic r d) : Trail r [] d := ⟨List.nodup_nil, fun _ hi => (List.not_mem_nil hi).elim, h⟩

theorem fresh (h : Trail r path d) : d ∉ path := fun hd => h.acyclic d .refl (h.leads d hd).2

theorem step (h : Trail r path d) (hf : Forwards r d d') : Trail r (d :: path) d' := by
  obtain ⟨x, hx⟩ := hf.live
  refine ⟨List.nodup_cons.2 ⟨h.fresh, h.nodup⟩, fun i hi => ?_, fun i hi => h.acyclic i (.head hf hi)⟩
  rcases List.mem_cons.1 hi with rfl | hi
  · exact ⟨mem_liveIds hx, .single hf⟩
  · exact ⟨(h.leads i hi).1, (h.leads i hi).2.tail hf⟩

theorem length_le (h : Trail r path d) : path.length ≤ r.liveIds.length :=
  h.nodup.length_le_of_subset fun i hi => (h.leads i hi).1

theorem length_lt (h : Trail r path d) {x : Destination} (live : r.live? d = some x) :
    path.length < r.liveIds.length := by
  have hsub : d :: path ⊆ r.liveIds := fun i hi => by
    rcases List.mem_cons.1 hi with rfl | hi
    · exact mem_liveIds live
    · exact (h.leads i hi).1
  exact (List.nodup_cons.2 ⟨h.fresh, h.nodup⟩).length_le_of_subset hsub

end Trail

/-- Induction on how much longer the trail can get. -/
theorem reaches_of_trail (n : Nat) : ∀ (path : List DestinationId) (d : DestinationId) (key : String),
    Trail r path d → r.liveIds.length < n + path.length → ∃ qs, Reaches r headers d key qs := by
  induction n with
  | zero => exact fun path d key h hn => absurd h.length_le (by omega)
  | succ n ih =>
    intro path d key h hn
    have hon : ∀ d' key', Forwards r d d' → ∃ qs, Reaches r headers d' key' qs := fun d' key' hf =>
      ih (d :: path) d' key' (h.step hf) (by rw [List.length_cons]; omega)
    cases live : r.live? d with
    | none => exact ⟨[], .gone live⟩
    | some x =>
      cases body : x.body with
      | queue q =>
        cases room : q.hasRoom with
        | true => exact ⟨[d], .taken live body room⟩
        | false =>
          cases next : x.alternate with
          | none => exact ⟨[], .refused live body room next⟩
          | some a =>
            obtain ⟨qs, hqs⟩ := hon a key (.refused live body room next)
            exact ⟨qs, .diverted live body room next hqs⟩
      | exchange e =>
        have heach : ∀ b ∈ e.matching key headers, ∃ qs,
            Reaches r headers b.destination (b.arguments.replacementKey.getD key) qs := fun b hb =>
          hon _ _ (.binding live body (mem_matching hb))
        choose! out hout using heach
        by_cases hall : (e.matching key headers).flatMap out = []
        · have hnil : ∀ b ∈ e.matching key headers,
              Reaches r headers b.destination (b.arguments.replacementKey.getD key) [] := fun b hb =>
            List.flatMap_eq_nil_iff.1 hall b hb ▸ hout b hb
          cases next : x.alternate with
          | none => exact ⟨[], .unroutable live body hnil next⟩
          | some a =>
            obtain ⟨qs, hqs⟩ := hon a key (.alternate live body next)
            exact ⟨qs, .fallback live body hnil next hqs⟩
        · exact ⟨_, .forwarded out live body hout rfl hall⟩

/-- **Where the graph has no cycle a message reaches something, if only nothing.** -/
theorem Trail.reaches {path : List DestinationId} {d : DestinationId} (h : Trail r path d) (headers : Headers)
    (key : String) : ∃ qs, Reaches r headers d key qs :=
  reaches_of_trail (r.liveIds.length + 1) path d key h (by omega)

/-- What a landing says of what is reached, from a destination at the end of a trail. -/
def Landing.Tells (r : Registry) (headers : Headers) (path : List DestinationId) (d : DestinationId) : Landing → Prop
  | .nowhere => ∀ key qs, Reaches r headers d key qs → qs = []
  | .queue q => ∀ key qs, Reaches r headers d key qs → qs = [q]
  | .exchange e hops => (∀ key qs, Reaches r headers d key qs → Reaches r headers e key qs) ∧
      ∃ path', Trail r path' e ∧ path ⊆ path' ∧ path'.length = path.length + hops ∧
        ∃ x b, r.live? e = some x ∧ x.body = .exchange b

theorem Landing.tells_further {path : List DestinationId} {d a : DestinationId} {l : Landing}
    (h : l.Tells r headers (d :: path) a)
    (hon : ∀ key qs, Reaches r headers d key qs → Reaches r headers a key qs) :
    l.further.Tells r headers path d := by
  cases l with
  | nowhere => exact fun key qs hqs => h key qs (hon key qs hqs)
  | queue q => exact fun key qs hqs => h key qs (hon key qs hqs)
  | exchange e hops =>
    obtain ⟨he, path', ht, hsub, hlen, hx⟩ := h
    refine ⟨fun key qs hqs => he key qs (hon key qs hqs), path', ht, fun i hi => hsub (List.mem_cons_of_mem _ hi), ?_,
      hx⟩
    rw [hlen, List.length_cons]
    omega

theorem landing_tells (n : Nat) : ∀ (path : List DestinationId) (d : DestinationId), Trail r path d →
    r.liveIds.length < n + path.length → (landing r n d).1.Tells r headers path d := by
  induction n with
  | zero => exact fun path d h hn => absurd h.length_le (by omega)
  | succ n ih =>
    intro path d h hn
    unfold landing
    cases live : r.live? d with
    | none => exact fun key qs hqs => hqs.unique (.gone live)
    | some x =>
      cases body : x.body with
      | exchange e =>
        simp only [body]
        exact ⟨fun _ _ hqs => hqs, path, h, fun _ hi => hi, rfl, x, e, live, body⟩
      | queue q =>
        cases room : q.hasRoom with
        | true =>
          simp only [body, room, if_true]
          exact fun key qs hqs => hqs.unique (.taken live body room)
        | false =>
          cases next : x.alternate with
          | none =>
            simp only [body, room, next, Bool.false_eq_true, if_false]
            exact fun key qs hqs => hqs.unique (.refused live body room next)
          | some a =>
            simp only [body, room, next, Bool.false_eq_true, if_false]
            refine Landing.tells_further
              (ih (d :: path) a (h.step (.refused live body room next)) (by rw [List.length_cons]; omega))
              fun key qs hqs => ?_
            rcases hqs.from_queue live body with ⟨ht, -⟩ | ⟨-, hn, -⟩ | ⟨-, a', ha, hon⟩
            · rw [room] at ht; cases ht
            · rw [next] at hn; cases hn
            · rw [next] at ha; cases ha
              exact hon

/-- **A chain of refusing queues is followed to its end.** -/
theorem landingOf_tells {path : List DestinationId} {d : DestinationId} (headers : Headers) (h : Trail r path d) :
    (landingOf r d).1.Tells r headers path d :=
  landing_tells _ path d h (by have := length_liveIds_le r; omega)

end Routing
end MessageBroker
