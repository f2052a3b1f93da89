import MessageBroker.Proofs.Routing.Ways
/-!
# What a walk has explored

An exchange that a walk has finished with was gone through as a whole: the message was sent along every binding that
takes it, and to its alternate if no binding came to anything (`Explored`).  So a chain of bindings is followed to its
end unless an exchange on it was also met beyond the hop limit (`Registry.mem_route_of_along`).  That exception is real:
what is remembered of an exchange says nothing of the hops it was met after, and a shorter way to it is not walked again
(`Registry.route_detour_misses`).
-/
namespace MessageBroker

/-- Where an exchange forwards a message to, and under which keys. -/
def Registry.onward (r : Registry) (headers : Headers) (d : DestinationId) (key : String) :
    List (DestinationId × String) :=
  match (r.live? d).bind Destination.exchange? with
  | none => []
  | some e => (e.matching key headers).map fun b => (b.destination, b.arguments.replacementKey.getD key)

namespace Routing

variable {r : Registry} {headers : Headers} {start : DestinationId} {key : String}

theorem onward_eq {d : DestinationId} {x : Destination} {e : Exchange} (live : r.live? d = some x)
    (body : x.body = .exchange e) (k : String) : r.onward headers d k =
      (e.matching k headers).map fun b => (b.destination, b.arguments.replacementKey.getD k) := by
  have h : (r.live? d).bind Destination.exchange? = some e := by simp [live, Destination.exchange?, body]
  unfold Registry.onward
  rw [h]

theorem mem_onward {d : DestinationId} {k : String} {z : DestinationId × String} (h : z ∈ r.onward headers d k) :
    ∃ x e b, r.live? d = some x ∧ x.body = .exchange e ∧ b ∈ e.matching k headers ∧
      z = (b.destination, b.arguments.replacementKey.getD k) := by
  unfold Registry.onward at h
  split at h
  · cases h
  · rename_i e he
    obtain ⟨x, live, hx⟩ := Option.bind_eq_some_iff.1 he
    obtain ⟨b, hb, rfl⟩ := List.mem_map.1 h
    refine ⟨x, e, b, live, ?_, hb, rfl⟩
    unfold Destination.exchange? at hx
    split at hx
    · cases hx
    · cases hx
      assumption

variable {s : Scope}

/-- The candidates that take the message are where it goes on. -/
theorem forall_candidates_iff {d : DestinationId} {x : Destination} {e : Exchange} {k : String}
    (live : s.registry.live? d = some x) (body : x.body = .exchange e) {P : DestinationId → String → Prop} :
    (∀ b ∈ e.candidates k, b.accepts s.headers = true → P b.destination (b.arguments.replacementKey.getD k)) ↔
      ∀ z ∈ s.registry.onward s.headers d k, P z.1 z.2 := by
  rw [onward_eq live body, ← filter_candidates, List.forall_mem_map]
  simp only [List.mem_filter, and_imp]

theorem mem_onward_of_accepts {d : DestinationId} {x : Destination} {e : Exchange} {k : String} {b : Binding}
    (live : s.registry.live? d = some x) (body : x.body = .exchange e) (hb : b ∈ e.candidates k)
    (hacc : b.accepts s.headers = true) :
    (b.destination, b.arguments.replacementKey.getD k) ∈ s.registry.onward s.headers d k := by
  rw [onward_eq live body, ← filter_candidates]
  exact List.mem_map.2 ⟨b, List.mem_filter.2 ⟨hb, hacc⟩, rfl⟩

/-! ## What becomes of a message that is sent on -/

/-- An exchange was met beyond the hop limit, which was noted. -/
def GaveUp (s : Scope) (start : DestinationId) (key : String) (p : Progress) (d : DestinationId) (k : String) : Prop :=
  ∃ x hops, s.registry.live? d = some x ∧ s.registry.settings.maxHops < hops ∧
    Way s.registry s.headers start key d k hops ∧ .hopLimitReached x.name k s.registry.settings.maxHops ∈ p.notices

/-- Sending to a destination was seen to: the queue where the message lands is found, or the exchange walked. -/
def Dealt (s : Scope) (start : DestinationId) (key : String) (p : Progress) (d : DestinationId) (k : String) : Prop :=
  match (landingOf s.registry d).1 with
  | .nowhere => True
  | .queue q => q ∈ p.queues
  | .exchange e _ => (p.visit? e k).isSome = true ∨ GaveUp s start key p e k

/-- Sending to a destination came to something. -/
def Counted (s : Scope) (p : Progress) (d : DestinationId) (k : String) : Prop :=
  match (landingOf s.registry d).1 with
  | .nowhere => False
  | .queue _ => True
  | .exchange e _ => ∃ n, n ≠ 0 ∧ p.visit? e k = some (.done n)

/-- Nothing that was found, noted or visited is lost, and what was finished stays so. -/
structure Adds (p p' : Progress) : Prop where
  queues : p.queues ⊆ p'.queues
  notices : p.notices ⊆ p'.notices
  done : ∀ d k n, p.visit? d k = some (.done n) → p'.visit? d k = some (.done n)
  isSome : ∀ d k, (p.visit? d k).isSome = true → (p'.visit? d k).isSome = true

variable {p p' p'' : Progress} {d : DestinationId} {k : String}

theorem Grows.adds (h : Grows p p') : Adds p p' := ⟨h.queues, h.notices, h.done, fun _ _ => h.isSome⟩

theorem Adds.trans (h : Adds p p') (h' : Adds p' p'') : Adds p p'' :=
  ⟨fun _ hq => h'.queues (h.queues hq), fun _ hn => h'.notices (h.notices hn),
    fun d k n hd => h'.done d k n (h.done d k n hd), fun d k hv => h'.isSome d k (h.isSome d k hv)⟩

/-- What is marked was not finished before. -/
theorem Adds.mark (unfinished : ∀ n, p.visit? d k ≠ some (.done n)) (v : Visit) : Adds p (p.mark d k v) := by
  refine ⟨fun _ h => h, fun _ h => h, fun d' k' n hv => ?_, fun d' k' hv => ?_⟩ <;>
    rw [Progress.visit?_mark] <;> split
  · rename_i heq
    rw [heq.1, heq.2] at hv
    exact absurd hv (unfinished n)
  · exact hv
  · rfl
  · exact hv

theorem GaveUp.mono (h : GaveUp s start key p d k) (ha : Adds p p') : GaveUp s start key p' d k := by
  obtain ⟨x, hops, live, far, way, hn⟩ := h
  exact ⟨x, hops, live, far, way, ha.notices hn⟩

theorem Dealt.mono (h : Dealt s start key p d k) (ha : Adds p p') : Dealt s start key p' d k := by
  unfold Dealt at h ⊢
  split
  · trivial
  · rename_i heq
    rw [heq] at h
    exact ha.queues h
  · rename_i heq
    rw [heq] at h
    exact h.imp (ha.isSome _ _) (·.mono ha)

theorem Counted.mono (h : Counted s p d k) (ha : Adds p p') : Counted s p' d k := by
  unfold Counted at h ⊢
  split
  · rename_i heq
    rw [heq] at h
    exact h
  · trivial
  · rename_i heq
    rw [heq] at h
    obtain ⟨n, hn, hv⟩ := h
    exact ⟨n, hn, ha.done _ _ n hv⟩

/-! ## What was finished was gone through -/

/-- **An exchange that a walk has finished with was gone through**: every binding that takes the message was seen to,
and so was its alternate, unless a binding came to something. -/
structure Explored (s : Scope) (start : DestinationId) (key : String) (p : Progress) : Prop where
  onward : ∀ d k n, p.visit? d k = some (.done n) →
    ∀ z ∈ s.registry.onward s.headers d k, Dealt s start key p z.1 z.2
  alternate : ∀ d k n, p.visit? d k = some (.done n) → ∀ x a, s.registry.live? d = some x → x.alternate = some a →
    Dealt s start key p a k ∨ ∃ z ∈ s.registry.onward s.headers d k, Counted s p z.1 z.2

namespace Explored

/-- More progress without anything more that is finished. -/
theorem of_adds (h : Explored s start key p) (ha : Adds p p')
    (hv : ∀ d k n, p'.visit? d k = some (.done n) → p.visit? d k = some (.done n)) : Explored s start key p' := by
  refine ⟨fun d k n hd z hz => (h.onward d k n (hv d k n hd) z hz).mono ha, fun d k n hd x a live next => ?_⟩
  refine (h.alternate d k n (hv d k n hd) x a live next).imp (·.mono ha) ?_
  rintro ⟨z, hz, hc⟩
  exact ⟨z, hz, hc.mono ha⟩

theorem new : Explored s start key .start := ⟨fun _ _ _ hv => (by cases hv), fun _ _ _ hv => (by cases hv)⟩

theorem note (h : Explored s start key p) (ns : List Notice) : Explored s start key (p.note ns) :=
  h.of_adds (Grows.note p ns).adds fun _ _ _ hv => hv

theorem reach (h : Explored s start key p) (q : DestinationId) : Explored s start key (p.reach q) :=
  h.of_adds (Grows.reach p q).adds fun _ _ _ hv => by rwa [Progress.visit?_reach] at hv

theorem mark (h : Explored s start key p) (new : p.visit? d k = none) :
    Explored s start key (p.mark d k .underWay) := by
  refine h.of_adds (.mark (fun n => by simp [new]) _) fun d' k' n hv => ?_
  rcases Progress.visit?_of_mark hv with ⟨-, -, hv⟩ | hv
  · cases hv
  · exact hv

/-- One more exchange is finished. -/
theorem finish (h : Explored s start key p) (underWay : p.visit? d k = some .underWay) (n : Nat)
    (onward : ∀ z ∈ s.registry.onward s.headers d k, Dealt s start key p z.1 z.2)
    (alternate : ∀ x a, s.registry.live? d = some x → x.alternate = some a →
      Dealt s start key p a k ∨ ∃ z ∈ s.registry.onward s.headers d k, Counted s p z.1 z.2) :
    Explored s start key (p.mark d k (.done n)) := by
  have ha : Adds p (p.mark d k (.done n)) := .mark (fun m => by simp [underWay]) _
  refine ⟨fun d' k' m hd z hz => ?_, fun d' k' m hd x a live next => ?_⟩
  · rcases Progress.visit?_of_mark hd with ⟨rfl, rfl, -⟩ | hd
    · exact (onward z hz).mono ha
    · exact (h.onward d' k' m hd z hz).mono ha
  · have halt : Dealt s start key p a k' ∨ ∃ z ∈ s.registry.onward s.headers d' k', Counted s p z.1 z.2 := by
      rcases Progress.visit?_of_mark hd with ⟨rfl, rfl, -⟩ | hd
      · exact alternate x a live next
      · exact h.alternate d' k' m hd x a live next
    refine halt.imp (·.mono ha) ?_
    rintro ⟨z, hz, hc⟩
    exact ⟨z, hz, hc.mono ha⟩

end Explored

/-- What a part of a walk counted, it found or remembers. -/
def Task.Counted (s : Scope) (p : Progress) : Task → Prop
  | .enter d k _ => ∃ n, n ≠ 0 ∧ p.visit? d k = some (.done n)
  | .send d k _ => Routing.Counted s p d k
  | .along _ k _ bs => ∃ b ∈ bs, b.accepts s.headers = true ∧
      Routing.Counted s p b.destination (b.arguments.replacementKey.getD k)

/-- **What a run counts, it found or remembers.** -/
theorem Runs.counted {t : Task} {n : Nat} (h : Runs s t p n p') (hn : n ≠ 0) : t.Counted s p' := by
  induction h with
  | gone => exact absurd rfl hn
  | limited => exact absurd rfl hn
  | underWay => exact absurd rfl hn
  | remembered live body near seen => exact ⟨_, hn, seen⟩
  | routed => exact ⟨_, hn, Progress.visit?_mark_self _ _ _ _⟩
  | fallback => exact ⟨_, hn, Progress.visit?_mark_self _ _ _ _⟩
  | nowhere => exact absurd rfl hn
  | taken lands => simp only [Task.Counted, Routing.Counted, lands]
  | entered lands on ih =>
    simp only [Task.Counted, Routing.Counted, lands]
    exact ih hn
  | nil => exact absurd rfl hn
  | cons accepts first rest ih ih' =>
    rename_i n p' m p''
    by_cases h0 : n = 0
    · obtain ⟨b, hb, hacc, hc⟩ := ih' (by omega)
      exact ⟨b, List.mem_cons_of_mem _ hb, hacc, hc⟩
    · exact ⟨_, List.mem_cons_self, accepts, Routing.Counted.mono (ih h0) rest.grows.adds⟩
  | skip rejects rest ih =>
    obtain ⟨b, hb, hacc, hc⟩ := ih hn
    exact ⟨b, List.mem_cons_of_mem _ hb, hacc, hc⟩

/-- A part of a walk was seen to. -/
def Task.Dealt (s : Scope) (start : DestinationId) (key : String) (p : Progress) : Task → Prop
  | .enter d k _ => (∃ x e, s.registry.live? d = some x ∧ x.body = .exchange e) →
      (p.visit? d k).isSome = true ∨ GaveUp s start key p d k
  | .send d k _ => Routing.Dealt s start key p d k
  | .along _ k _ bs => ∀ b ∈ bs, b.accepts s.headers = true →
      Routing.Dealt s start key p b.destination (b.arguments.replacementKey.getD k)

/-- **A run goes through what it finishes**, and sees to what it was to do. -/
theorem Runs.explored {t : Task} {n : Nat} (h : Runs s t p n p') (ht : t.Comes s start key)
    (hp : Explored s start key p) : Explored s start key p' ∧ t.Dealt s start key p' := by
  induction h with
  | gone dead => exact ⟨hp, fun ⟨x, e, live, body⟩ => absurd body (dead x e live)⟩
  | limited live body far =>
    exact ⟨hp.note _, fun _ => .inr ⟨_, _, live, far, ht, List.mem_append_right _ (List.mem_singleton_self _)⟩⟩
  | underWay live body near seen => exact ⟨hp, fun _ => .inl (by rw [seen]; rfl)⟩
  | remembered live body near seen => exact ⟨hp, fun _ => .inl (by rw [seen]; rfl)⟩
  | routed live body near new along last ih =>
    rename_i d k hops p x e n p'
    obtain ⟨hex, hdealt⟩ := ih (ht.along live body near) (hp.mark new)
    refine ⟨hex.finish along.visit?_marked n ((forall_candidates_iff live body).1 hdealt) fun y a live' next => .inr ?_,
      fun _ => .inl (by rw [Progress.visit?_mark_self]; rfl)⟩
    rw [live] at live'
    cases live'
    have hn : n ≠ 0 := fun h0 => by
      rcases last with last | last
      · exact last (by rw [h0, Nat.zero_mod])
      · rw [last] at next
        cases next
    obtain ⟨b, hb, hacc, hc⟩ := along.counted hn
    exact ⟨_, mem_onward_of_accepts live body hb hacc, hc⟩
  | fallback live body near new along zero next on ih ih' =>
    rename_i d k hops p x e n p' a m p''
    obtain ⟨hex, hdealt⟩ := ih (ht.along live body near) (hp.mark new)
    obtain ⟨hex', hdealt'⟩ := ih' (ht.alternate live body near next) (hex.note _)
    have hgrows : Grows p' p'' := on.grows_of_note
    have hunder : p''.visit? d k = some .underWay := (hgrows.underWay d k).2 along.visit?_marked
    refine ⟨hex'.finish hunder (n + m) (fun z hz => ?_) fun y a' live' next' => .inl ?_,
      fun _ => .inl (by rw [Progress.visit?_mark_self]; rfl)⟩
    · exact ((forall_candidates_iff live body).1 hdealt z hz).mono hgrows.adds
    · rw [live] at live'
      cases live'
      rw [next] at next'
      cases next'
      exact hdealt'
  | nowhere lands =>
    refine ⟨hp.note _, ?_⟩
    simp only [Task.Dealt, Routing.Dealt, lands]
  | taken lands =>
    refine ⟨(hp.note _).reach _, ?_⟩
    simp only [Task.Dealt, Routing.Dealt, lands]
    rw [Progress.queues_reach]
    exact mem_listing.2 (.inr (List.mem_singleton_self _))
  | entered lands on ih =>
    obtain ⟨hex, hdealt⟩ := ih (ht.entered lands) (hp.note _)
    refine ⟨hex, ?_⟩
    simp only [Task.Dealt, Routing.Dealt, lands]
    exact hdealt (Way.lands ht lands).1
  | nil => exact ⟨hp, fun b hb => (List.not_mem_nil hb).elim⟩
  | cons accepts first rest ih ih' =>
    obtain ⟨hex, hdealt⟩ := ih (ht.first accepts) hp
    obtain ⟨hex', hdealt'⟩ := ih' ht.rest hex
    refine ⟨hex', fun b hb hacc => ?_⟩
    rcases List.mem_cons.1 hb with rfl | hb
    · exact Routing.Dealt.mono hdealt rest.grows.adds
    · exact hdealt' b hb hacc
  | skip rejects rest ih =>
    obtain ⟨hex, hdealt⟩ := ih ht.rest (hp.note _)
    refine ⟨hex, fun b hb hacc => ?_⟩
    rcases List.mem_cons.1 hb with rfl | hb
    · rw [rejects] at hacc
      cases hacc
    · exact hdealt b hb hacc

/-- **What a walk has explored in the end**: nothing is left under way. -/
theorem explored_walkFrom (r : Registry) (modulus : Nat) (headers : Headers) (start : DestinationId) (key : String) :
    Explored ⟨r, headers, modulus⟩ start key (walkFrom r modulus headers start key).2 ∧
      (Task.enter start key 0).Dealt ⟨r, headers, modulus⟩ start key (walkFrom r modulus headers start key).2 ∧
      ∀ d k, ((walkFrom r modulus headers start key).2.visit? d k).isSome = true →
        ∃ n, (walkFrom r modulus headers start key).2.visit? d k = some (.done n) := by
  have h := runs_walkFrom r modulus headers start key
  have comes : (Task.enter start key 0).Comes ⟨r, headers, modulus⟩ start key := .start
  obtain ⟨hex, hdealt⟩ := h.explored comes .new
  refine ⟨hex, hdealt, fun d k hv => ?_⟩
  obtain ⟨v, hv⟩ := Option.isSome_iff_exists.1 hv
  cases v with
  | underWay => exact absurd ((h.grows.underWay d k).1 hv) (by simp [Progress.start, Progress.visit?])
  | done n => exact ⟨n, hv⟩

/-! ## Chains of bindings -/

/-- **A chain of bindings leads from an exchange to a queue that takes the message**; on it are these exchanges, each
with the routing key that arrives there. -/
inductive Along (r : Registry) (headers : Headers) :
    DestinationId → String → List (DestinationId × String) → DestinationId → Prop where
  | last {d k q k'} (step : (q, k') ∈ r.onward headers d k) (takes : r.Takes q) : Along r headers d k [(d, k)] q
  | next {d k d' k' path q} (step : (d', k') ∈ r.onward headers d k) (on : Along r headers d' k' path q) :
      Along r headers d k ((d, k) :: path) q

/-- A chain begins at a live exchange. -/
theorem Along.live {path : List (DestinationId × String)} {q : DestinationId} (h : Along r headers d k path q) :
    ∃ x e, r.live? d = some x ∧ x.body = .exchange e := by
  cases h with
  | last step => obtain ⟨x, e, -, live, body, -⟩ := mem_onward step; exact ⟨x, e, live, body⟩
  | next step => obtain ⟨x, e, -, live, body, -⟩ := mem_onward step; exact ⟨x, e, live, body⟩

/-- A chain that begins where a walk has finished is followed to its end, or the walk gave up on the way. -/
theorem Along.found {path : List (DestinationId × String)} {q : DestinationId}
    (h : Along s.registry s.headers d k path q) (hex : Explored s start key p)
    (hdone : ∀ d k, (p.visit? d k).isSome = true → ∃ n, p.visit? d k = some (.done n))
    (hd : (p.visit? d k).isSome = true) : q ∈ p.queues ∨ ∃ z ∈ path, GaveUp s start key p z.1 z.2 := by
  induction h with
  | last step takes =>
    obtain ⟨n, hn⟩ := hdone _ _ hd
    have hdealt := hex.onward _ _ n hn _ step
    simp only [Dealt, landingOf_takes takes] at hdealt
    exact .inl hdealt
  | next step on ih =>
    rename_i d k d' k' path q
    obtain ⟨n, hn⟩ := hdone _ _ hd
    obtain ⟨x, e, live, body⟩ := on.live
    have hdealt := hex.onward _ _ n hn _ step
    simp only [Dealt, landingOf_exchange live body] at hdealt
    rcases hdealt with hv | hg
    · exact (ih hv).imp_right fun ⟨z, hz, hg⟩ => ⟨z, List.mem_cons_of_mem _ hz, hg⟩
    · refine .inr ⟨(d', k'), List.mem_cons_of_mem _ ?_, hg⟩
      cases on <;> exact List.mem_cons_self

end Routing

namespace Registry

open Routing

/-- **A queue at the end of a chain of bindings is found**, however long the chain is and whatever else there is, unless
an exchange on the chain was met beyond the hop limit, by that or another way; then that was told. -/
theorem mem_route_of_along {r : Registry} {start q : DestinationId} {message : Message} {key : String}
    {path : List (DestinationId × String)} (h : Along r message.headers start key path q)
    (properties : InstanceProperties) : q ∈ (r.route start message key properties).1.queues ∨
      ∃ z ∈ path, ∃ x hops, r.live? z.1 = some x ∧ r.settings.maxHops < hops ∧
        Way r message.headers start key z.1 z.2 hops ∧
        .hopLimitReached x.name z.2 r.settings.maxHops ∈ (r.route start message key properties).2 := by
  obtain ⟨x, e, live, body⟩ := h.live
  obtain ⟨hex, hdealt, hdone⟩ := explored_walkFrom r counterModulus message.headers start key
  have hfound : q ∈ (walkFrom r counterModulus message.headers start key).2.queues ∨
      ∃ z ∈ path, GaveUp ⟨r, message.headers, counterModulus⟩ start key
        (walkFrom r counterModulus message.headers start key).2 z.1 z.2 := by
    rcases hdealt ⟨x, e, live, body⟩ with hv | hg
    · exact h.found (s := ⟨r, message.headers, counterModulus⟩) hex hdone hv
    · exact .inr ⟨(start, key), by cases h <;> exact List.mem_cons_self, hg⟩
  unfold route
  simp only [live]
  refine hfound.imp_right ?_
  rintro ⟨z, hz, y, hops, live', far, way, hn⟩
  exact ⟨z, hz, y, hops, live', far, way, List.mem_append_left _ hn⟩

theorem body_of_queue? {x : Destination} {c : Queue} (h : x.queue? = some c) : x.body = .queue c := by
  unfold Destination.queue? at h
  split at h
  · cases h
    assumption
  · cases h

theorem takes_of_any {r : Registry} {q : DestinationId}
    (h : ((r.live? q).bind Destination.queue?).any Queue.hasRoom = true) : r.Takes q := by
  obtain ⟨c, hc, room⟩ := (Option.any_eq_true _ _).1 h
  obtain ⟨x, live, hx⟩ := Option.bind_eq_some_iff.1 hc
  exact ⟨x, c, live, body_of_queue? hx, room⟩

/-- An exchange that is met first on a way that is one hop longer than another one, and leads to the queue over one
more exchange. -/
def detour : Registry :=
  (new { maxHops := 2 }).after
    [.createQueue { name := "q" },
      .createExchange { name := "start" },
      .createExchange { name := "detour" },
      .createExchange { name := "shared" },
      .createExchange { name := "last" },
      .bind "start" "detour" "k" .empty false,
      .bind "start" "shared" "k" .empty false,
      .bind "detour" "shared" "k" .empty false,
      .bind "shared" "last" "k" .empty false,
      .bind "last" "q" "k" .empty false]

theorem along_detour : Along detour [] 3 "k" [(3, "k"), (5, "k"), (6, "k")] 2 :=
  have first : (5, "k") ∈ detour.onward [] 3 "k" := by decide +kernel
  have second : (6, "k") ∈ detour.onward [] 5 "k" := by decide +kernel
  have third : (2, "k") ∈ detour.onward [] 6 "k" := by decide +kernel
  .next first (.next second (.last third (takes_of_any (by decide +kernel))))

/-- The chain is within the limit of two hops, but its last exchange was met on the longer way only. -/
theorem route_detour : Along detour [] 3 "k" [(3, "k"), (5, "k"), (6, "k")] 2 ∧
    (2 ∈ (detour.route 3 ⟨⟨none, none, none, [], false, [], none⟩, 0⟩ "k" []).1.queues ∨
      ∃ z ∈ [(3, "k"), (5, "k"), (6, "k")], ∃ x hops, detour.live? z.1 = some x ∧ detour.settings.maxHops < hops ∧
        Way detour [] 3 "k" z.1 z.2 hops ∧ .hopLimitReached x.name z.2 detour.settings.maxHops ∈
          (detour.route 3 ⟨⟨none, none, none, [], false, [], none⟩, 0⟩ "k" []).2) :=
  ⟨along_detour, mem_route_of_along along_detour []⟩

/-- **A queue within the hop limit may be missed**: the walk remembers what it found behind an exchange on a way that
was cut short, and does not go on from there when it comes by a shorter one. -/
theorem route_detour_misses : ∃ path, Along detour [] 3 "k" path 2 ∧ path.length ≤ detour.settings.maxHops + 1 ∧
    (∀ x ∈ detour.destinations, x.fallback = none) ∧
    2 ∉ (detour.route 3 ⟨⟨none, none, none, [], false, [], none⟩, 0⟩ "k" []).1.queues :=
  ⟨_, along_detour, by decide +kernel, by decide +kernel, by decide +kernel⟩

end Registry
end MessageBroker
