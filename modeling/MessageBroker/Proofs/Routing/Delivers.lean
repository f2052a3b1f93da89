import MessageBroker.Proofs.Routing.Explored
import Mathlib.Logic.Relation
/-!
# What a walk delivers, cycles or not

`Delivers` says where a message comes that is sent to a destination, without a walk: along bindings, and to an alternate
where the bindings come to nothing (`Idle`).  The walk takes an exchange that it is still under way in for one that
comes to nothing, so it may use an alternate too soon.  It does so only in an exchange that leads to a cycle: where
those have no alternate, what the walk finds is just what is delivered (`Registry.mem_route_iff_delivers`).
-/
namespace MessageBroker
namespace Routing

/-- **A message sent to a destination comes to nothing**, along whatever bindings and alternates. -/
inductive Idle (r : Registry) (headers : Headers) : DestinationId → String → Prop where
  | nowhere {d k} (lands : (landingOf r d).1 = .nowhere) : Idle r headers d k
  | exchange {d k e further} (lands : (landingOf r d).1 = .exchange e further)
      (each : ∀ z ∈ r.onward headers e k, Idle r headers z.1 z.2)
      (last : ∀ x a, r.live? e = some x → x.alternate = some a → Idle r headers a k) : Idle r headers d k

/-- **A message sent to a destination comes to a queue.** -/
inductive Delivers (r : Registry) (headers : Headers) : DestinationId → String → DestinationId → Prop where
  | taken {d k q} (lands : (landingOf r d).1 = .queue q) : Delivers r headers d k q
  | onward {d k e further z q} (lands : (landingOf r d).1 = .exchange e further) (step : z ∈ r.onward headers e k)
      (on : Delivers r headers z.1 z.2 q) : Delivers r headers d k q
  /-- An alternate is for a message that comes to nothing along the bindings. -/
  | fallback {d k e further x a q} (lands : (landingOf r d).1 = .exchange e further)
      (idle : ∀ z ∈ r.onward headers e k, Idle r headers z.1 z.2) (live : r.live? e = some x)
      (next : x.alternate = some a) (on : Delivers r headers a k q) : Delivers r headers d k q

/-- **An exchange and the key that it is entered with lead to the next ones.** -/
inductive Leads (r : Registry) (headers : Headers) : DestinationId × String → DestinationId × String → Prop where
  | binding {z t k e further} (step : (t, k) ∈ r.onward headers z.1 z.2)
      (lands : (landingOf r t).1 = .exchange e further) : Leads r headers z (e, k)
  | alternate {z x a e further} (live : r.live? z.1 = some x) (next : x.alternate = some a)
      (lands : (landingOf r a).1 = .exchange e further) : Leads r headers z (e, z.2)

/-- Nothing that is led to lies on a cycle. -/
def Calm (r : Registry) (headers : Headers) (z : DestinationId × String) : Prop :=
  ∀ z', Relation.ReflTransGen (Leads r headers) z z' → ¬ Relation.TransGen (Leads r headers) z' z'

/-- No exchange with an alternate leads to a cycle, of those that a message may come to. -/
def Settled (r : Registry) (headers : Headers) (start : DestinationId) (key : String) : Prop :=
  ∀ z, Relation.ReflTransGen (Leads r headers) (start, key) z → ∀ x a, r.live? z.1 = some x →
    x.alternate = some a → Calm r headers z

/-- Whether a count is told from none. -/
def Scope.Tallies (s : Scope) (n : Nat) : Prop := s.modulus = 0 ∨ n < s.modulus

/-- No exchange was met beyond the hop limit. -/
def Near (r : Registry) (p : Progress) : Prop := ∀ name k, .hopLimitReached name k r.settings.maxHops ∉ p.notices

variable {r : Registry} {headers : Headers} {s : Scope} {start d : DestinationId} {key k : String}
  {z z' : DestinationId × String} {p p' : Progress}

/-! ## Sending, and entering where it lands -/

theorem exchange_of_lands {e : DestinationId} {further : Nat} (lands : (landingOf r d).1 = .exchange e further) :
    ∃ x b, r.live? e = some x ∧ x.body = .exchange b := by
  have way : Way r [] d "" d "" 0 := .start
  exact (way.lands (Prod.ext lands rfl : landingOf r d = (_, _))).1

theorem lands_of_lands {e : DestinationId} {further : Nat} (lands : (landingOf r d).1 = .exchange e further) :
    (landingOf r e).1 = .exchange e 0 := by
  obtain ⟨x, b, live, body⟩ := exchange_of_lands lands
  rw [landingOf_exchange live body]

/-- What is delivered from an exchange is delivered from wherever a message lands there. -/
theorem Delivers.of_lands {e q : DestinationId} {further : Nat} (lands : (landingOf r d).1 = .exchange e further)
    (h : Delivers r headers e k q) : Delivers r headers d k q := by
  have he := lands_of_lands lands
  cases h with
  | taken lands' => rw [he] at lands'; cases lands'
  | onward lands' step on => rw [he] at lands'; cases lands'; exact .onward lands step on
  | fallback lands' idle live next on => rw [he] at lands'; cases lands'; exact .fallback lands idle live next on

theorem Idle.of_lands {e : DestinationId} {further : Nat} (lands : (landingOf r d).1 = .exchange e further)
    (h : Idle r headers e k) : Idle r headers d k := by
  have he := lands_of_lands lands
  cases h with
  | nowhere lands' => rw [he] at lands'; cases lands'
  | exchange lands' each last => rw [he] at lands'; cases lands'; exact .exchange lands each last

/-- What comes to nothing is not delivered. -/
theorem Idle.not_delivers (h : Idle r headers d k) {q : DestinationId} : ¬ Delivers r headers d k q := by
  induction h with
  | nowhere lands =>
    intro hd
    cases hd with
    | taken lands' => rw [lands] at lands'; cases lands'
    | onward lands' => rw [lands] at lands'; cases lands'
    | fallback lands' => rw [lands] at lands'; cases lands'
  | exchange lands each last ih ih' =>
    intro hd
    cases hd with
    | taken lands' => rw [lands] at lands'; cases lands'
    | onward lands' step on => rw [lands] at lands'; cases lands'; exact ih _ step on
    | fallback lands' idle live next on => rw [lands] at lands'; cases lands'; exact ih' _ _ live next on

theorem Calm.step (h : Calm r headers z) (hl : Leads r headers z z') : Calm r headers z' :=
  fun z'' hz => h z'' (.head hl hz)

theorem Scope.Tallies.of_le {n m : Nat} (h : s.Tallies n) (hle : m ≤ n) : s.Tallies m :=
  h.imp_right (Nat.lt_of_le_of_lt hle)

theorem Scope.Tallies.mod_eq_zero {n : Nat} (h : s.Tallies n) : n % s.modulus = 0 ↔ n = 0 := by
  rcases h with h | h
  · rw [h, Nat.mod_zero]
  · rw [Nat.mod_eq_of_lt h]

theorem Near.of_grows (h : Near r p') (hg : Grows p p') : Near r p := fun name k hn => h name k (hg.notices hn)

/-! ## The exchanges that a part of a walk enters first -/

/-- Every exchange that a part of a walk enters straight from where it begins is such. -/
def Task.Meets (s : Scope) (P : DestinationId × String → Prop) : Task → Prop
  | .enter d k _ => P (d, k)
  | .send d k _ => ∀ e further, (landingOf s.registry d).1 = .exchange e further → P (e, k)
  | .along _ k _ bs => ∀ b ∈ bs, b.accepts s.headers = true → ∀ e further,
      (landingOf s.registry b.destination).1 = .exchange e further → P (e, b.arguments.replacementKey.getD k)

namespace Task.Meets

variable {P Q : DestinationId × String → Prop} {name : String} {hops : Nat} {x : Destination} {e : Exchange}

theorem imp {t : Task} (h : t.Meets s P) (hpq : ∀ z, P z → Q z) : t.Meets s Q := by
  cases t with
  | enter d k hops => exact hpq _ h
  | send d k hops => exact fun e further lands => hpq _ (h e further lands)
  | along name k hops bs => exact fun b hb hacc e further lands => hpq _ (h b hb hacc e further lands)

theorem along (h : ∀ z, Leads s.registry s.headers (d, k) z → P z) (live : s.registry.live? d = some x)
    (body : x.body = .exchange e) : (Task.along name k hops (e.candidates k)).Meets s P := by
  refine (forall_candidates_iff live body (P := fun t k => ∀ e further,
    (landingOf s.registry t).1 = .exchange e further → P (e, k))).2 fun z hz e further lands => ?_
  exact h _ (.binding hz lands)

theorem alternate {a : DestinationId} (h : ∀ z, Leads s.registry s.headers (d, k) z → P z)
    (live : s.registry.live? d = some x) (next : x.alternate = some a) : (Task.send a k hops).Meets s P :=
  fun _ _ lands => h _ (.alternate live next lands)

theorem first {b : Binding} {bs : List Binding} (h : (Task.along name k hops (b :: bs)).Meets s P)
    (accepts : b.accepts s.headers = true) :
    (Task.send b.destination (b.arguments.replacementKey.getD k) hops).Meets s P := h b List.mem_cons_self accepts

theorem rest {b : Binding} {bs : List Binding} (h : (Task.along name k hops (b :: bs)).Meets s P) :
    (Task.along name k hops bs).Meets s P := fun b' hb => h b' (List.mem_cons_of_mem _ hb)

end Task.Meets

/-- An exchange that a message comes to, while the walk is under way only in such as lead there. -/
structure Entered (s : Scope) (start : DestinationId) (key : String) (p : Progress) (z : DestinationId × String) :
    Prop where
  exchange : ∃ x e, s.registry.live? z.1 = some x ∧ x.body = .exchange e
  reached : Relation.ReflTransGen (Leads s.registry s.headers) (start, key) z
  underWay : ∀ z', p.visit? z'.1 z'.2 = some .underWay → Relation.TransGen (Leads s.registry s.headers) z' z

theorem Entered.of_grows (h : Entered s start key p z) (hg : Grows p p') : Entered s start key p' z :=
  ⟨h.exchange, h.reached, fun z' hz => h.underWay z' ((hg.underWay _ _).1 hz)⟩

/-- From an exchange that is under way now. -/
theorem Entered.step (h : Entered s start key p z) (hl : Leads s.registry s.headers z z') :
    Entered s start key (p.mark z.1 z.2 .underWay) z' := by
  refine ⟨?_, h.reached.tail hl, fun y hy => ?_⟩
  · cases hl with
    | binding step lands => exact exchange_of_lands lands
    | alternate live next lands => exact exchange_of_lands lands
  · rcases Progress.visit?_of_mark hy with ⟨hd, hk, -⟩ | hy
    · rw [show y = z from Prod.ext hd hk]
      exact .single hl
    · exact (h.underWay y hy).tail hl

/-! ## What is remembered holds -/

/-- What is remembered of an exchange holds: what was counted is delivered, and where no cycle is led to, nothing is
delivered if nothing was counted. -/
structure Truthful (s : Scope) (p : Progress) : Prop where
  found : ∀ d k n, p.visit? d k = some (.done n) → n ≠ 0 → ∃ q, Delivers s.registry s.headers d k q
  idle : ∀ d k, p.visit? d k = some (.done 0) → Calm s.registry s.headers (d, k) → Idle s.registry s.headers d k

namespace Truthful

theorem of_visits (h : Truthful s p) (hv : ∀ d k n, p'.visit? d k = some (.done n) → p.visit? d k = some (.done n)) :
    Truthful s p' :=
  ⟨fun d k n hd => h.found d k n (hv d k n hd), fun d k hd => h.idle d k (hv d k 0 hd)⟩

theorem note (h : Truthful s p) (ns : List Notice) : Truthful s (p.note ns) := h.of_visits fun _ _ _ hv => hv

theorem reach (h : Truthful s p) (q : DestinationId) : Truthful s (p.reach q) :=
  h.of_visits fun _ _ _ hv => by rwa [Progress.visit?_reach] at hv

theorem mark (h : Truthful s p) (d : DestinationId) (k : String) : Truthful s (p.mark d k .underWay) :=
  h.of_visits fun d' k' n hv => by
    rcases Progress.visit?_of_mark hv with ⟨-, -, hv⟩ | hv
    · cases hv
    · exact hv

theorem finish (h : Truthful s p) {n : Nat} (found : n ≠ 0 → ∃ q, Delivers s.registry s.headers d k q)
    (idle : n = 0 → Calm s.registry s.headers (d, k) → Idle s.registry s.headers d k) :
    Truthful s (p.mark d k (.done n)) := by
  refine ⟨fun d' k' m hv hm => ?_, fun d' k' hv hc => ?_⟩
  · rcases Progress.visit?_of_mark hv with ⟨rfl, rfl, hn⟩ | hv
    · cases hn
      exact found hm
    · exact h.found d' k' m hv hm
  · rcases Progress.visit?_of_mark hv with ⟨rfl, rfl, hn⟩ | hv
    · cases hn
      exact idle rfl hc
    · exact h.idle d' k' hv hc

end Truthful

theorem Counted.delivers (h : Counted s p d k) (hp : Truthful s p) : ∃ q, Delivers s.registry s.headers d k q := by
  unfold Counted at h
  split at h
  · exact h.elim
  · exact ⟨_, .taken ‹_›⟩
  · rename_i lands
    obtain ⟨n, hn, hv⟩ := h
    obtain ⟨q, hq⟩ := hp.found _ _ n hv hn
    exact ⟨q, hq.of_lands lands⟩

/-! ## What a run tells -/

/-- What is delivered by a part of a walk. -/
def Task.Delivers (s : Scope) (q : DestinationId) : Task → Prop
  | .enter d k _ => Routing.Delivers s.registry s.headers d k q
  | .send d k _ => Routing.Delivers s.registry s.headers d k q
  | .along _ k _ bs => ∃ b ∈ bs, b.accepts s.headers = true ∧
      Routing.Delivers s.registry s.headers b.destination (b.arguments.replacementKey.getD k) q

theorem Task.Delivers.later {q : DestinationId} {name : String} {hops : Nat} {b : Binding} {bs : List Binding}
    (h : (Task.along name k hops bs).Delivers s q) : (Task.along name k hops (b :: bs)).Delivers s q := by
  obtain ⟨b', hb, hq⟩ := h
  exact ⟨b', List.mem_cons_of_mem _ hb, hq⟩

/-- A part of a walk comes to nothing. -/
def Task.Idle (s : Scope) : Task → Prop
  | .enter d k _ => Routing.Idle s.registry s.headers d k
  | .send d k _ => Routing.Idle s.registry s.headers d k
  | .along _ k _ bs => ∀ b ∈ bs, b.accepts s.headers = true →
      Routing.Idle s.registry s.headers b.destination (b.arguments.replacementKey.getD k)

/-- **What a part of a walk tells**: it finds only what is delivered, something if it counts something, and nothing is
delivered if it counts nothing and leads to no cycle. -/
structure Tells (s : Scope) (t : Task) (p : Progress) (n : Nat) (p' : Progress) : Prop where
  truthful : Truthful s p'
  queues : ∀ q ∈ p'.queues, q ∈ p.queues ∨ t.Delivers s q
  found : n ≠ 0 → ∃ q, t.Delivers s q
  idle : n = 0 → t.Meets s (Calm s.registry s.headers) → t.Idle s

namespace Tells

variable {name : String} {hops n : Nat} {x : Destination} {e : Exchange}

theorem onward (live : s.registry.live? d = some x) (body : x.body = .exchange e) {q : DestinationId}
    (h : (Task.along name k hops (e.candidates k)).Delivers s q) : Delivers s.registry s.headers d k q := by
  obtain ⟨b, hb, hacc, hd⟩ := h
  have lands := congrArg Prod.fst (landingOf_exchange live body)
  exact .onward lands (mem_onward_of_accepts live body hb hacc) hd

/-- The bindings of an exchange came to nothing. -/
theorem each_idle (h : Tells s (.along name k hops (e.candidates k)) p n p') (live : s.registry.live? d = some x)
    (body : x.body = .exchange e) (zero : n = 0) (calm : Calm s.registry s.headers (d, k)) :
    ∀ z ∈ s.registry.onward s.headers d k, Idle s.registry s.headers z.1 z.2 :=
  (forall_candidates_iff live body).1 (h.idle zero (.along (fun _ hz => calm.step hz) live body))

end Tells

/-- **A run tells what is delivered**, if no exchange with an alternate leads to a cycle, by induction on the run. -/
theorem Runs.tells {t : Task} {n : Nat} (h : Runs s t p n p') (settled : Settled s.registry s.headers start key)
    (ht : t.Meets s (Entered s start key p)) (hp : Truthful s p) (near : Near s.registry p')
    (tallies : s.Tallies n) : Tells s t p n p' := by
  induction h with
  | gone dead =>
    obtain ⟨x, e, live, body⟩ := ht.exchange
    exact absurd body (dead x e live)
  | limited live body far => exact absurd (List.mem_append_right _ (List.mem_singleton_self _)) (near _ _)
  | underWay live body near' seen =>
    rename_i d k hops p x e
    refine ⟨hp, fun q hq => .inl hq, fun h0 => absurd rfl h0, fun _ calm => ?_⟩
    exact absurd (ht.underWay (d, k) seen) (calm (d, k) .refl)
  | remembered live body near' seen =>
    refine ⟨hp, fun q hq => .inl hq, hp.found _ _ _ seen, fun h0 calm => hp.idle _ _ ?_ calm⟩
    rw [seen, h0]
  | routed live body near' new along last ih =>
    rename_i d k hops p x e n p'
    have h1 := ih (.along (fun z hz => ht.step hz) live body) (hp.mark d k) near tallies
    have hfound : n ≠ 0 → ∃ q, Delivers s.registry s.headers d k q := fun hn => by
      obtain ⟨q, hq⟩ := h1.found hn
      exact ⟨q, Tells.onward live body hq⟩
    have hidle : n = 0 → Calm s.registry s.headers (d, k) → Idle s.registry s.headers d k := fun h0 calm => by
      refine .exchange (congrArg Prod.fst (landingOf_exchange live body)) (h1.each_idle live body h0 calm) ?_
      intro y a live' next
      rw [live] at live'
      cases live'
      rcases last with last | last
      · exact absurd (tallies.mod_eq_zero.2 h0) last
      · rw [last] at next
        cases next
    exact ⟨h1.truthful.finish hfound hidle, fun q hq => (h1.queues q hq).imp_right (Tells.onward live body), hfound,
      hidle⟩
  | fallback live body near' new along zero next on ih ih' =>
    rename_i d k hops p x e n p' a m p''
    have hgrows : Grows p' p'' := on.grows_of_note
    have calm : Calm s.registry s.headers (d, k) := settled _ ht.reached x a live next
    have near' : Near s.registry p'' := near
    have h1 := ih (.along (fun z hz => ht.step hz) live body) (hp.mark d k) (near'.of_grows hgrows)
      (tallies.of_le (Nat.le_add_right n m))
    have h0 : n = 0 := (tallies.of_le (Nat.le_add_right n m)).mod_eq_zero.1 zero
    have hidle := h1.each_idle live body h0 calm
    have h2 := ih' (.alternate (fun z hz => ((ht.step hz).of_grows along.grows).of_grows (.note _ _)) live next)
      (h1.truthful.note _) near (tallies.of_le (Nat.le_add_left m n))
    have lands := congrArg Prod.fst (landingOf_exchange live body)
    have hdelivers : ∀ {q}, Delivers s.registry s.headers a k q → Delivers s.registry s.headers d k q :=
      fun hq => .fallback lands hidle live next hq
    have hfound : n + m ≠ 0 → ∃ q, Delivers s.registry s.headers d k q := fun hn => by
      obtain ⟨q, hq⟩ := h2.found (by omega)
      exact ⟨q, hdelivers hq⟩
    have hidle' : n + m = 0 → Idle s.registry s.headers d k := fun hn => by
      refine .exchange lands hidle fun y a' live' next' => ?_
      rw [live] at live'
      cases live'
      rw [next] at next'
      cases next'
      exact h2.idle (by omega) (.alternate (fun z hz => calm.step hz) live next)
    refine ⟨h2.truthful.finish hfound fun hn _ => hidle' hn, fun q hq => ?_, hfound, fun hn _ => hidle' hn⟩
    rcases h2.queues q hq with hq | hq
    · exact (h1.queues q hq).imp_right (Tells.onward live body)
    · exact .inr (hdelivers hq)
  | nowhere lands =>
    exact ⟨hp.note _, fun q hq => .inl hq, fun h0 => absurd rfl h0, fun _ _ => .nowhere (congrArg Prod.fst lands)⟩
  | taken lands =>
    rename_i d k hops p notices i
    have hd : Delivers s.registry s.headers d k i := .taken (congrArg Prod.fst lands)
    refine ⟨(hp.note _).reach _, fun q hq => ?_, fun _ => ⟨i, hd⟩, fun h1 => absurd h1 Nat.one_ne_zero⟩
    rw [Progress.queues_reach, mem_listing, List.mem_singleton] at hq
    rcases hq with hq | rfl
    · exact .inl hq
    · exact .inr hd
  | entered lands on ih =>
    have lands := congrArg Prod.fst lands
    have h1 := ih ((ht _ _ lands).of_grows (.note _ _)) (hp.note _) near tallies
    refine ⟨h1.truthful, fun q hq => (h1.queues q hq).imp_right (Delivers.of_lands lands), fun hn => ?_,
      fun h0 calm => (h1.idle h0 (calm _ _ lands)).of_lands lands⟩
    obtain ⟨q, hq⟩ := h1.found hn
    exact ⟨q, hq.of_lands lands⟩
  | nil => exact ⟨hp, fun q hq => .inl hq, fun h0 => absurd rfl h0, fun _ _ b hb => (List.not_mem_nil hb).elim⟩
  | cons accepts first rest ih ih' =>
    rename_i name k hops p b bs n p' m p''
    have h1 := ih (ht.first accepts) hp (Near.of_grows near rest.grows) (tallies.of_le (Nat.le_add_right n m))
    have h2 := ih' (ht.rest.imp fun z hz => hz.of_grows first.grows) h1.truthful near
      (tallies.of_le (Nat.le_add_left m n))
    refine ⟨h2.truthful, fun q hq => ?_, fun hn => ?_, fun h0 calm b' hb hacc => ?_⟩
    · rcases h2.queues q hq with hq | hq
      · exact (h1.queues q hq).imp_right fun hd => ⟨b, List.mem_cons_self, accepts, hd⟩
      · exact .inr (hq.later)
    · by_cases h0 : n = 0
      · obtain ⟨q, hq⟩ := h2.found (by omega)
        exact ⟨q, hq.later⟩
      · obtain ⟨q, hq⟩ := h1.found h0
        exact ⟨q, b, List.mem_cons_self, accepts, hq⟩
    · rcases List.mem_cons.1 hb with rfl | hb
      · exact h1.idle (by omega) (calm.first accepts)
      · exact h2.idle (by omega) calm.rest b' hb hacc
  | skip rejects rest ih =>
    rename_i name k hops p b bs n p'
    have h1 := ih (ht.rest.imp fun z hz => hz.of_grows (.note _ _)) (hp.note _) near tallies
    refine ⟨h1.truthful, fun q hq => (h1.queues q hq).imp_right Task.Delivers.later, fun hn => ?_,
      fun h0 calm b' hb hacc => ?_⟩
    · obtain ⟨q, hq⟩ := h1.found hn
      exact ⟨q, hq.later⟩
    · rcases List.mem_cons.1 hb with rfl | hb
      · rw [rejects] at hacc
        cases hacc
      · exact h1.idle h0 calm.rest b' hb hacc

/-- **What is delivered is found** where it was seen to, once the walk has finished with all that it met. -/
theorem Delivers.found {q : DestinationId} (h : Delivers s.registry s.headers d k q)
    (hex : Explored s start key p) (hp : Truthful s p) (near : Near s.registry p)
    (hdone : ∀ d k, (p.visit? d k).isSome = true → ∃ n, p.visit? d k = some (.done n))
    (hd : Dealt s start key p d k) : q ∈ p.queues := by
  have hvisited : ∀ {d k e further}, (landingOf s.registry d).1 = .exchange e further → Dealt s start key p d k →
      ∃ n, p.visit? e k = some (.done n) := fun lands hd => by
    simp only [Dealt, lands] at hd
    rcases hd with hv | ⟨x, hops, -, -, -, hn⟩
    · exact hdone _ _ hv
    · exact absurd hn (near _ _)
  induction h with
  | taken lands =>
    simp only [Dealt, lands] at hd
    exact hd
  | onward lands step on ih =>
    obtain ⟨n, hn⟩ := hvisited lands hd
    exact ih (hex.onward _ _ n hn _ step)
  | fallback lands idle live next on ih =>
    obtain ⟨n, hn⟩ := hvisited lands hd
    rcases hex.alternate _ _ n hn _ _ live next with hd | ⟨z, hz, hc⟩
    · exact ih hd
    · obtain ⟨q', hq'⟩ := hc.delivers hp
      exact absurd hq' (idle z hz).not_delivers

/-- **Nothing disturbs a walk**: no exchange is met beyond the hop limit, and the count fits its counter. -/
structure Smooth (r : Registry) (headers : Headers) (start : DestinationId) (key : String) : Prop where
  near : Near r (walkFrom r counterModulus headers start key).2
  counted : (walkFrom r counterModulus headers start key).1 < counterModulus

end Routing

namespace Registry

open Routing

/-- Only from a live exchange is anything found. -/
theorem exchange_of_mem_route {r : Registry} {start q : DestinationId} {message : Message} {key : String}
    {properties : InstanceProperties} (hq : q ∈ (r.route start message key properties).1.queues) :
    ∃ x e, r.live? start = some x ∧ x.body = .exchange e := by
  unfold route at hq
  cases live : r.live? start with
  | none => simp [live] at hq
  | some x =>
    cases body : x.body with
    | queue c => simp [live, walkFrom, walk, body, Progress.start] at hq
    | exchange e => exact ⟨x, e, rfl, body⟩

/-- **Routing finds just what is delivered**, if no exchange with an alternate leads to a cycle. -/
theorem mem_route_iff_delivers {r : Registry} {start q : DestinationId} {x : Destination} {e : Exchange}
    {message : Message} {key : String} (live : r.live? start = some x) (body : x.body = .exchange e)
    (settled : Settled r message.headers start key) (smooth : Smooth r message.headers start key)
    (properties : InstanceProperties) :
    q ∈ (r.route start message key properties).1.queues ↔ Delivers r message.headers start key q := by
  obtain ⟨hex, hdealt, hdone⟩ := explored_walkFrom r counterModulus message.headers start key
  have htells := (runs_walkFrom r counterModulus message.headers start key).tells settled
    ⟨⟨x, e, live, body⟩, .refl, fun z hz => (by cases hz)⟩
    ⟨fun _ _ _ hv => (by cases hv), fun _ _ hv => (by cases hv)⟩ smooth.near (.inr smooth.counted)
  unfold route
  simp only [live]
  refine ⟨fun h => (htells.queues q h).resolve_left List.not_mem_nil, fun h => ?_⟩
  refine h.found (s := ⟨r, message.headers, counterModulus⟩) hex htells.truthful smooth.near hdone ?_
  simp only [Dealt, landingOf_exchange live body]
  exact hdealt ⟨x, e, live, body⟩

end Registry
end MessageBroker
