import MessageBroker.Proofs.Routing.Explored
/-!
# Chains of alternates

An exchange that has no binding under a routing key hands every message under that key to its alternate, which may do
likewise (`Registry.Relays`).  The walk counts two hops for that, one for taking an alternate and one for entering an
exchange, so a chain of `n` alternates is followed to its end if the limit allows for `2 * n` hops, and else the message
is lost (`Registry.route_relayed`).
-/
namespace MessageBroker

/-- **A message under this key is handed on** from one exchange to another, over so many alternates. -/
inductive Registry.Relays (r : Registry) (key : String) : DestinationId → Nat → DestinationId → Prop where
  | here (d : DestinationId) : Relays r key d 0 d
  | next {d x e a n last} (live : r.live? d = some x) (body : x.body = .exchange e) (unbound : e.candidates key = [])
      (next : x.alternate = some a) (on : Relays r key a n last) : Relays r key d (n + 1) last

/-- A live exchange that leads to no other one: it has no alternate, and is bound only to queues that have none. -/
structure Registry.Final (r : Registry) (d : DestinationId) : Prop where
  only : ∃ x e, r.live? d = some x ∧ x.body = .exchange e ∧ x.alternate = none ∧
    ∀ b ∈ e.bindings.toList, ∃ y q, r.get? b.destination = some y ∧ y.body = .queue q ∧ y.alternate = none

namespace Registry.Relays

variable {r : Registry} {key : String} {d last : DestinationId} {n m : Nat}

/-- A chain begins at a live exchange. -/
theorem live (h : r.Relays key d n last) (final : r.Final last) : ∃ x e, r.live? d = some x ∧ x.body = .exchange e := by
  cases h with
  | here =>
    obtain ⟨x, e, live, body, -⟩ := final.only
    exact ⟨x, e, live, body⟩
  | next live body => exact ⟨_, _, live, body⟩

/-- **It is only so far to the end of a chain**, so no exchange is met twice. -/
theorem unique (h : r.Relays key d n last) (final : r.Final last) (h' : r.Relays key d m last) : n = m := by
  induction h generalizing m with
  | here =>
    cases h' with
    | here => rfl
    | next live body unbound next =>
      obtain ⟨y, -, live', -, none, -⟩ := final.only
      rw [live'] at live
      cases live
      rw [none] at next
      cases next
  | next live body unbound next on ih =>
    cases h' with
    | here =>
      obtain ⟨y, -, live', -, none, -⟩ := final.only
      rw [live] at live'
      cases live'
      rw [next] at none
      cases none
    | next live₂ body₂ unbound₂ next₂ on₂ =>
      rw [live] at live₂
      cases live₂
      rw [next] at next₂
      cases next₂
      rw [ih final on₂]

end Registry.Relays

namespace Routing

variable {r : Registry} {s : Scope} {key : String} {d last : DestinationId} {n : Nat}

/-! ## The end of a chain -/

/-- A message that is sent to a queue without an alternate ends there, if only by being refused. -/
theorem landingOf_queue {x : Destination} {q : Queue} (at_d : r.get? d = some x) (body : x.body = .queue q)
    (last : x.alternate = none) : (landingOf r d).1 = .nowhere ∨ (landingOf r d).1 = .queue d := by
  unfold landingOf landing
  cases live : r.live? d with
  | none => exact .inl rfl
  | some y =>
    obtain ⟨hy, -⟩ := Registry.live?_eq_some.1 live
    rw [at_d] at hy
    cases hy
    simp only [body, last]
    cases q.hasRoom with
    | true => exact .inr rfl
    | false => exact .inl rfl

/-- **Along bindings that lead to queues** the same is found after however many hops, and whatever was found before. -/
theorem exists_along (name k : String) : ∀ bs : List Binding, (∀ b ∈ bs,
    (landingOf s.registry b.destination).1 = .nowhere ∨ (landingOf s.registry b.destination).1 = .queue b.destination) →
    ∃ qs, ∀ hops p, ∃ c p', Runs s (.along name k hops bs) p c p' ∧ p'.queues = listing p.queues qs
  | [], _ => ⟨[], fun hops p => ⟨0, p, .nil, rfl⟩⟩
  | b :: bs, h => by
    obtain ⟨qs, rest⟩ := exists_along name k bs fun b' hb => h b' (List.mem_cons_of_mem _ hb)
    cases accepts : b.accepts s.headers with
    | false =>
      refine ⟨qs, fun hops p => ?_⟩
      obtain ⟨c, p', runs, queues⟩ := rest hops (p.note [.selectorRejected name (s.registry.nameOf b.destination) b.key])
      exact ⟨c, p', .skip accepts runs, queues⟩
    | true =>
      rcases h b List.mem_cons_self with lands | lands
      · refine ⟨qs, fun hops p => ?_⟩
        obtain ⟨c, p', runs, queues⟩ := rest hops (p.note (landingOf s.registry b.destination).2)
        exact ⟨0 + c, p', .cons accepts (.nowhere (Prod.ext lands rfl)) runs, queues⟩
      · refine ⟨b.destination :: qs, fun hops p => ?_⟩
        obtain ⟨c, p', runs, queues⟩ :=
          rest hops ((p.note (landingOf s.registry b.destination).2).reach b.destination)
        refine ⟨1 + c, p', .cons accepts (.taken (Prod.ext lands rfl)) runs, ?_⟩
        rw [queues, Progress.queues_reach]
        exact (listing_append p.queues [b.destination] qs).symm

/-- So it is where a chain ends. -/
theorem exists_enter (key : String) (final : s.registry.Final last) :
    ∃ qs, ∀ hops p, hops ≤ s.registry.settings.maxHops → p.visit? last key = none →
      ∃ c p', Runs s (.enter last key hops) p c p' ∧ p'.queues = listing p.queues qs := by
  obtain ⟨x, e, live, body, none, queues⟩ := final.only
  have lands : ∀ b ∈ e.candidates key, (landingOf s.registry b.destination).1 = .nowhere ∨
      (landingOf s.registry b.destination).1 = .queue b.destination := fun b hb => by
    obtain ⟨y, q, hy, hq, last⟩ := queues b (mem_candidates hb)
    exact landingOf_queue hy hq last
  obtain ⟨qs, along⟩ := exists_along (s := s) x.name key (e.candidates key) lands
  refine ⟨qs, fun hops p near new => ?_⟩
  obtain ⟨c, p', runs, hqs⟩ := along hops (p.mark last key .underWay)
  exact ⟨c, _, .routed live body near new runs (.inr none), hqs⟩

/-! ## Along a chain -/

/-- **A walk into a chain comes to its end two hops later for each alternate**, or is given up before. -/
theorem exists_relayed (final : s.registry.Final last) {qs : List DestinationId}
    (found : ∀ hops p, hops ≤ s.registry.settings.maxHops → p.visit? last key = none →
      ∃ c p', Runs s (.enter last key hops) p c p' ∧ p'.queues = listing p.queues qs)
    (h : s.registry.Relays key d n last) : ∀ hops p,
    (∀ m ≤ n, ∀ d', s.registry.Relays key d' m last → p.visit? d' key = none) →
    ∃ c p', Runs s (.enter d key hops) p c p' ∧
      p'.queues = if hops + 2 * n ≤ s.registry.settings.maxHops then listing p.queues qs else p.queues := by
  induction h with
  | here =>
    intro hops p new
    by_cases near : hops ≤ s.registry.settings.maxHops
    · rw [Nat.mul_zero, Nat.add_zero, if_pos near]
      exact found hops p near (new 0 (Nat.le_refl 0) _ (.here _))
    · obtain ⟨x, e, live, body, -⟩ := final.only
      rw [Nat.mul_zero, Nat.add_zero, if_neg near]
      exact ⟨0, _, .limited live body (Nat.lt_of_not_le near), rfl⟩
  | @next d x e a n last live body unbound next on ih =>
    intro hops p new
    have whole : s.registry.Relays key d (n + 1) last := .next live body unbound next on
    by_cases near : hops ≤ s.registry.settings.maxHops
    · obtain ⟨y, e', live', body'⟩ := on.live final
      have ahead : ∀ m ≤ n, ∀ d', s.registry.Relays key d' m last →
          (p.mark d key .underWay).visit? d' key = none := fun m hm d' hd => by
        have hne : d' ≠ d := fun he => by
          rw [he] at hd
          have := hd.unique final whole
          omega
        rw [Progress.visit?_mark, if_neg fun he => hne he.1]
        exact new m (Nat.le_succ_of_le hm) d' hd
      obtain ⟨c, p', runs, queues⟩ := ih final found (hops + 2)
        (((p.mark d key .underWay).note [.alternateUsed x.name (s.registry.labelOf a)]).note []) ahead
      refine ⟨0 + c, _, .fallback live body near (new (n + 1) (Nat.le_refl _) d whole) (by rw [unbound]; exact .nil)
        (Nat.zero_mod _) next (.entered (landingOf_exchange live' body') runs), ?_⟩
      rw [show hops + 2 * (n + 1) = hops + 2 + 2 * n by omega]
      exact queues
    · rw [if_neg (by omega)]
      exact ⟨0, _, .limited live body (Nat.lt_of_not_le near), rfl⟩

end Routing

namespace Registry

open Routing

/-- **A chain of alternates takes two hops for each**: a message that is handed on over `n` of them goes where it would
go from the last exchange if the limit allows for `2 * n` hops, and else it goes nowhere. -/
theorem route_relayed {r : Registry} {key : String} {start last : DestinationId} {n : Nat}
    (chain : r.Relays key start n last) (final : r.Final last) (message : Message) (properties : InstanceProperties) :
    (r.route start message key properties).1 = if 2 * n ≤ r.settings.maxHops then (r.route last message key properties).1
      else ⟨message, properties, []⟩ := by
  obtain ⟨qs, found⟩ := exists_enter (s := ⟨r, message.headers, counterModulus⟩) key final
  have routed : ∀ {d m}, r.Relays key d m last → (r.route d message key properties).1 =
      ⟨message, properties, if 2 * m ≤ r.settings.maxHops then listing [] qs else []⟩ := fun {d m} h => by
    obtain ⟨x, e, live, -⟩ := h.live final
    obtain ⟨c, p', runs, queues⟩ := exists_relayed (s := ⟨r, message.headers, counterModulus⟩) final found h 0 .start
      fun _ _ _ _ => rfl
    have walked : walkFrom r counterModulus message.headers d key = (c, p') :=
      runs.eq_perform _ (Nat.succ_pos _) (Nat.le_refl _)
    rw [Nat.zero_add] at queues
    unfold route
    simp only [live, walked, queues]
    rfl
  rw [routed chain, routed (.here last)]
  split <;> rfl

/-! ## Telling a chain -/

/-- Whether a destination is an exchange that hands on to `a` what comes under a key. -/
def handsOn (key : String) (a : DestinationId) (x : Destination) : Bool :=
  x.alternate == some a && match x.body with
    | .queue _ => false
    | .exchange e => (e.candidates key).isEmpty

/-- Whether a destination is an exchange without an alternate that is bound only to queues without one. -/
def isFinal (r : Registry) (x : Destination) : Bool :=
  x.alternate.isNone && match x.body with
    | .queue _ => false
    | .exchange e => e.bindings.toList.all fun b =>
      (r.get? b.destination).any fun y => y.queue?.isSome && y.alternate.isNone

variable {r : Registry} {key : String} {d a last : DestinationId} {n : Nat}

theorem Relays.of_any (h : (r.live? d).any (handsOn key a) = true) (on : r.Relays key a n last) :
    r.Relays key d (n + 1) last := by
  obtain ⟨x, live, hx⟩ := (Option.any_eq_true _ _).1 h
  unfold handsOn at hx
  cases body : x.body with
  | queue q => simp [body] at hx
  | exchange e =>
    simp only [body, Bool.and_eq_true, beq_iff_eq, List.isEmpty_iff] at hx
    exact .next live body hx.2 hx.1 on

theorem final_of_any (h : (r.live? d).any r.isFinal = true) : r.Final d := by
  obtain ⟨x, live, hx⟩ := (Option.any_eq_true _ _).1 h
  unfold isFinal at hx
  cases body : x.body with
  | queue q => simp [body] at hx
  | exchange e =>
    simp only [body, Bool.and_eq_true, Option.isNone_iff_eq_none, List.all_eq_true] at hx
    refine ⟨x, e, live, body, hx.1, fun b hb => ?_⟩
    obtain ⟨y, hy, leaf⟩ := (Option.any_eq_true _ _).1 (hx.2 b hb)
    obtain ⟨queue, none⟩ := Bool.and_eq_true_iff.1 leaf
    obtain ⟨q, hq⟩ := Option.isSome_iff_exists.1 queue
    exact ⟨y, q, hy, body_of_queue? hq, Option.isNone_iff_eq_none.1 none⟩

/-- Two exchanges without a binding, each with the next as its alternate, and at the end one that is bound to a queue. -/
def relaying (maxHops : Nat) : Registry :=
  (new { maxHops }).after
    [.createQueue { name := "q" },
      .createExchange { name := "last" },
      .createExchange { name := "middle", alternate := some "last" },
      .createExchange { name := "first", alternate := some "middle" },
      .bind "last" "q" "k" .empty false]

theorem route_relaying : (relaying 4).Relays "k" 5 2 3 ∧ (relaying 4).Final 3 ∧
    ((relaying 4).route 5 ⟨⟨none, none, none, [], false, [], none⟩, 0⟩ "k" []).1.queues = [2] := by
  have chain : (relaying 4).Relays "k" 5 2 3 :=
    have first : ((relaying 4).live? 5).any (handsOn "k" 4) = true := by decide +kernel
    have middle : ((relaying 4).live? 4).any (handsOn "k" 3) = true := by decide +kernel
    .of_any first (.of_any middle (.here 3))
  have final : (relaying 4).Final 3 := final_of_any (by decide +kernel)
  have near : 2 * 2 ≤ (relaying 4).settings.maxHops := by decide +kernel
  refine ⟨chain, final, ?_⟩
  rw [route_relayed chain final, if_pos near]
  decide +kernel

/-- **Two alternates are too many for a limit of two hops.** -/
theorem route_relaying_abandoned : (relaying 2).Relays "k" 5 2 3 ∧ (relaying 2).Final 3 ∧
    2 ≤ (relaying 2).settings.maxHops ∧
    ((relaying 2).route 5 ⟨⟨none, none, none, [], false, [], none⟩, 0⟩ "k" []).1.queues = [] ∧
    ((relaying 2).route 3 ⟨⟨none, none, none, [], false, [], none⟩, 0⟩ "k" []).1.queues = [2] := by
  have first : ((relaying 2).live? 5).any (handsOn "k" 4) = true := by decide +kernel
  have middle : ((relaying 2).live? 4).any (handsOn "k" 3) = true := by decide +kernel
  exact ⟨.of_any first (.of_any middle (.here 3)), final_of_any (by decide +kernel), by decide +kernel,
    by decide +kernel, by decide +kernel⟩

end Registry
end MessageBroker
