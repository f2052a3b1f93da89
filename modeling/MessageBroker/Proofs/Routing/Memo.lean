import MessageBroker.Proofs.Routing.Trail
/-!
# A remembered walk is as good as a new one

The walk keeps one memory and one list of queues for all ways through the graph, and decides on an alternate by a
count.  It still finds what the plain meaning says, since a remembered count is the length of what is reached from
there, and all of that is on the list already (`Remembers`).
-/
namespace MessageBroker
namespace Routing

/-- Puts queues on a list, each unless it is on it. -/
def listing (seen : List DestinationId) (qs : List DestinationId) : List DestinationId :=
  qs.foldl (fun seen q => if seen.contains q then seen else seen ++ [q]) seen

theorem listing_append (seen qs qs' : List DestinationId) :
    listing seen (qs ++ qs') = listing (listing seen qs) qs' := List.foldl_append

theorem listing_eq (qs : List DestinationId) : ∀ seen : List DestinationId,
    listing seen qs = seen ++ (qs.filter fun q => !seen.contains q).eraseDups := by
  induction qs with
  | nil => exact fun seen => by simp [listing]
  | cons q qs ih =>
    intro seen
    have hcons : listing seen (q :: qs) = listing (if seen.contains q then seen else seen ++ [q]) qs := rfl
    rw [hcons, ih]
    cases hq : seen.contains q with
    | true => rw [if_pos rfl, List.filter_cons_of_neg (by rw [hq]; decide)]
    | false =>
      rw [if_neg (by decide), List.filter_cons_of_pos (by rw [hq]; rfl), List.eraseDups_cons, List.filter_filter,
        List.append_assoc, List.singleton_append]
      congr 3
      refine List.filter_congr fun a _ => ?_
      by_cases ha : a = q <;> simp [ha]

theorem listing_nil (qs : List DestinationId) : listing [] qs = qs.eraseDups := by
  rw [listing_eq, List.nil_append]
  congr 1
  exact List.filter_eq_self.2 fun _ _ => rfl

theorem mem_listing {seen qs : List DestinationId} {q : DestinationId} : q ∈ listing seen qs ↔ q ∈ seen ∨ q ∈ qs := by
  rw [listing_eq, List.mem_append, List.mem_eraseDups, List.mem_filter]
  by_cases hq : q ∈ seen <;> simp [hq]

theorem listing_of_subset {seen qs : List DestinationId} (h : qs ⊆ seen) : listing seen qs = seen := by
  rw [listing_eq, List.filter_eq_nil_iff.2 fun q hq => by simpa using h hq]
  exact List.append_nil seen

/-- Whether the number of what is reached is told from none. -/
def Scope.Counts (s : Scope) (qs : List DestinationId) : Prop := s.modulus = 0 ∨ qs.length < s.modulus

namespace Scope.Counts

variable {s : Scope} {qs qs' : List DestinationId}

theorem of_le (h : s.Counts qs) (hle : qs'.length ≤ qs.length) : s.Counts qs' :=
  h.imp_right fun h => Nat.lt_of_le_of_lt hle h

theorem mod_eq_zero (h : s.Counts qs) : qs.length % s.modulus = 0 ↔ qs = [] := by
  rcases h with h | h
  · rw [h, Nat.mod_zero, List.length_eq_zero_iff]
  · rw [Nat.mod_eq_of_lt h, List.length_eq_zero_iff]

end Scope.Counts

namespace Progress

variable (p : Progress) (d : DestinationId) (key : String)

theorem visit?_mark (v : Visit) (d' : DestinationId) (key' : String) :
    (p.mark d key v).visit? d' key' = if d' = d ∧ key' = key then some v else p.visit? d' key' := by
  unfold visit? mark
  rw [List.lookup_cons]
  by_cases h : d' = d ∧ key' = key
  · rw [if_pos h, h.1, h.2, beq_self_eq_true]
  · rw [if_neg h, beq_eq_false_iff_ne.2 fun he => h (Prod.mk.inj he)]

theorem visit?_mark_self (v : Visit) : (p.mark d key v).visit? d key = some v := by
  rw [visit?_mark, if_pos ⟨rfl, rfl⟩]

/-- What is remembered after a mark is the mark, or was remembered before. -/
theorem visit?_of_mark {p : Progress} {d d' : DestinationId} {key key' : String} {v w : Visit}
    (h : (p.mark d key v).visit? d' key' = some w) :
    d' = d ∧ key' = key ∧ w = v ∨ p.visit? d' key' = some w := by
  rw [visit?_mark] at h
  split at h
  · rename_i heq
    exact .inl ⟨heq.1, heq.2, (Option.some.inj h).symm⟩
  · exact .inr h

theorem visit?_reach (q : DestinationId) : (p.reach q).visit? d key = p.visit? d key := by
  unfold reach
  split <;> rfl

theorem queues_reach (q : DestinationId) : (p.reach q).queues = listing p.queues [q] := by
  unfold reach listing
  rw [List.foldl_cons, List.foldl_nil]
  split <;> rfl

end Progress

/-- **What is remembered holds, and is on the list.** -/
def Remembers (r : Registry) (headers : Headers) (p : Progress) : Prop :=
  ∀ d key n, p.visit? d key = some (.done n) → ∃ qs, Reaches r headers d key qs ∧ n = qs.length ∧ qs ⊆ p.queues

/-- What is under way was entered on the trail. -/
def Within (path : List DestinationId) (p : Progress) : Prop :=
  ∀ d key, p.visit? d key = some .underWay → d ∈ path

/-- What is remembered still is once a walk is under way. -/
theorem Remembers.mark {r : Registry} {headers : Headers} {p : Progress} (h : Remembers r headers p)
    (d : DestinationId) (key : String) : Remembers r headers (p.mark d key .underWay) := by
  intro d' key' n hv
  rcases Progress.visit?_of_mark hv with ⟨-, -, hv⟩ | hv
  · cases hv
  · exact h d' key' n hv

theorem Within.mark {path : List DestinationId} {p : Progress} (h : Within path p) (d : DestinationId)
    (key : String) : Within (d :: path) (p.mark d key .underWay) := by
  intro d' key' hu
  rcases Progress.visit?_of_mark hu with ⟨rfl, -, -⟩ | hu
  · exact List.mem_cons_self
  · exact List.mem_cons_of_mem _ (h d' key' hu)

/-- **A part of a walk found these queues**: it counted each, listed those that were not, and left nothing more under
way than there was. -/
structure Found (s : Scope) (p : Progress) (qs : List DestinationId) (o : Nat × Progress) : Prop where
  count : o.1 = qs.length
  queues : o.2.queues = listing p.queues qs
  remembers : Remembers s.registry s.headers o.2
  underWay : ∀ d key, o.2.visit? d key = some .underWay → p.visit? d key = some .underWay

namespace Found

variable {s : Scope} {p : Progress} {qs qs' : List DestinationId} {o o' : Nat × Progress}

theorem nothing (h : Remembers s.registry s.headers p) : Found s p [] (0, p) := ⟨rfl, rfl, h, fun _ _ h => h⟩

/-- Only notices were added before. -/
theorem of_note {notices : List Notice} (h : Found s (p.note notices) qs o) : Found s p qs o :=
  ⟨h.count, h.queues, h.remembers, h.underWay⟩

theorem within {path : List DestinationId} (h : Found s p qs o) (hp : Within path p) : Within path o.2 :=
  fun d key hu => hp d key (h.underWay d key hu)

/-- One part after another. -/
theorem append (h : Found s p qs o) (h' : Found s o.2 qs' o') : Found s p (qs ++ qs') (o.1 + o'.1, o'.2) := by
  refine ⟨?_, ?_, h'.remembers, fun d key hu => h.underWay d key (h'.underWay d key hu)⟩
  · rw [h.count, h'.count, List.length_append]
  · rw [h'.queues, h.queues, listing_append]

end Found

/-- **A walk that follows the plain meaning** from every exchange at the end of a trail, if it is entered after at
least so many hops and at most two for each destination of the trail. -/
def Follows (s : Scope) (enter : Enter) (least : Nat) : Prop :=
  ∀ path d key qs hops p x e, Trail s.registry path d → s.registry.live? d = some x → x.body = .exchange e →
    Reaches s.registry s.headers d key qs → s.Counts qs → Remembers s.registry s.headers p → Within path p →
    least ≤ hops → hops ≤ 2 * path.length → Found s p qs (enter d key hops p)

variable {s : Scope} {enter : Enter} {path : List DestinationId} {hops : Nat} {p : Progress}

theorem Follows.mono {least least' : Nat} (h : Follows s enter least) (hle : least ≤ least') :
    Follows s enter least' := fun path d key qs hops p x e ht live body hqs hc hr hw hl hh =>
  h path d key qs hops p x e ht live body hqs hc hr hw (Nat.le_trans hle hl) hh

theorem sendTo_found {d : DestinationId} {key : String} {qs : List DestinationId} (hf : Follows s enter (hops + 1))
    (ht : Trail s.registry path d) (hqs : Reaches s.registry s.headers d key qs) (hc : s.Counts qs)
    (hr : Remembers s.registry s.headers p) (hw : Within path p) (hh : hops + 1 ≤ 2 * path.length) :
    Found s p qs (sendTo s enter d key hops p) := by
  have hl := landingOf_tells s.headers ht
  unfold sendTo
  generalize landingOf s.registry d = o at hl ⊢
  obtain ⟨l, notices⟩ := o
  cases l with
  | nowhere =>
    cases hl key qs hqs
    exact .of_note (.nothing hr)
  | queue q =>
    cases hl key qs hqs
    refine ⟨rfl, (p.note notices).queues_reach q, fun d key n hv => ?_, fun d key hu => ?_⟩
    · rw [Progress.visit?_reach] at hv
      obtain ⟨qs, hqs, hn, hsub⟩ := hr d key n hv
      refine ⟨qs, hqs, hn, fun i hi => ?_⟩
      rw [Progress.queues_reach]
      exact mem_listing.2 (.inl (hsub hi))
    · rw [Progress.visit?_reach] at hu
      exact hu
  | exchange e further =>
    obtain ⟨he, path', ht', hsub, hlen, x, b, hx, hb⟩ := hl
    refine .of_note (hf path' e key qs (hops + 1 + further) (p.note notices) x b ht' hx hb (he key qs hqs) hc hr
      (fun d key hu => hsub (hw d key hu)) ?_ ?_)
    · omega
    · omega

theorem sendAlong_found (name : String) {key : String} {out : Binding → List DestinationId}
    (hf : Follows s enter (hops + 1)) (hh : hops + 1 ≤ 2 * path.length) : ∀ (bs : List Binding) (p : Progress),
    (∀ b ∈ bs, Trail s.registry path b.destination) → (∀ b ∈ bs.filter (·.accepts s.headers),
      Reaches s.registry s.headers b.destination (b.arguments.replacementKey.getD key) (out b)) →
    s.Counts ((bs.filter (·.accepts s.headers)).flatMap out) → Remembers s.registry s.headers p → Within path p →
    Found s p ((bs.filter (·.accepts s.headers)).flatMap out) (sendAlong s enter name key hops bs p)
  | [], p, _, _, _, hr, _ => .nothing hr
  | b :: bs, p, ht, hout, hc, hr, hw => by
    have ht' : ∀ b ∈ bs, Trail s.registry path b.destination := fun b hb => ht b (List.mem_cons_of_mem _ hb)
    unfold sendAlong
    by_cases ha : b.accepts s.headers = true
    · have hpos : (b :: bs).filter (·.accepts s.headers) = b :: bs.filter (·.accepts s.headers) :=
        List.filter_cons_of_pos ha
      rw [hpos] at hout hc ⊢
      rw [List.flatMap_cons] at hc ⊢
      rw [if_pos ha]
      have h1 : Found s p (out b) (sendTo s enter b.destination (b.arguments.replacementKey.getD key) hops p) :=
        sendTo_found hf (ht b List.mem_cons_self) (hout b List.mem_cons_self)
          (hc.of_le (by rw [List.length_append]; omega)) hr hw hh
      have h2 := sendAlong_found name hf hh bs _ ht' (fun b hb => hout b (List.mem_cons_of_mem _ hb))
        (hc.of_le (by rw [List.length_append]; omega)) h1.remembers (h1.within hw)
      exact h1.append h2
    · have hneg : (b :: bs).filter (·.accepts s.headers) = bs.filter (·.accepts s.headers) :=
        List.filter_cons_of_neg ha
      rw [hneg] at hout hc ⊢
      rw [if_neg ha]
      exact .of_note (sendAlong_found name hf hh bs (p.note _) ht' hout hc hr hw)

theorem filter_candidates (e : Exchange) (key : String) (headers : Headers) :
    (e.candidates key).filter (·.accepts headers) = e.matching key headers := by
  unfold Exchange.candidates Exchange.matching
  cases e.type with
  | direct =>
    simp only
    rw [BindingTable.forKey_eq_filter, List.filter_filter]
    exact List.filter_congr fun b _ => Bool.and_comm _ _
  | fanout => rfl

theorem mem_candidates {e : Exchange} {key : String} {b : Binding} (hb : b ∈ e.candidates key) :
    b ∈ e.bindings.toList := by
  unfold Exchange.candidates at hb
  split at hb
  · rw [BindingTable.forKey_eq_filter] at hb
    exact (List.mem_filter.1 hb).1
  · exact hb

/-- What was found from where a walk was under way is remembered for it. -/
theorem Found.finish {d : DestinationId} {key : String} {qs : List DestinationId} {o : Nat × Progress}
    (h : Found s (p.mark d key .underWay) qs o) (hqs : Reaches s.registry s.headers d key qs) :
    Found s p qs (o.1, o.2.mark d key (.done o.1)) := by
  refine ⟨h.count, h.queues, fun d' key' n hv => ?_, fun d' key' hu => ?_⟩
  · rcases Progress.visit?_of_mark hv with ⟨rfl, rfl, hn⟩ | hv
    · cases hn
      refine ⟨qs, hqs, h.count, fun q hq => ?_⟩
      have hq' : q ∈ o.2.queues := by rw [h.queues]; exact mem_listing.2 (.inr hq)
      exact hq'
    · exact h.remembers d' key' n hv
  · rw [Progress.visit?_mark] at hu
    split at hu
    · cases hu
    · rename_i hne
      have hp := h.underWay d' key' hu
      rw [Progress.visit?_mark, if_neg hne] at hp
      exact hp

/-- **The walk follows the plain meaning**, by induction on the hops that are left. -/
theorem walk_follows (enough : 2 * s.registry.liveIds.length ≤ s.registry.settings.maxHops) :
    ∀ fuel, Follows s (walk s fuel) (s.registry.settings.maxHops + 2 - fuel) := by
  intro fuel
  induction fuel with
  | zero =>
    intro path d key qs hops p x e ht live body hqs hc hr hw hl hh
    have := ht.length_lt live
    omega
  | succ fuel ih =>
    intro path d key qs hops p x e ht live body hqs hc hr hw hl hh
    have hlt := ht.length_lt live
    have hlen : (d :: path).length = path.length + 1 := List.length_cons
    unfold walk
    simp only [live, body]
    rw [if_neg (by omega)]
    cases hv : p.visit? d key with
    | some v =>
      cases v with
      | underWay => exact absurd (hw d key hv) ht.fresh
      | done n =>
        obtain ⟨qs', hqs', rfl, hsub⟩ := hr d key n hv
        cases hqs'.unique hqs
        exact ⟨rfl, (listing_of_subset hsub).symm, hr, fun _ _ h => h⟩
    | none =>
      have hw' := hw.mark d key
      obtain ⟨out, each, hcase⟩ := hqs.from_exchange live body
      have hcount : s.Counts ((e.matching key s.headers).flatMap out) := by
        rcases hcase with ⟨rfl, -⟩ | ⟨hnil, -⟩
        · exact hc
        · exact hc.of_le (by rw [hnil]; exact Nat.zero_le _)
      rw [← filter_candidates] at each hcase hcount
      have hnext : Follows s (walk s fuel) (hops + 1) := ih.mono (by omega)
      have h1 := sendAlong_found x.name hnext (by omega) (e.candidates key)
        (p.mark d key .underWay) (fun b hb => ht.step (.binding live body (mem_candidates hb))) each hcount
        (hr.mark d key) hw'
      generalize sendAlong s (walk s fuel) x.name key hops (e.candidates key) _ = o at h1 ⊢
      have hnone := hcount.mod_eq_zero
      rw [← h1.count] at hnone
      simp only
      rcases hcase with ⟨rfl, hne⟩ | ⟨hnil, hcase⟩
      · rw [if_neg fun h0 => hne (hnone.1 h0)]
        exact h1.finish hqs
      · rw [if_pos (hnone.2 hnil)]
        rw [hnil] at h1
        rcases hcase with ⟨last, rfl⟩ | ⟨a, next, hon⟩
        · simp only [last]
          exact h1.finish hqs
        · simp only [next]
          have h2 : Found s o.2 qs (sendToAlternate s (walk s fuel) x.name a key hops o.2) :=
            .of_note (sendTo_found (ih.mono (by omega)) (ht.step (.alternate live body next)) hon hc h1.remembers
              (h1.within hw') (by omega))
          exact (h1.append h2).finish hqs

end Routing

namespace Registry

open Routing

/-- **Routing through an exchange finds the queues that the plain meaning reaches**, each once and in the order in
which they are first reached, whatever the order in which the tables are gone through.  The walk may take twice as many
hops as there are live destinations, and counts exactly, or modulo a number that the count stays below. -/
theorem route_eq_reaches {r : Registry} {start : DestinationId} {e : Exchange} (message : Message) (key : String)
    (at_start : (r.get? start).bind Destination.exchange? = some e) (acyclic : Acyclic r start)
    (enough : 2 * r.liveIds.length ≤ r.settings.maxHops) :
    ∃ qs, (∀ qs', Reaches r message.headers start key qs' ↔ qs' = qs) ∧
      (walkFrom r 0 message.headers start key).2.queues = qs.eraseDups ∧
      (qs.length < counterModulus →
        ∀ properties, (r.route start message key properties).1.queues = qs.eraseDups) := by
  obtain ⟨x, hx, body⟩ := exchange_of_bind at_start
  have ht := Trail.start acyclic
  obtain ⟨qs, hqs⟩ := ht.reaches message.headers key
  have hwalk : ∀ modulus, modulus = 0 ∨ qs.length < modulus →
      (walkFrom r modulus message.headers start key).2.queues = qs.eraseDups := by
    intro modulus hm
    cases live : r.live? start with
    | none =>
      cases hqs.unique (.gone live)
      simp [walkFrom, walk, live, Progress.start]
    | some y =>
      obtain ⟨hy, -⟩ := live?_eq_some.1 live
      rw [hx] at hy
      cases hy
      have hfound := walk_follows (s := ⟨r, message.headers, modulus⟩) enough (r.settings.maxHops + 2) [] start key
        qs 0 .start x e ht live body hqs hm (fun _ _ _ hv => by cases hv) (fun _ _ hu => by cases hu)
        (Nat.le_of_eq (Nat.sub_self _)) (Nat.zero_le _)
      rw [← listing_nil]
      exact hfound.queues
  refine ⟨qs, fun qs' => ⟨fun h => h.unique hqs, fun h => h ▸ hqs⟩, hwalk 0 (.inl rfl), fun hlt properties => ?_⟩
  unfold route
  cases live : r.live? start with
  | none =>
    cases hqs.unique (.gone live)
    rfl
  | some y => exact hwalk counterModulus (.inr hlt)

/-- An exchange that is bound twice to another one, whose queue is full and has an alternate. -/
def diamond : Registry :=
  (new {}).after
    [.createQueue { name := "spare" },
      .createQueue { name := "full", capacity := some 0, alternate := some "spare" },
      .createExchange { name := "inner", type := .fanout },
      .createExchange { name := "outer", type := .fanout, alternate := some "inner" },
      .bind "inner" "full" "" .empty false,
      .bind "outer" "inner" "left" .empty false,
      .bind "outer" "inner" "right" .empty false]

theorem route_diamond : ∃ qs, (∀ qs', Reaches diamond [] 5 "" qs' ↔ qs' = qs) ∧
    (walkFrom diamond 0 [] 5 "").2.queues = qs.eraseDups ∧ (qs.length < counterModulus →
      ∀ properties, (diamond.route 5 ⟨⟨none, none, none, [], false, [], none⟩, 0⟩ "" properties).1.queues
        = qs.eraseDups) := by
  obtain ⟨e, he⟩ := Option.isSome_iff_exists.1
    (by decide +kernel : ((diamond.get? 5).bind Destination.exchange?).isSome = true)
  exact route_eq_reaches ⟨⟨none, none, none, [], false, [], none⟩, 0⟩ "" he
    (Acyclic.of_descending (by decide +kernel) 5) (by decide +kernel)

end Registry
end MessageBroker
