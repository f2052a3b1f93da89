import Mathlib.Algebra.Order.BigOperators.GroupWithZero.List
import Mathlib.Algebra.Order.Ring.Nat
import MessageBroker.Proofs.Routing.Delivers
/-!
# The count of deliveries

An exchange counts what each of its bindings leads to, and what is remembered is counted again wherever it is met.  So
counts multiply along exchanges that are bound to each other more than once, and are no more than the product of the
numbers of bindings (`Runs.weighed`).  While the count fits its counter, so does every sum on the way, and a sum is zero
just where no queue took the message (`Registry.sums_fit`).  Nothing else keeps it from running over: sixteen
exchanges with sixteen bindings each do, well within the hop limit (`Registry.route_cascade`).
-/
namespace MessageBroker
namespace Routing

variable {s : Scope} {t t' : Task} {p p' p'' : Progress} {n m : Nat} {d : DestinationId} {key : String}

/-! ## The parts of a walk -/

/-- **A part of a walk is the next thing to do** in a larger one, from some progress on. -/
inductive Next (s : Scope) : Task × Progress → Task × Progress → Prop where
  | bindings {d key hops p x e} (live : s.registry.live? d = some x) (body : x.body = .exchange e)
      (near : hops ≤ s.registry.settings.maxHops) (new : p.visit? d key = none) :
      Next s (.enter d key hops, p) (.along x.name key hops (e.candidates key), p.mark d key .underWay)
  | alternate {d key hops p x e n p' a} (live : s.registry.live? d = some x) (body : x.body = .exchange e)
      (near : hops ≤ s.registry.settings.maxHops) (new : p.visit? d key = none)
      (along : Runs s (.along x.name key hops (e.candidates key)) (p.mark d key .underWay) n p')
      (zero : n % s.modulus = 0) (next : x.alternate = some a) :
      Next s (.enter d key hops, p)
        (.send a key (hops + 1), p'.note [.alternateUsed x.name (s.registry.labelOf a)])
  | entered {d key hops p notices e further} (lands : landingOf s.registry d = (.exchange e further, notices)) :
      Next s (.send d key hops, p) (.enter e key (hops + 1 + further), p.note notices)
  /-- An exchange has gone through its first bindings, and not yet through the others. -/
  | front {name key hops bs bs' p} : Next s (.along name key hops (bs ++ bs'), p) (.along name key hops bs, p)
  | first {name key hops b bs p} (accepts : b.accepts s.headers = true) :
      Next s (.along name key hops (b :: bs), p) (.send b.destination (b.arguments.replacementKey.getD key) hops, p)
  | rest {name key hops b bs p n p'} (accepts : b.accepts s.headers = true)
      (first : Runs s (.send b.destination (b.arguments.replacementKey.getD key) hops) p n p') :
      Next s (.along name key hops (b :: bs), p) (.along name key hops bs, p')
  | skip {name key hops b bs p} (rejects : b.accepts s.headers = false) :
      Next s (.along name key hops (b :: bs), p) (.along name key hops bs,
        p.note [.selectorRejected name (s.registry.nameOf b.destination) b.key])

/-- What a walk goes through in its course, parts of parts included. -/
abbrev Part (s : Scope) : Task × Progress → Task × Progress → Prop := Relation.ReflTransGen (Next s)

theorem Runs.of_append {name : String} {hops : Nat} {bs' : List Binding} : ∀ {bs : List Binding} {p n p'},
    Runs s (.along name key hops (bs ++ bs')) p n p' → ∃ m p₁ k, Runs s (.along name key hops bs) p m p₁ ∧ n = m + k
  | [], p, n, p', _ => ⟨0, p, n, .nil, (Nat.zero_add n).symm⟩
  | b :: bs, p, n, p', h => by
    cases h with
    | cons accepts first rest =>
      obtain ⟨m, p₁, k, runs, rfl⟩ := of_append rest
      exact ⟨_, p₁, k, .cons accepts first runs, (Nat.add_assoc ..).symm⟩
    | skip rejects rest =>
      obtain ⟨m, p₁, k, runs, rfl⟩ := of_append rest
      exact ⟨m, p₁, k, .skip rejects runs, rfl⟩

/-- How entering a live exchange goes that was not met before. -/
theorem Runs.of_new {hops : Nat} {x : Destination} {e : Exchange} (h : Runs s (.enter d key hops) p n p')
    (live : s.registry.live? d = some x) (body : x.body = .exchange e) (near : hops ≤ s.registry.settings.maxHops)
    (new : p.visit? d key = none) : ∃ m p₁, Runs s (.along x.name key hops (e.candidates key))
        (p.mark d key .underWay) m p₁ ∧
      ((m % s.modulus ≠ 0 ∨ x.alternate = none) ∧ n = m ∨ ∃ a k p₂, x.alternate = some a ∧ n = m + k ∧
        Runs s (.send a key (hops + 1)) (p₁.note [.alternateUsed x.name (s.registry.labelOf a)]) k p₂) := by
  cases h with
  | gone dead => exact absurd body (dead x e live)
  | limited live' body' far => omega
  | underWay live' body' near' seen => rw [new] at seen; cases seen
  | remembered live' body' near' seen => rw [new] at seen; cases seen
  | routed live' body' near' new' along last =>
    rw [live] at live'; cases live'
    rw [body] at body'; cases body'
    exact ⟨_, _, along, .inl ⟨last, rfl⟩⟩
  | fallback live' body' near' new' along zero next on =>
    rw [live] at live'; cases live'
    rw [body] at body'; cases body'
    exact ⟨_, _, along, .inr ⟨_, _, _, next, rfl, on⟩⟩

/-- **The next part of a walk is run in the course of it, and counts no more.** -/
theorem Next.runs {z : Task × Progress} (h : Next s (t, p) z) (whole : Runs s t p n p') :
    ∃ m p₁, Runs s z.1 z.2 m p₁ ∧ m ≤ n := by
  cases h with
  | bindings live body near new =>
    obtain ⟨m, p₁, along, ⟨-, rfl⟩ | ⟨a, k, p₂, -, rfl, -⟩⟩ := whole.of_new live body near new
    · exact ⟨n, p₁, along, Nat.le_refl n⟩
    · exact ⟨m, p₁, along, Nat.le_add_right m k⟩
  | alternate live body near new along zero next =>
    obtain ⟨m, p₁, along', hlast⟩ := whole.of_new live body near new
    obtain ⟨rfl, rfl⟩ := along.unique along'
    rcases hlast with ⟨last | last, -⟩ | ⟨a, k, p₂, next', rfl, on⟩
    · exact absurd zero last
    · rw [next] at last; cases last
    · rw [next] at next'; cases next'
      exact ⟨k, p₂, on, Nat.le_add_left ..⟩
  | entered lands =>
    cases whole with
    | nowhere lands' => rw [lands] at lands'; cases lands'
    | taken lands' => rw [lands] at lands'; cases lands'
    | entered lands' on => rw [lands] at lands'; cases lands'; exact ⟨n, p', on, Nat.le_refl n⟩
  | front =>
    obtain ⟨m, p₁, k, runs, rfl⟩ := Runs.of_append whole
    exact ⟨m, p₁, runs, Nat.le_add_right m k⟩
  | first accepts =>
    cases whole with
    | cons accepts' first rest => exact ⟨_, _, first, Nat.le_add_right ..⟩
    | skip rejects => rw [accepts] at rejects; cases rejects
  | rest accepts first =>
    cases whole with
    | cons accepts' first' rest =>
      obtain ⟨rfl, rfl⟩ := first.unique first'
      exact ⟨_, _, rest, Nat.le_add_left ..⟩
    | skip rejects => rw [accepts] at rejects; cases rejects
  | skip rejects =>
    cases whole with
    | cons accepts => rw [rejects] at accepts; cases accepts
    | skip rejects' rest => exact ⟨n, p', rest, Nat.le_refl n⟩

/-- **Every part of a walk counts no more than the whole.** -/
theorem Part.runs {z : Task × Progress} (h : Part s (t, p) z) (whole : Runs s t p n p') :
    ∃ m p₁, Runs s z.1 z.2 m p₁ ∧ m ≤ n := by
  induction h with
  | refl => exact ⟨n, p', whole, Nat.le_refl n⟩
  | tail _ next ih =>
    obtain ⟨k, p₁, runs, hk⟩ := ih
    obtain ⟨m, p₂, runs', hm⟩ := next.runs runs
    exact ⟨m, p₂, runs', Nat.le_trans hm hk⟩

/-! ## The queues that take the message -/

/-- **A queue takes the message in the course of a part of a walk**, or did so when what is remembered there was
found. -/
inductive Took (s : Scope) : Task × Progress → DestinationId → Prop where
  | lands {z d key hops p q notices} (part : Part s z (.send d key hops, p))
      (lands : landingOf s.registry d = (.queue q, notices)) : Took s z q
  | remembered {z d key hops p x e n hops₀ p₀ p₁ q} (part : Part s z (.enter d key hops, p))
      (live : s.registry.live? d = some x) (body : x.body = .exchange e) (near : hops ≤ s.registry.settings.maxHops)
      (seen : p.visit? d key = some (.done n)) (new : p₀.visit? d key = none)
      (found : Runs s (.enter d key hops₀) p₀ n p₁) (since : Adds p₁ p) (took : Took s (.enter d key hops₀, p₀) q) :
      Took s z q

theorem Took.of_part {z z' : Task × Progress} {q : DestinationId} (h : Took s z' q) (part : Part s z z') :
    Took s z q := by
  cases h with
  | lands part' lands => exact .lands (part.trans part') lands
  | remembered part' live body near seen new found since took =>
    exact .remembered (part.trans part') live body near seen new found since took

/-- **Where a queue takes the message there is something to count.** -/
theorem Took.count_ne_zero {z : Task × Progress} {q : DestinationId} (h : Took s z q) :
    ∀ {n p'}, Runs s z.1 z.2 n p' → n ≠ 0 := by
  induction h with
  | lands part lands =>
    intro n p' runs
    obtain ⟨m, p₁, sent, hm⟩ := part.runs runs
    cases sent with
    | nowhere lands' => rw [lands] at lands'; cases lands'
    | taken => omega
    | entered lands' on => rw [lands] at lands'; cases lands'
  | remembered part live body near seen new found since took ih =>
    intro n p' runs
    have counted := ih found
    obtain ⟨m, p₁, entered, hm⟩ := part.runs runs
    obtain ⟨rfl, -⟩ := entered.unique (.remembered live body near seen)
    omega

/-- Where what is remembered comes from. -/
def Recalls (s : Scope) (p : Progress) : Prop :=
  ∀ d key n, p.visit? d key = some (.done n) → ∃ hops p₀ p₁, p₀.visit? d key = none ∧
    Runs s (.enter d key hops) p₀ n p₁ ∧ Adds p₁ p ∧ (n ≠ 0 → ∃ q, Took s (.enter d key hops, p₀) q)

namespace Recalls

theorem start : Recalls s .start := fun _ _ _ hv => by cases hv

theorem of_adds (h : Recalls s p) (ha : Adds p p')
    (hv : ∀ d key n, p'.visit? d key = some (.done n) → p.visit? d key = some (.done n)) : Recalls s p' := by
  intro d key n hd
  obtain ⟨hops, p₀, p₁, new, found, since, took⟩ := h d key n (hv d key n hd)
  exact ⟨hops, p₀, p₁, new, found, since.trans ha, took⟩

theorem note (h : Recalls s p) (ns : List Notice) : Recalls s (p.note ns) :=
  h.of_adds (Grows.note p ns).adds fun _ _ _ hv => hv

theorem mark (h : Recalls s p) (new : p.visit? d key = none) : Recalls s (p.mark d key .underWay) :=
  h.of_adds (.mark (fun n => by simp [new]) _) fun d' key' n hv => by
    rcases Progress.visit?_of_mark hv with ⟨-, -, hv⟩ | hv
    · cases hv
    · exact hv

/-- One more exchange is finished, by this run. -/
theorem finish {hops : Nat} (h : Recalls s p') (new : p.visit? d key = none)
    (underWay : p'.visit? d key = some .underWay)
    (found : Runs s (.enter d key hops) p n (p'.mark d key (.done n)))
    (took : n ≠ 0 → ∃ q, Took s (.enter d key hops, p) q) : Recalls s (p'.mark d key (.done n)) := by
  intro d' key' m hd
  rcases Progress.visit?_of_mark hd with ⟨rfl, rfl, hm⟩ | hd
  · cases hm
    exact ⟨hops, p, _, new, found, (Grows.refl _).adds, took⟩
  · obtain ⟨hops', p₀, p₁, new', found', since, took'⟩ := h d' key' m hd
    exact ⟨hops', p₀, p₁, new', found', since.trans (.mark (fun k => by simp [underWay]) _), took'⟩

end Recalls

/-- **Where there is something to count a queue took the message**, by induction on the run. -/
theorem Runs.took (h : Runs s t p n p') (hp : Recalls s p) : Recalls s p' ∧ (n ≠ 0 → ∃ q, Took s (t, p) q) := by
  induction h with
  | gone => exact ⟨hp, fun h0 => absurd rfl h0⟩
  | limited => exact ⟨hp.note _, fun h0 => absurd rfl h0⟩
  | underWay => exact ⟨hp, fun h0 => absurd rfl h0⟩
  | remembered live body near seen =>
    refine ⟨hp, fun hn => ?_⟩
    obtain ⟨hops, p₀, p₁, new, found, since, took⟩ := hp _ _ _ seen
    obtain ⟨q, hq⟩ := took hn
    exact ⟨q, .remembered .refl live body near seen new found since hq⟩
  | routed live body near new along last ih =>
    obtain ⟨hp', took⟩ := ih (hp.mark new)
    have took' := fun hn => (took hn).imp fun q hq => hq.of_part (.single (.bindings live body near new))
    exact ⟨hp'.finish new along.visit?_marked (.routed live body near new along last) took', took'⟩
  | fallback live body near new along zero next on ih ih' =>
    rename_i d key hops p x e n p' a m p''
    obtain ⟨hp', took⟩ := ih (hp.mark new)
    obtain ⟨hp'', took'⟩ := ih' (hp'.note _)
    have underWay : p''.visit? d key = some .underWay := (on.grows_of_note.underWay d key).2 along.visit?_marked
    have either : n + m ≠ 0 → ∃ q, Took s (.enter d key hops, p) q := fun hn => by
      by_cases h0 : n = 0
      · obtain ⟨q, hq⟩ := took' (by omega)
        exact ⟨q, hq.of_part (.single (.alternate live body near new along zero next))⟩
      · obtain ⟨q, hq⟩ := took h0
        exact ⟨q, hq.of_part (.single (.bindings live body near new))⟩
    exact ⟨hp''.finish new underWay (.fallback live body near new along zero next on) either, either⟩
  | nowhere lands => exact ⟨hp.note _, fun h0 => absurd rfl h0⟩
  | taken lands =>
    exact ⟨(hp.note _).of_adds (Grows.reach _ _).adds fun _ _ _ hv => by rwa [Progress.visit?_reach] at hv,
      fun _ => ⟨_, .lands .refl lands⟩⟩
  | entered lands on ih =>
    obtain ⟨hp', took⟩ := ih (hp.note _)
    exact ⟨hp', fun hn => (took hn).imp fun q hq => hq.of_part (.single (.entered lands))⟩
  | nil => exact ⟨hp, fun h0 => absurd rfl h0⟩
  | cons accepts first rest ih ih' =>
    rename_i name key hops p b bs n p' m p''
    obtain ⟨hp', took⟩ := ih hp
    obtain ⟨hp'', took'⟩ := ih' hp'
    refine ⟨hp'', fun hn => ?_⟩
    by_cases h0 : n = 0
    · obtain ⟨q, hq⟩ := took' (by omega)
      exact ⟨q, hq.of_part (.single (.rest accepts first))⟩
    · obtain ⟨q, hq⟩ := took h0
      exact ⟨q, hq.of_part (.single (.first accepts))⟩
  | skip rejects rest ih =>
    obtain ⟨hp', took⟩ := ih (hp.note _)
    exact ⟨hp', fun hn => (took hn).imp fun q hq => hq.of_part (.single (.skip rejects))⟩

/-! ## How large counts get -/

/-- The number of bindings that a finished exchange sent the message along, or one if there were none. -/
def breadth (s : Scope) : (DestinationId × String) × Visit → Nat
  | (z, .done _) => max 1 (s.registry.onward s.headers z.1 z.2).length
  | (_, .underWay) => 1

/-- The product of the numbers of bindings, over all exchanges that are finished with, once for each routing key. -/
def Progress.weight (s : Scope) (p : Progress) : Nat := (p.visits.map (breadth s)).prod

/-- What was counted by now is no more than the product. -/
def Weighed (s : Scope) (p : Progress) : Prop := ∀ d key n, p.visit? d key = some (.done n) → n ≤ p.weight s

/-- How many things there are to do in a part of a walk each of which is counted. -/
def Task.lanes (s : Scope) : Task → Nat
  | .enter .. | .send .. => 1
  | .along _ _ _ bs => bs.countP (·.accepts s.headers)

theorem Progress.weight_underWay (p : Progress) (d : DestinationId) (key : String) :
    (p.mark d key .underWay).weight s = p.weight s := by
  unfold weight mark
  rw [List.map_cons, List.prod_cons]
  exact Nat.one_mul _

theorem Progress.weight_done (p : Progress) (d : DestinationId) (key : String) (n : Nat) :
    (p.mark d key (.done n)).weight s = max 1 (s.registry.onward s.headers d key).length * p.weight s := by
  unfold weight mark
  rw [List.map_cons, List.prod_cons]
  rfl

theorem Progress.weight_reach (p : Progress) (q : DestinationId) : (p.reach q).weight s = p.weight s := by
  unfold reach
  split <;> rfl

theorem Progress.weight_le_done (p : Progress) (d : DestinationId) (key : String) (n : Nat) :
    p.weight s ≤ (p.mark d key (.done n)).weight s := by
  rw [weight_done]
  exact Nat.le_mul_of_pos_left _ (Nat.le_max_left 1 _)

theorem Progress.weight_pos (p : Progress) : 0 < p.weight s := by
  unfold weight
  refine List.prod_pos fun k hk => ?_
  obtain ⟨⟨z, v⟩, -, rfl⟩ := List.mem_map.1 hk
  cases v with
  | underWay => exact Nat.one_pos
  | done n => exact Nat.lt_of_lt_of_le Nat.one_pos (Nat.le_max_left 1 _)

/-- The product grows as a walk goes on. -/
theorem Runs.weight_le (h : Runs s t p n p') : p.weight s ≤ p'.weight s := by
  induction h with
  | gone => exact Nat.le_refl _
  | limited => exact Nat.le_refl _
  | underWay => exact Nat.le_refl _
  | remembered => exact Nat.le_refl _
  | routed live body near new along last ih =>
    rw [Progress.weight_underWay] at ih
    exact Nat.le_trans ih (Progress.weight_le_done ..)
  | fallback live body near new along zero next on ih ih' =>
    rw [Progress.weight_underWay] at ih
    exact Nat.le_trans (Nat.le_trans ih ih') (Progress.weight_le_done ..)
  | nowhere => exact Nat.le_refl _
  | taken =>
    rw [Progress.weight_reach]
    exact Nat.le_refl _
  | entered lands on ih => exact ih
  | nil => exact Nat.le_refl _
  | cons accepts first rest ih ih' => exact Nat.le_trans ih ih'
  | skip rejects rest ih => exact ih

section
variable {name : String} {hops : Nat} {b : Binding} {bs : List Binding}

theorem lanes_cons (accepts : b.accepts s.headers = true) :
    (Task.along name key hops (b :: bs)).lanes s = (Task.along name key hops bs).lanes s + 1 :=
  List.countP_cons_of_pos (p := fun b : Binding => b.accepts s.headers) accepts

theorem lanes_skip (rejects : b.accepts s.headers = false) :
    (Task.along name key hops (b :: bs)).lanes s = (Task.along name key hops bs).lanes s :=
  List.countP_cons_of_neg (p := fun b : Binding => b.accepts s.headers) (by rw [rejects]; decide)

end

/-- The candidates that take the message are as many as the ways on. -/
theorem lanes_candidates {x : Destination} {e : Exchange} (live : s.registry.live? d = some x)
    (body : x.body = .exchange e) (name : String) (hops : Nat) :
    (Task.along name key hops (e.candidates key)).lanes s = (s.registry.onward s.headers d key).length := by
  rw [onward_eq live body, List.length_map, ← filter_candidates]
  exact List.countP_eq_length_filter

namespace Weighed

theorem start : Weighed s .start := fun _ _ _ hv => by cases hv

theorem mark (h : Weighed s p) (d : DestinationId) (key : String) : Weighed s (p.mark d key .underWay) := by
  intro d' key' n hv
  rw [Progress.weight_underWay]
  rcases Progress.visit?_of_mark hv with ⟨-, -, hv⟩ | hv
  · cases hv
  · exact h d' key' n hv

theorem note (h : Weighed s p) (ns : List Notice) : Weighed s (p.note ns) := h

theorem reach (h : Weighed s p) (q : DestinationId) : Weighed s (p.reach q) := by
  intro d key n hv
  rw [Progress.weight_reach]
  rw [Progress.visit?_reach] at hv
  exact h d key n hv

theorem finish (h : Weighed s p) (hn : n ≤ (p.mark d key (.done n)).weight s) :
    Weighed s (p.mark d key (.done n)) := by
  intro d' key' m hv
  rcases Progress.visit?_of_mark hv with ⟨-, -, hm⟩ | hv
  · cases hm
    exact hn
  · exact Nat.le_trans (h d' key' m hv) (Progress.weight_le_done ..)

end Weighed

/-- **Each thing that is counted adds no more than the product**, if that is told from none, by induction on the
run. -/
theorem Runs.weighed (h : Runs s t p n p') (hp : Weighed s p) (fits : s.Tallies (p'.weight s)) :
    n ≤ t.lanes s * p'.weight s ∧ Weighed s p' := by
  induction h with
  | gone => exact ⟨Nat.zero_le _, hp⟩
  | limited => exact ⟨Nat.zero_le _, hp⟩
  | underWay => exact ⟨Nat.zero_le _, hp⟩
  | remembered live body near seen => exact ⟨by rw [Task.lanes, Nat.one_mul]; exact hp _ _ _ seen, hp⟩
  | routed live body near new along last ih =>
    obtain ⟨hn, hw⟩ := ih (hp.mark _ _) (fits.of_le (Progress.weight_le_done ..))
    rw [lanes_candidates live body] at hn
    have hn' := Nat.le_trans hn (Nat.mul_le_mul_right _ (Nat.le_max_right 1 _))
    rw [← Progress.weight_done] at hn'
    exact ⟨by rw [Task.lanes, Nat.one_mul]; exact hn', hw.finish hn'⟩
  | fallback live body near new along zero next on ih ih' =>
    rename_i d key hops p x e n p' a m p''
    have hgrown : p'.weight s ≤ p''.weight s := on.weight_le
    have hdone := p''.weight_le_done (s := s) d key (n + m)
    obtain ⟨hn, hw⟩ := ih (hp.mark _ _) (fits.of_le (Nat.le_trans hgrown hdone))
    obtain ⟨hm, hw'⟩ := ih' hw (fits.of_le hdone)
    rw [lanes_candidates live body] at hn
    -- The bindings came to nothing: their count is not just a multiple of the modulus.
    have hn' := Nat.le_trans hn (Nat.mul_le_mul (Nat.le_max_right 1 _) hgrown)
    rw [← Progress.weight_done p'' d key (n + m)] at hn'
    have h0 : n = 0 := (fits.of_le hn').mod_eq_zero.1 zero
    rw [Task.lanes, Nat.one_mul] at hm
    have hsum : n + m ≤ (p''.mark d key (.done (n + m))).weight s := by omega
    exact ⟨by rw [Task.lanes, Nat.one_mul]; exact hsum, hw'.finish hsum⟩
  | nowhere => exact ⟨Nat.zero_le _, hp⟩
  | taken => exact ⟨by rw [Task.lanes, Nat.one_mul]; exact Progress.weight_pos _, (hp.note _).reach _⟩
  | entered lands on ih => exact ih hp fits
  | nil => exact ⟨Nat.zero_le _, hp⟩
  | cons accepts first rest ih ih' =>
    obtain ⟨hn, hw⟩ := ih hp (fits.of_le rest.weight_le)
    obtain ⟨hm, hw'⟩ := ih' hw fits
    refine ⟨?_, hw'⟩
    have hgrown := rest.weight_le
    rw [Task.lanes, Nat.one_mul] at hn
    rw [lanes_cons accepts, Nat.succ_mul]
    omega
  | skip rejects rest ih =>
    obtain ⟨hn, hw⟩ := ih hp fits
    refine ⟨?_, hw⟩
    rwa [lanes_skip rejects]

/-- A walk whose count is told from none is the walk that counts exactly. -/
theorem Runs.exact (h : Runs s t p n p') (fits : s.Tallies n) : Runs { s with modulus := 0 } t p n p' := by
  induction h with
  | gone dead => exact .gone dead
  | limited live body far => exact .limited live body far
  | underWay live body near seen => exact .underWay live body near seen
  | remembered live body near seen => exact .remembered live body near seen
  | routed live body near new along last ih =>
    refine .routed live body near new (ih fits) (last.imp_left fun hn => ?_)
    rw [Ne, fits.mod_eq_zero] at hn
    rwa [Nat.mod_zero]
  | fallback live body near new along zero next on ih ih' =>
    have fits₁ := fits.of_le (Nat.le_add_right _ _)
    have fits₂ := fits.of_le (Nat.le_add_left _ _)
    refine .fallback live body near new (ih fits₁) ?_ next (ih' fits₂)
    rw [Nat.mod_zero]
    exact fits₁.mod_eq_zero.1 zero
  | nowhere lands => exact .nowhere lands
  | taken lands => exact .taken lands
  | entered lands on ih => exact .entered lands (ih fits)
  | nil => exact .nil
  | cons accepts first rest ih ih' =>
    exact .cons accepts (ih (fits.of_le (Nat.le_add_right _ _))) (ih' (fits.of_le (Nat.le_add_left _ _)))
  | skip rejects rest ih => exact .skip rejects (ih fits)

/-! ## The whole walk -/

theorem Next.recalls {z z' : Task × Progress} (h : Next s z z') (hp : Recalls s z.2) : Recalls s z'.2 := by
  cases h with
  | bindings live body near new => exact Recalls.mark hp new
  | alternate live body near new along => exact (along.took (Recalls.mark hp new)).1.note _
  | entered => exact Recalls.note hp _
  | front => exact hp
  | first => exact hp
  | rest accepts first => exact (first.took hp).1
  | skip => exact Recalls.note hp _

/-- **Every sum of a walk that is told from none**, at whatever point, is no more than the count of the whole, and is
zero just where no queue took the message. -/
theorem Part.sum {z : Task × Progress} (h : Part s (t, p) z) (whole : Runs s t p n p') (hp : Recalls s p)
    (fits : s.Tallies n) : ∃ m p₁, Runs s z.1 z.2 m p₁ ∧ m ≤ n ∧ (m % s.modulus = 0 ↔ ¬ ∃ q, Took s z q) := by
  obtain ⟨m, p₁, runs, hm⟩ := h.runs whole
  have recalls : Recalls s z.2 := by
    clear runs
    induction h with
    | refl => exact hp
    | tail _ next ih => exact next.recalls ih
  refine ⟨m, p₁, runs, hm, ?_⟩
  rw [(fits.of_le hm).mod_eq_zero]
  constructor
  · rintro h0 ⟨q, hq⟩
    exact hq.count_ne_zero runs h0
  · intro none
    by_contra hn
    exact none ((runs.took recalls).2 hn)

end Routing

namespace Registry

open Routing

/-- **The counter of deliveries is large enough** just where it can hold the count of the whole walk, as it can if the
numbers of bindings along which the message goes, of each finished exchange once for each routing key, have a product
that it can hold.  Then no sum runs over, the sums of parts and what is remembered included, the walk is the one that
counts exactly, and a sum of zero says that no queue took the message in that part of the walk. -/
theorem sums_fit (r : Registry) (headers : Headers) (start : DestinationId) (key : String) :
    let s : Scope := ⟨r, headers, counterModulus⟩
    let walk := walkFrom r counterModulus headers start key
    (walk.2.weight s < counterModulus → walk.1 < counterModulus) ∧
      (walk.1 < counterModulus ↔ ∀ z n p, Part s (.enter start key 0, .start) z → Runs s z.1 z.2 n p →
        n < counterModulus) ∧
      (walk.1 < counterModulus → walk = walkFrom r 0 headers start key ∧
        ∀ z, Part s (.enter start key 0, .start) z → ∃ n p, Runs s z.1 z.2 n p ∧ n < counterModulus ∧
          (n % counterModulus = 0 ↔ ¬ ∃ q, Took s z q)) := by
  intro s walk
  have whole : Runs s (.enter start key 0) .start walk.1 walk.2 := runs_walkFrom r counterModulus headers start key
  refine ⟨fun fits => ?_, ⟨fun counted z n p part runs => ?_, fun sums => sums _ _ _ .refl whole⟩,
    fun counted => ⟨?_, fun z part => ?_⟩⟩
  · have bound := (whole.weighed .start (.inr fits)).1
    rw [Task.lanes, Nat.one_mul] at bound
    exact Nat.lt_of_le_of_lt bound fits
  · obtain ⟨m, p₁, runs', hm⟩ := part.runs whole
    obtain ⟨rfl, -⟩ := runs.unique runs'
    exact Nat.lt_of_le_of_lt hm counted
  · obtain ⟨count, progress⟩ := (whole.exact (.inr counted)).unique (runs_walkFrom r 0 headers start key)
    exact Prod.ext count progress
  · obtain ⟨n, p, runs, hn, zero⟩ := part.sum whole .start (.inr counted)
    exact ⟨n, p, runs, Nat.lt_of_le_of_lt hn counted, zero⟩

/-- Exchanges in a row, each bound so many times to the one before it, the first of them to a queue; the last has an
alternate. -/
def cascade (width depth : Nat) : Registry :=
  let exchanges := (List.range depth).map fun i => TopologyRequest.createExchange
    { name := toString i, type := .fanout, alternate := if i + 1 = depth then some "spare" else none }
  let bindings := (List.range depth).flatMap fun i => (List.range width).map fun key =>
    TopologyRequest.bind (toString i) (if i = 0 then "q" else toString (i - 1)) (toString key) .empty false
  (new {}).after ([.createQueue { name := "q" }, .createQueue { name := "spare" }] ++ exchanges ++ bindings)

/-- Three exchanges with four bindings each count to 64, and so a queue took the message. -/
theorem sums_cascade :
    (walkFrom (cascade 4 3) counterModulus [] 6 "").2.weight ⟨cascade 4 3, [], counterModulus⟩ < counterModulus ∧
      (walkFrom (cascade 4 3) counterModulus [] 6 "").1 = 64 ∧
      walkFrom (cascade 4 3) counterModulus [] 6 "" = walkFrom (cascade 4 3) 0 [] 6 "" ∧
      ∃ q, Took ⟨cascade 4 3, [], counterModulus⟩ (.enter 6 "" 0, .start) q := by
  have fits : (walkFrom (cascade 4 3) counterModulus [] 6 "").2.weight ⟨cascade 4 3, [], counterModulus⟩ <
      counterModulus := by decide +kernel
  have counted : (walkFrom (cascade 4 3) counterModulus [] 6 "").1 = 64 := by decide +kernel
  obtain ⟨bound, -, fit⟩ := sums_fit (cascade 4 3) [] 6 ""
  obtain ⟨exact, sums⟩ := fit (bound fits)
  obtain ⟨n, p, runs, -, zero⟩ := sums _ .refl
  have whole := (runs.unique (runs_walkFrom (cascade 4 3) counterModulus [] 6 "")).1
  refine ⟨fits, counted, exact, ?_⟩
  by_contra none
  have none' := zero.2 none
  rw [whole, counted] at none'
  exact absurd none' (by decide)

/-- **Sixteen exchanges with sixteen bindings each are too many for the counter.**  All of them are met within the hop
limit and the queue takes the message, but the count of the last one comes to zero, so its alternate is used as well. -/
theorem route_cascade : (cascade 16 16).settings.maxHops = 16 ∧
    (walkFrom (cascade 16 16) 0 [] 19 "").1 = counterModulus ∧
    (walkFrom (cascade 16 16) 0 [] 19 "").2.queues = [2] ∧
    ((cascade 16 16).route 19 ⟨⟨none, none, none, [], false, [], none⟩, 0⟩ "" []).1.queues = [2, 3] := by
  decide +kernel

end Registry
end MessageBroker
