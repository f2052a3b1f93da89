import MessageBroker.Proofs.Run.Stock
/-!
# How deep a queue gets

Whether a queue has room is asked when a message is routed to it.  A delivery outside transactions places its message
there and then, and never beyond the capacity.  A commit places all that its transaction has held back, and a routing
result that is kept may be sent at any time; neither asks again, and what is on a queue beyond its capacity they have
placed (`depths_of_run`).
-/
namespace MessageBroker

open Broker

theorem length_onQueue (q : DestinationId) (ps : List PendingEnqueue) :
    (onQueue q ps).length = (ps.map (·.queue)).count q := by
  unfold onQueue
  rw [List.length_map, List.count, List.countP_map, List.countP_eq_length_filter]
  rfl

theorem onQueue_flatMap {α : Type} (q : DestinationId) (xs : List α) (f : α → List PendingEnqueue) :
    onQueue q (xs.flatMap f) = xs.flatMap fun x => onQueue q (f x) := by
  unfold onQueue
  rw [List.filter_flatMap, List.map_flatMap]

/-- A queue that takes a message is live and below its capacity. -/
theorem Registry.Takes.room {r : Registry} {q : DestinationId} (h : r.Takes q) :
    ∃ x, r.live? q = some x ∧ ∀ n, x.capacity = some n → x.entries.length < n := by
  obtain ⟨x, c, live, body, room⟩ := h
  refine ⟨x, live, fun n capacity => ?_⟩
  have hc : c.capacity = some n := by simpa [Destination.capacity, Destination.queue?, body] using capacity
  have hd : x.entries = c.entries := by simp [Destination.entries, body]
  unfold Queue.hasRoom at room
  rw [hc] at room
  rw [hd]
  exact of_decide_eq_true room

/-- An event that places what was routed before. -/
def Event.postponed : Event → Bool
  | .send _ _ | .resolve .commit _ => true
  | _ => false

/-- What came to a queue, each entry with the event that placed it there. -/
def arrivals (q : DestinationId) (past : List Step) : List (Event × QueueEntry) :=
  past.flatMap fun s => (onQueue q s.placed).map (s.event, ·)

/-- What of it was not popped. -/
def standing (q : DestinationId) (past : List Step) : List (Event × QueueEntry) :=
  (arrivals q past).drop (onQueue q (past.flatMap Step.taken)).length

theorem arrivals_snoc (q : DestinationId) (past : List Step) (s : Step) :
    arrivals q (past ++ [s]) = arrivals q past ++ (onQueue q s.placed).map (s.event, ·) := by
  unfold arrivals
  rw [List.flatMap_append, List.flatMap_singleton]

theorem map_snd_arrivals (q : DestinationId) (past : List Step) :
    (arrivals q past).map Prod.snd = onQueue q (past.flatMap Step.placed) := by
  unfold arrivals
  rw [List.map_flatMap, onQueue_flatMap]
  refine List.flatMap_congr fun s _ => ?_
  rw [List.map_map]
  exact List.map_id _

namespace Step

/-- Only what is delivered or was postponed is placed. -/
theorem postponed_of_placed {s : Step} (h : s.Stocked) (placed : s.placed ≠ []) :
    s.event.postponed = true ∨ ∃ l d, s.event = .deliver l d := by
  have offers : s.offers ≠ [] := fun ho => placed (by rw [h.placed, ho, placed_nil])
  unfold Step.offers at offers
  split at offers
  · rename_i he
    exact .inl (by rw [he]; rfl)
  · rename_i he
    exact .inr ⟨_, _, he⟩
  · rename_i he
    exact .inl (by rw [he]; rfl)
  · exact absurd rfl offers

end Step

/-- **A delivery places its message where there is room**, once on each queue. -/
theorem World.room_of_placed {w : World} (hp : w.broker.Plain) {l : LinkId} {d : Delivery} {q : DestinationId}
    (placed : onQueue q (w.take (.deliver l d)).placed ≠ []) :
    w.broker.registry.Takes q ∧ (onQueue q (w.take (.deliver l d)).placed).length ≤ 1 := by
  obtain ⟨nodup, takes⟩ := w.broker.deliveryOffers_sound l d
  have hs : (w.take (.deliver l d)).placed.Sublist (w.broker.deliveryOffers l d) := by
    rw [(w.take_stocked hp (.deliver l d)).placed]
    exact placed_sublist _ _
  have hmap := hs.map (·.queue)
  rw [length_onQueue]
  refine ⟨takes q (hmap.subset (List.count_pos_iff.1 ?_)), List.nodup_iff_count.1 (hmap.nodup nodup) q⟩
  rw [← length_onQueue]
  exact List.length_pos_of_ne_nil placed

/-- **What is on a queue beyond its capacity was postponed.** -/
def Bounded (past : List Step) (r : Registry) : Prop :=
  ∀ q x n, r.get? q = some x → x.deleted = false → x.capacity = some n →
    ∀ a ∈ (standing q past).drop n, a.1.postponed = true

section
variable {settings : HostSettings} {records : List StoreRecord} {past : List Step} {w : World}

/-- What was popped off a live queue and what is on it is what came to it. -/
theorem taken_append_entries (books : Books (.new settings) past w) (ledger : Ledger records past w) {q : DestinationId}
    {x : Destination} (hx : w.broker.registry.get? q = some x) (live : x.deleted = false) :
    onQueue q (past.flatMap Step.taken) ++ x.entries = (arrivals q past).map Prod.snd := by
  have h := books.flow.entries q x hx live
  rwa [entriesOf_new, List.nil_append, ledger.placed, ← map_snd_arrivals] at h

theorem entries_eq_standing (books : Books (.new settings) past w) (ledger : Ledger records past w) {q : DestinationId}
    {x : Destination} (hx : w.broker.registry.get? q = some x) (live : x.deleted = false) :
    x.entries = (standing q past).map Prod.snd := by
  unfold standing
  rw [List.map_drop, ← taken_append_entries books ledger hx live, List.drop_left]

theorem length_arrivals (books : Books (.new settings) past w) (ledger : Ledger records past w) {q : DestinationId}
    {x : Destination} (hx : w.broker.registry.get? q = some x) (live : x.deleted = false) :
    (arrivals q past).length = (onQueue q (past.flatMap Step.taken)).length + x.entries.length := by
  rw [← List.length_map Prod.snd, ← taken_append_entries books ledger hx live, List.length_append]

theorem arrivals_eq_nil (ledger : Ledger records past w) {q : DestinationId} (hq : w.broker.registry.get? q = none) :
    arrivals q past = [] := by
  unfold arrivals
  rw [List.flatMap_eq_nil_iff]
  intro s hs
  rw [onQueue_eq_nil fun p hp he => ?_, List.map_nil]
  obtain ⟨x, hx, -⟩ := ledger.made s hs p hp
  obtain ⟨y, hy, -⟩ := (ledger.lasts s hs).kept _ x hx
  rw [he, hq] at hy
  cases hy

/-- A live queue was live before a step, with the same capacity, if it was there. -/
theorem live_before (books : Books (.new settings) past w) {e : Event} {q : DestinationId} {x x' : Destination}
    (hx : w.broker.registry.get? q = some x) (hx' : (w.take e).after.broker.registry.get? q = some x')
    (live : x'.deleted = false) : x.deleted = false ∧ x.capacity = x'.capacity := by
  obtain ⟨sent, hy, -⟩ := (books.effect e).yields
  obtain ⟨y, hy, -, deleted⟩ := hy.flow.kept q x hx
  obtain ⟨z, hz, lasts⟩ := (w.take_stocked books.plain e).lasts.kept q x hx
  rw [hx'] at hy hz
  cases hy
  cases hz
  refine ⟨Bool.eq_false_iff.2 fun hdel => ?_, lasts.capacity.symm⟩
  rw [deleted hdel] at live
  cases live

/-- **A step places nothing beyond the capacity of a queue** but what was postponed. -/
theorem Bounded.take (h : Bounded past w.broker.registry) (books : Books (.new settings) past w)
    (ledger : Ledger records past w) (e : Event) : Bounded (past ++ [w.take e]) (w.take e).after.broker.registry := by
  have hs := w.take_stocked books.plain e
  intro q x' n hx' live' capacity' a ha
  cases hx : w.broker.registry.get? q with
  | none =>
    -- the queue was made just now, and nothing came to it yet
    have hnew : onQueue q (w.take e).placed = [] := onQueue_eq_nil fun p hp he => by
      obtain ⟨x, hx', -⟩ := books.placed_hasQueue e p hp
      rw [he, hx] at hx'
      cases hx'
    simp [standing, arrivals_snoc, arrivals_eq_nil ledger hx, hnew] at ha
  | some x =>
    obtain ⟨live, hcapacity⟩ := live_before books hx hx' live'
    have capacity : x.capacity = some n := hcapacity.trans capacity'
    have hlength := length_arrivals books ledger hx live
    unfold standing at ha
    rw [List.drop_drop, arrivals_snoc, List.flatMap_append, List.flatMap_singleton, onQueue_append, List.length_append,
      List.drop_append, List.mem_append] at ha
    -- what stands there came before this step, where the invariant has it, or in this step
    rcases ha with ha | ha
    · refine h q x n hx live capacity a ?_
      unfold standing
      rw [List.drop_drop]
      exact (List.drop_sublist_drop_left _ (by omega)).subset ha
    · obtain ⟨entry, hentry, rfl⟩ := List.mem_map.1 (List.mem_of_mem_drop ha)
      have placed : onQueue q (w.take e).placed ≠ [] := List.ne_nil_of_mem hentry
      rcases Step.postponed_of_placed hs (fun hnil => placed (by rw [hnil]; rfl)) with hp | ⟨l, d, he⟩
      · exact hp
      · cases he
        obtain ⟨takes, hone⟩ := World.room_of_placed books.plain placed
        obtain ⟨y, hy, room⟩ := takes.room
        rw [Registry.live?_eq_some.2 ⟨hx, live⟩] at hy
        cases hy
        have room := room n capacity
        -- there was room, so the one entry of a delivery is not beyond the capacity
        rw [List.drop_eq_nil_of_le (by rw [List.length_map]; omega)] at ha
        cases ha

end

theorem World.verdict?_sound {w : World} {l : LinkId} {d : Delivery} {v : Verdict}
    (h : (w.take (.deliver l d)).verdict? = some v) :
    Routing.Sound w.broker.registry (v.placements.map (·.queue)) := by
  obtain ⟨-, h, link, b, hl, -⟩ := take_of_verdict? h
  obtain ⟨message, t, -, -, h⟩ := read_of_verdict? hl h
  obtain ⟨r, -, h⟩ := Option.bind_eq_some_iff.1 h
  obtain ⟨outcome, -, h⟩ := Option.bind_eq_some_iff.1 h
  cases h
  exact (w.broker.acquire message.id).entriesFor_sound r message

theorem length_le_of_drop {standing : List (Event × QueueEntry)} {n : Nat}
    (h : ∀ a ∈ standing.drop n, a.1.postponed = true) : standing.length ≤ n + standing.countP (·.1.postponed) := by
  have hdrop : (standing.drop n).countP (·.1.postponed) = (standing.drop n).length := List.countP_eq_length.2 h
  have hle : (standing.drop n).countP (·.1.postponed) ≤ standing.countP (·.1.postponed) :=
    (List.drop_sublist n standing).countP_le
  rw [List.length_drop] at hdrop
  omega

/-- **A queue gets no deeper than its capacity, but for what was postponed**: in every state of a run what is on a queue
is what came to it and was not popped, and all of it that stands beyond the capacity was placed by a commit, or by
sending a routing result that was kept.  Whatever a delivery publishes, in a transaction or outside, it publishes to
live queues that are below their capacity just then, and to each once. -/
theorem depths_of_run (settings : HostSettings) (store : Store) (principal : Principal) (es : List Event) :
    let past := (World.new settings store principal).history es
    let w := (World.new settings store principal).after es
    (∀ q x, w.broker.registry.get? q = some x → (x.deleted = true → x.entries = []) ∧
      (x.deleted = false → x.entries = (standing q past).map Prod.snd ∧
        ∀ n, x.capacity = some n → (∀ a ∈ (standing q past).drop n, a.1.postponed = true) ∧
          x.entries.length ≤ n + (standing q past).countP (·.1.postponed))) ∧
    ∀ l d t ps, (w.take (.deliver l d)).publication? = some (t, ps) → (ps.map (·.queue)).Nodup ∧
      ∀ p ∈ ps, ∃ x, w.broker.registry.live? p.queue = some x ∧ ∀ n, x.capacity = some n → x.entries.length < n := by
  intro past w
  have books : Books (.new settings) past w := books_of_run settings store principal es
  obtain ⟨ledger, bounded⟩ : Ledger store.records past w ∧ Bounded past w.broker.registry := by
    refine run_induction settings store principal
      (P := fun past w => Ledger store.records past w ∧ Bounded past w.broker.registry)
      ⟨.new settings store principal, fun q x n _ _ _ a ha => ?_⟩
      (fun past w e books h => ⟨h.1.take books e, h.2.take books h.1 e⟩) es
    simp [standing, arrivals] at ha
  refine ⟨fun q x hx => ⟨ledger.emptied q x hx, fun live => ?_⟩, fun l d t ps hpub => ?_⟩
  · have hstanding := entries_eq_standing books ledger hx live
    refine ⟨hstanding, fun n capacity => ⟨bounded q x n hx live capacity, ?_⟩⟩
    rw [hstanding, List.length_map]
    exact length_le_of_drop (bounded q x n hx live capacity)
  · have hp : (w.take (.deliver l d)).publication? =
        (w.take (.deliver l d)).verdict?.map fun v => (v.transaction, v.placements) := rfl
    rw [hp] at hpub
    obtain ⟨v, hv, hpub⟩ := Option.map_eq_some_iff.1 hpub
    cases hpub
    obtain ⟨nodup, takes⟩ := World.verdict?_sound hv
    exact ⟨nodup, fun p hp => (takes p.queue (List.mem_map_of_mem hp)).room⟩

/-- A queue takes one message.  Two deliveries in one transaction each find it empty, and then the transaction is
committed. -/
def overfull : List Event :=
  let d (tag : DeliveryTag) : Delivery :=
    ⟨tag, 0, .ok ⟨⟨none, none, none, [], false, [], none⟩, 0⟩, some (.transactional 1 none), false, none⟩
  [.administer (.createQueue { name := "orders", capacity := some 1 }),
    .link "in" {} [0] true,
    .attach 0 .plain { target := some (.node { address := some "orders" }) },
    .begin, .deliver 0 (d [1]), .deliver 0 (d [2]), .resolve .commit 1]

/-- What is on the queue beyond its capacity was placed by the commit. -/
theorem overfull_standing :
    let past := (World.new {} ⟨true, ∅, []⟩ {}).history overfull
    ((standing 2 past).drop 1).length = 1 ∧ ∀ a ∈ (standing 2 past).drop 1, a.1.postponed = true := by
  intro past
  have facts : ((((World.new {} ⟨true, ∅, []⟩ {}).after overfull).broker.registry.get? 2).filter fun x =>
      x.deleted = false ∧ x.capacity = some 1).isSome = true := by decide +kernel
  obtain ⟨x, hx⟩ := Option.isSome_iff_exists.1 facts
  obtain ⟨hx, hfacts⟩ := Option.filter_eq_some_iff.1 hx
  obtain ⟨live, capacity⟩ := of_decide_eq_true hfacts
  obtain ⟨-, h⟩ := (depths_of_run {} ⟨true, ∅, []⟩ {} overfull).1 2 x hx
  exact ⟨by decide +kernel, ((h live).2 1 capacity).1⟩

/-- So there are two entries on a queue that takes one. -/
theorem overfull_depth : (((World.new {} ⟨true, ∅, []⟩ {}).after overfull).broker.registry.get? 2).map
    (fun x => (x.deleted, x.capacity, x.entries.length)) = some (false, some 1, 2) := by
  decide +kernel

end MessageBroker
