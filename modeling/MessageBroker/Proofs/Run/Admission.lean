import MessageBroker.Proofs.Broker.Failing
import MessageBroker.Proofs.Run.Stock
/-!
# What is let in

A message that came in over a link is on a queue or in a transaction only if the principal may send it under its user
id and, if it is persistent, the store is (`admitted_of_run`).  Where an entry came from is told by the history: each
stands for the event that published it, and keeps that mark through the end of its transaction (`brought`).
-/
namespace MessageBroker

/-- A message under no user id or the principal's own, and not persistent unless the store is. -/
structure Admitted (principal : Principal) (persistent : Bool) (m : Message) : Prop where
  user : m.userId = none ∨ m.userId = some principal.name
  durability : m.persistent = true → persistent = true

/-! ## Where entries came from -/

/-- What was published for the end of a transaction, with the events that published it. -/
def deferred (past : List Step) (i : TransactionId) : List (Event × PendingEnqueue) :=
  past.flatMap fun s => (s.buffers i).map (s.event, ·)

/-- What a step places after a history, with the events that published it. -/
def broughtBy (past : List Step) (s : Step) : List (Event × PendingEnqueue) :=
  s.publishes.map (s.event, ·) ++ (s.committed?.map (deferred past)).getD []

/-- What is placed in a history that goes on from another one, with the events that published it. -/
def brought : List Step → List Step → List (Event × PendingEnqueue)
  | _, [] => []
  | past, s :: rest => broughtBy past s ++ brought (past ++ [s]) rest

/-- What came to a queue and was not popped, with the events that published it. -/
def remaining (q : DestinationId) (past : List Step) : List (Event × QueueEntry) :=
  (((brought [] past).filter (·.2.queue == q)).map fun z => (z.1, z.2.entry)).drop
    (onQueue q (past.flatMap Step.taken)).length

theorem map_snd_deferred (past : List Step) (i : TransactionId) : (deferred past i).map Prod.snd = buffered past i := by
  unfold deferred buffered
  rw [List.map_flatMap]
  refine List.flatMap_congr fun s _ => ?_
  rw [List.map_map]
  exact List.map_id _

theorem map_snd_brought (ss : List Step) : ∀ past, (brought past ss).map Prod.snd = placements past ss := by
  induction ss with
  | nil => exact fun past => rfl
  | cons s ss ih =>
    intro past
    have hs : (broughtBy past s).map Prod.snd = placedBy past s := by
      unfold broughtBy placedBy
      rw [List.map_append, List.map_map]
      congr 1
      · exact List.map_id _
      · cases s.committed? with
        | none => rfl
        | some i => exact map_snd_deferred past i
    rw [brought, placements, List.map_append, hs, ih]

/-- What is on a live queue is what remains of what came to it. -/
theorem Books.entries_eq_remaining {settings : HostSettings} {past : List Step} {w : World}
    (books : Books (.new settings) past w) {q : DestinationId} {x : Destination}
    (hx : w.broker.registry.get? q = some x) (live : x.deleted = false) :
    x.entries = (remaining q past).map Prod.snd := by
  have h := books.flow.entries q x hx live
  have hcame : (((brought [] past).filter (·.2.queue == q)).map fun z => (z.1, z.2.entry)).map Prod.snd =
      onQueue q (placements [] past) := by
    rw [← map_snd_brought, onQueue, List.filter_map, List.map_map, List.map_map]
    rfl
  rw [entriesOf_new, List.nil_append] at h
  unfold remaining
  rw [List.map_drop, hcame, ← h, List.drop_left]

/-- A step published an entry. -/
def Step.Published (s : Step) (p : PendingEnqueue) : Prop := ∃ t ps, s.publication? = some (t, ps) ∧ p ∈ ps

theorem Transaction.mem_of_mem_later {α : Type} {t : Transaction} {i : TransactionId} {xs : List α} {x : α}
    (h : x ∈ t.later i xs) : x ∈ xs := by
  unfold later at h
  split at h
  · exact h
  · cases h

theorem Transaction.mem_of_mem_now {α : Type} {t : Transaction} {xs : List α} {x : α} (h : x ∈ t.now xs) : x ∈ xs := by
  cases t with
  | autoCommit => exact h
  | inside i => cases h

theorem published_of_mem_deferred {past : List Step} {i : TransactionId} {z : Event × PendingEnqueue}
    (h : z ∈ deferred past i) : ∃ s ∈ past, s.event = z.1 ∧ s.Published z.2 := by
  obtain ⟨s, hs, h⟩ := List.mem_flatMap.1 h
  obtain ⟨p, hp, rfl⟩ := List.mem_map.1 h
  unfold Step.buffers at hp
  cases hpub : s.publication? with
  | none => simp [hpub] at hp
  | some pub =>
    rw [hpub] at hp
    exact ⟨s, hs, rfl, pub.1, pub.2, hpub, Transaction.mem_of_mem_later hp⟩

theorem published_of_mem_brought (ss : List Step) {z : Event × PendingEnqueue} :
    ∀ past, z ∈ brought past ss → ∃ s ∈ past ++ ss, s.event = z.1 ∧ s.Published z.2 := by
  induction ss with
  | nil => exact fun past h => by cases h
  | cons s ss ih =>
    intro past h
    rcases List.mem_append.1 h with h | h
    · rcases List.mem_append.1 h with h | h
      · obtain ⟨p, hp, rfl⟩ := List.mem_map.1 h
        refine ⟨s, by simp, rfl, ?_⟩
        unfold Step.publishes at hp
        cases hpub : s.publication? with
        | none => simp [hpub] at hp
        | some pub =>
          rw [hpub] at hp
          exact ⟨pub.1, pub.2, hpub, Transaction.mem_of_mem_now hp⟩
      · cases hc : s.committed? with
        | none => simp [hc] at h
        | some i =>
          rw [hc] at h
          obtain ⟨s', hs', hp⟩ := published_of_mem_deferred h
          exact ⟨s', List.mem_append_left _ hs', hp⟩
    · obtain ⟨s', hs', hp⟩ := ih _ h
      exact ⟨s', by simpa using hs', hp⟩

theorem published_of_mem_remaining {q : DestinationId} {past : List Step} {z : Event × QueueEntry}
    (h : z ∈ remaining q past) : ∃ s ∈ past, s.event = z.1 ∧ s.Published ⟨q, z.2⟩ := by
  obtain ⟨z', hz', rfl⟩ := List.mem_map.1 (List.mem_of_mem_drop h)
  obtain ⟨hz', hq⟩ := List.mem_filter.1 hz'
  obtain ⟨s, hs, event, published⟩ := published_of_mem_brought past [] hz'
  refine ⟨s, hs, event, ?_⟩
  rw [← beq_iff_eq.1 hq]
  exact published

/-! ## Who may send what -/

/-- The principal and the kind of the store are what they were. -/
def Broker.Guarded (b b' : Broker) : Prop := b'.principal = b.principal ∧ b'.store.persistent = b.store.persistent

namespace Broker

theorem Guarded.trans {b b' b'' : Broker} (h : Guarded b b') (h' : Guarded b' b'') : Guarded b b'' :=
  ⟨h'.1.trans h.1, h'.2.trans h.2⟩

theorem linkSteps_guarded : LinkSteps Guarded where
  refl := fun _ => ⟨rfl, rfl⟩
  trans := .trans
  administered := by
    intro b b' h
    cases h with
    | refused ns => exact ⟨rfl, rfl⟩
    | granted granted copies ns => exact ⟨rfl, rfl⟩
    | deleted granted es copies ns => exact ⟨rfl, rfl⟩
  modifyLink := fun _ _ _ _ _ => ⟨rfl, rfl⟩
  receivers := fun _ _ => ⟨rfl, rfl⟩
  dynamicNodes := fun _ _ => ⟨rfl, rfl⟩
  links := fun _ _ _ _ _ => ⟨rfl, rfl⟩

theorem workSteps_guarded : WorkSteps Guarded where
  refl := fun _ => ⟨rfl, rfl⟩
  trans := .trans
  books := fun _ _ _ _ _ _ _ _ => ⟨rfl, rfl⟩
  place := fun b q entry => by
    unfold place
    split <;> exact ⟨rfl, rfl⟩
  unsettled := fun _ _ _ => ⟨rfl, rfl⟩

/-- **Nothing changes who may send what.** -/
theorem eventSteps_guarded : EventSteps Guarded where
  links := linkSteps_guarded
  works := workSteps_guarded
  pop := fun b q => by
    unfold pop
    split <;> exact ⟨rfl, rfl⟩
  told := fun _ _ _ => ⟨rfl, rfl⟩
  newLink := fun _ _ _ _ _ => ⟨rfl, rfl⟩

/-- A message keeps what it is on its way. -/
theorem message_routeTo (b : Broker) (resolved : Resolved) (message : Message) :
    (b.routeTo resolved message).2.message = message := by
  unfold routeTo
  split
  · unfold route Registry.route
    simp only
    split <;> rfl
  · rfl

/-- **What a receiver routes is the message itself**, which is not persistent unless the store is. -/
theorem of_mem_entriesFor {b : Broker} {r : Receiver} {message : Message} {p : PendingEnqueue}
    (h : p ∈ b.entriesFor r message) :
    p.entry.message = message ∧ (message.persistent = true → b.store.persistent = true) := by
  have hplaced : ∀ resolved : Resolved, p ∈ (b.routeTo resolved message).2.placements → p.entry.message = message := by
    intro resolved hp
    obtain ⟨q, -, rfl⟩ := List.mem_map.1 hp
    exact b.message_routeTo resolved message
  unfold entriesFor resultFor at h
  split at h
  · cases h
  · rename_i hstore
    refine ⟨?_, fun hm => by simpa [hm] using hstore⟩
    split at h
    · exact hplaced _ h
    · cases hres : message.address.bind b.registry.resolve with
      | none => simp [hres] at h
      | some resolved =>
        rw [hres] at h
        exact hplaced resolved h
    · cases h

end Broker

theorem Principal.user_of_authorize {p : Principal} (validates : p.validate = true) {user : Option String}
    (h : p.authorize user = .ok ()) : user = none ∨ user = some p.name := by
  cases user with
  | none => exact .inl rfl
  | some user =>
    right
    by_cases hu : user = p.name
    · rw [hu]
    · simp [Principal.authorize, validates, hu] at h

open Broker in
/-- **A delivery publishes the message that it carries**, if that is let in. -/
theorem World.admitted_of_published {w : World} {l : LinkId} {d : Delivery} (validates : w.broker.principal.validate = true)
    {p : PendingEnqueue} (h : (w.take (.deliver l d)).Published p) :
    d.decoded = .ok p.entry.message ∧ Admitted w.broker.principal w.broker.store.persistent p.entry.message := by
  obtain ⟨t, ps, hpub, hp⟩ := h
  have heq : (w.take (.deliver l d)).publication? =
      (w.take (.deliver l d)).verdict?.map fun v => (v.transaction, v.placements) := rfl
  rw [heq] at hpub
  obtain ⟨v, hv, hpub⟩ := Option.map_eq_some_iff.1 hpub
  cases hpub
  obtain ⟨new, hv, link, b, hl, hr, -⟩ := take_of_verdict? hv
  obtain ⟨message, t, read, found, hv⟩ := read_of_verdict? hl hv
  obtain ⟨r, -, hv⟩ := Option.bind_eq_some_iff.1 hv
  obtain ⟨outcome, -, hv⟩ := Option.bind_eq_some_iff.1 hv
  cases hv
  obtain ⟨rfl, hstore⟩ := of_mem_entriesFor (b := w.broker.acquire message.id) hp
  have hauth := authorized_of_receive (congrArg Prod.snd hr) new read found
  refine ⟨?_, Principal.user_of_authorize validates hauth, hstore⟩
  unfold decode at read
  split at read
  · cases read
  · split at read
    · cases read
    · exact read

/-- **No message gets past admission.**  In every state of a run with a principal that validates user ids, whatever
links, destinations and transactions there are: what is on a live queue is what was brought to it and was not popped,
nothing is on a deleted one, and an open transaction holds back what was published for its end; and each entry of these
that came over a link carries the message of its delivery, under no user id or the principal's own, and not persistent
unless the store is. -/
theorem admitted_of_run (settings : HostSettings) (store : Store) {principal : Principal}
    (validates : principal.validate = true) (es : List Event) :
    let past := (World.new settings store principal).history es
    let w := (World.new settings store principal).after es
    (∀ q x, w.broker.registry.get? q = some x → (x.deleted = true → x.entries = []) ∧
      (x.deleted = false → x.entries = (remaining q past).map Prod.snd ∧ ∀ z ∈ remaining q past, ∀ l d,
        z.1 = .deliver l d → d.decoded = .ok z.2.message ∧ Admitted principal store.persistent z.2.message)) ∧
    ∀ i t, w.broker.active? i = some t → t.pending = (deferred past i).map Prod.snd ∧ ∀ z ∈ deferred past i, ∀ l d,
      z.1 = .deliver l d → d.decoded = .ok z.2.entry.message ∧
        Admitted principal store.persistent z.2.entry.message := by
  intro past w
  have books : Books (.new settings) past w := books_of_run settings store principal es
  have ledger : Ledger store.records past w := ledger_of_run settings store principal es
  -- who may send what is the same in every state, so each delivery was let in as the last one would be
  obtain ⟨-, admitted⟩ : Broker.Guarded (World.new settings store principal).broker w.broker ∧
      ∀ s ∈ past, ∀ p l d, s.Published p → s.event = .deliver l d →
        d.decoded = .ok p.entry.message ∧ Admitted principal store.persistent p.entry.message := by
    refine run_induction settings store principal
      (P := fun past w => Broker.Guarded (World.new settings store principal).broker w.broker ∧
        ∀ s ∈ past, ∀ p l d, s.Published p → s.event = .deliver l d →
          d.decoded = .ok p.entry.message ∧ Admitted principal store.persistent p.entry.message)
      ⟨⟨rfl, rfl⟩, fun s hs => by cases hs⟩ (fun past w e _ ih => ⟨ih.1.trans (Broker.eventSteps_guarded.take w e), ?_⟩) es
    rw [List.forall_mem_append, List.forall_mem_singleton]
    refine ⟨ih.2, fun p l d published event => ?_⟩
    cases event
    obtain ⟨hprincipal, hstore⟩ := ih.1
    have h := World.admitted_of_published (hprincipal ▸ validates) published
    rwa [hprincipal, hstore] at h
  refine ⟨fun q x hx => ⟨ledger.emptied q x hx, fun live => ⟨books.entries_eq_remaining hx live, ?_⟩⟩, fun i t ht => ⟨?_, ?_⟩⟩
  · intro z hz l d event
    obtain ⟨s, hs, same, published⟩ := published_of_mem_remaining hz
    exact admitted s hs _ l d published (same.trans event)
  · have h := books.account i (t.pending, t.actions) (by rw [Broker.account, ht]; rfl)
    rw [map_snd_deferred]
    exact congrArg Prod.fst h
  · intro z hz l d event
    obtain ⟨s, hs, same, published⟩ := published_of_mem_deferred hz
    exact admitted s hs _ l d published (same.trans event)

/-- A delivery with a message under a user id. -/
def letter (t : UInt8) (user : Option String) (persistent : Bool) (state : Option DeliveryState) : Delivery :=
  ⟨[t], 0, .ok ⟨⟨none, none, user, [], persistent, [], none⟩, 0⟩, state, false, none⟩

/-- Over one link, with a store that is not persistent: a forged message, a persistent one, one in a transaction and one
outside. -/
def mail : List Event :=
  [.administer (.createQueue { name := "orders", durable := true }),
    .link "in" {} [0] true,
    .attach 0 .plain
      { source := some { outcomes := some [.accepted, .rejected] }, target := some (.node { address := some "orders" }) },
    .begin,
    .deliver 0 (letter 1 (some "mallory") false none),
    .deliver 0 (letter 2 (some "guest") true none),
    .deliver 0 (letter 3 none false (some (.transactional 1 none))),
    .deliver 0 (letter 4 (some "guest") false none)]

/-- One is on the queue, and the other one in the transaction; all that came over the link was let in. -/
theorem admitted_mail :
    let past := (World.new {} ⟨false, ∅, []⟩ { validate := true }).history mail
    (remaining 2 past).length = 1 ∧ (deferred past 1).length = 1 ∧
      (∀ z ∈ remaining 2 past, ∀ l d, z.1 = .deliver l d → d.decoded = .ok z.2.message ∧
        Admitted { validate := true } false z.2.message) ∧
      ∀ z ∈ deferred past 1, ∀ l d, z.1 = .deliver l d → d.decoded = .ok z.2.entry.message ∧
        Admitted { validate := true } false z.2.entry.message := by
  intro past
  have live : ((((World.new {} ⟨false, ∅, []⟩ { validate := true }).after mail).broker.registry.get? 2).filter
      (!·.deleted)).isSome = true := by decide +kernel
  have isOpen : (((World.new {} ⟨false, ∅, []⟩ { validate := true }).after mail).broker.active? 1).isSome = true := by
    decide +kernel
  obtain ⟨x, hx⟩ := Option.isSome_iff_exists.1 live
  obtain ⟨hx, live⟩ := Option.filter_eq_some_iff.1 hx
  obtain ⟨t, ht⟩ := Option.isSome_iff_exists.1 isOpen
  obtain ⟨onQueues, inTransactions⟩ :=
    admitted_of_run {} ⟨false, ∅, []⟩ (show Principal.validate { validate := true } = true from rfl) mail
  obtain ⟨-, remains⟩ := (onQueues 2 x hx).2 (by simpa using live)
  exact ⟨by decide +kernel, by decide +kernel, remains, (inTransactions 1 t ht).2⟩

end MessageBroker
