import MessageBroker.Proofs.Broker.Lagging
import MessageBroker.Proofs.Run.Books
/-!
# Deliveries in a transaction, once it is committed

Deliveries that are made in a transaction of their own come, with its commit, to the same as if each of them had been
made outside transactions (`commit_same_effect`), if they are placed on queues without limit.  On a queue with a limit
it would make a difference, since what is held back takes no room.
-/
namespace MessageBroker

open Broker Registry

/-- A delivery was processed in this step, and its outcome has a state for the sender. -/
def Step.supported (s : Step) : Bool := s.verdict?.any (·.action.disposition.state.isSome)

/-- Deliveries in a transaction that is begun for them, and its commit. -/
def enlisted (l : LinkId) (i : TransactionId) (ds : List Delivery) : List Event :=
  .begin :: (ds.map fun d => .deliver l (d.within i)) ++ [.resolve .commit i]

namespace World

variable {w w' : World} {b₀ : Broker} {l : LinkId} {i : TransactionId} {ps : List PendingEnqueue}
  {as : List SettlementAction}

/-- A delivery outside transactions publishes what it comes to. -/
theorem publishes_of_verdict? {d : Delivery} {v : Verdict} (hv : (w.take (.deliver l d)).verdict? = some v)
    (outside : d.transaction? = none) : (w.take (.deliver l d)).publishes = v.placements := by
  obtain ⟨-, decided, -⟩ := take_of_verdict? hv
  have hauto : v.transaction = .autoCommit := by
    have hid := (fixes_of_verdict? decided).1
    rw [outside] at hid
    cases ht : v.transaction with
    | autoCommit => rfl
    | inside j =>
      rw [ht] at hid
      cases hid
  have hp : (w.take (.deliver l d)).publication? =
      (w.take (.deliver l d)).verdict?.map fun v => (v.transaction, v.placements) := rfl
  rw [Step.publishes, hp, hv, Option.map_some, Option.map_some, hauto]
  rfl

/-- **One delivery that is made outside transactions, and the same one in the transaction.** -/
theorem lags_take (h : Lags b₀ w.broker w'.broker i ps as)
    (loyal : ∀ link r, b₀.link? l = some link → link.receiver = some r → r.Loyal) {d : Delivery}
    (outside : d.transaction? = none) (supported : (w.take (.deliver l d)).supported = true)
    (unlimited : ∀ p ∈ (w.take (.deliver l d)).publishes, (b₀.registry.get? p.queue).bind Destination.capacity = none)
    (fresh : ∀ a ∈ as, a.link = l → a.disposition.tag ≠ d.tag) :
    (w'.take (.deliver l (d.within i))).answer = .delivered (.ok ()) ∧ ∃ ps' a, a.disposition.tag = d.tag ∧
      Lags b₀ (w.take (.deliver l d)).after.broker (w'.take (.deliver l (d.within i))).after.broker i ps'
        (as ++ [a]) := by
  obtain ⟨v, hv, hsome⟩ := (Option.any_eq_true _ _).1 supported
  obtain ⟨new, decided, link, b, hl, hr, htake⟩ := take_of_verdict? hv
  obtain ⟨link₀, hl₀, heq⟩ := h.receiver hl
  rw [publishes_of_verdict? hv outside] at unlimited
  obtain ⟨link', a, hl', done', -, htag, h'⟩ := h.receive hl (fun r hr => loyal link₀ r hl₀ (heq.trans hr)) outside new
    (by rw [hr]) decided hsome unlimited fresh
  rw [hr] at h'
  rw [htake]
  have htake' : w'.take (.deliver l (d.within i)) = ⟨w', .deliver l (d.within i), .delivered (.ok ()),
      { w' with broker := (w'.broker.receive l link' (d.within i)).1 }⟩ := by
    simp only [take, step, hl', done']
  rw [htake']
  exact ⟨rfl, ps ++ v.placements, a, htag, h'⟩

/-- **A series of deliveries outside transactions, and the same one in the transaction.** -/
theorem lags_deliveries (loyal : ∀ link r, b₀.link? l = some link → link.receiver = some r → r.Loyal) :
    ∀ (ds : List Delivery) {w w' : World} {ps : List PendingEnqueue} {as : List SettlementAction},
      Lags b₀ w.broker w'.broker i ps as → (∀ d ∈ ds, d.transaction? = none) → (ds.map (·.tag)).Nodup →
      (∀ s ∈ w.history (ds.map (.deliver l)), s.supported = true) →
      (∀ s ∈ w.history (ds.map (.deliver l)), ∀ p ∈ s.publishes,
        (b₀.registry.get? p.queue).bind Destination.capacity = none) →
      (∀ a ∈ as, a.link = l → a.disposition.tag ∉ ds.map (·.tag)) →
      (w'.history (ds.map fun d => .deliver l (d.within i))).map (·.answer) = ds.map (fun _ => .delivered (.ok ())) ∧
        ∃ ps' as', Lags b₀ (w.after (ds.map (.deliver l))).broker
          (w'.after (ds.map fun d => .deliver l (d.within i))).broker i ps' as'
  | [], _, _, ps, as, h, _, _, _, _, _ => ⟨rfl, ps, as, h⟩
  | d :: ds, w, w', ps, as, h, outside, distinct, supported, unlimited, fresh => by
    obtain ⟨hd, hds⟩ := List.nodup_cons.1 distinct
    obtain ⟨answered, ps', a, htag, h'⟩ := lags_take h loyal (outside d List.mem_cons_self)
      (supported _ List.mem_cons_self) (unlimited _ List.mem_cons_self) fun a ha hl ht =>
        fresh a ha hl (ht ▸ List.mem_cons_self)
    obtain ⟨ih, hlags⟩ := lags_deliveries loyal ds h' (fun d' hd' => outside d' (List.mem_cons_of_mem _ hd')) hds
      (fun s hs => supported s (List.mem_cons_of_mem _ hs)) (fun s hs => unlimited s (List.mem_cons_of_mem _ hs))
      fun a' ha' hl => by
        rcases List.mem_append.1 ha' with ha' | ha'
        · exact fun hmem => fresh a' ha' hl (List.mem_cons_of_mem _ hmem)
        · rw [List.mem_singleton.1 ha', htag]
          exact hd
    exact ⟨congrArg₂ List.cons answered ih, hlags⟩

end World

/-- **A committed transaction has the same effect as deliveries outside transactions**: if deliveries with distinct tags
are processed one after the other on a link, with outcomes that their sender knows, and are placed on queues without
limit, then in a transaction of their own all of them are processed too, its commit is granted, and everything comes to
the same.  It is presupposed that the link's receiver does not meddle with the transaction. -/
theorem commit_same_effect {w : World} {l : LinkId} {ds : List Delivery}
    (loyal : ∀ link r, w.broker.link? l = some link → link.receiver = some r → r.Loyal)
    (outside : ∀ d ∈ ds, d.transaction? = none) (distinct : (ds.map (·.tag)).Nodup)
    (supported : ∀ s ∈ w.history (ds.map (.deliver l)), s.supported = true)
    (unlimited : ∀ s ∈ w.history (ds.map (.deliver l)), ∀ p ∈ s.publishes,
      (w.broker.registry.get? p.queue).bind Destination.capacity = none) :
    let i := w.broker.transactions.length + 1
    (w.history (enlisted l i ds)).map (·.answer) =
        .begun i :: ds.map (fun _ => .delivered (.ok ())) ++ [.resolved (.ok ())] ∧
      SameEffect (w.after (ds.map (.deliver l))).broker (w.after (enlisted l i ds)).broker := by
  intro i
  have h₀ : Lags w.broker w.broker (w.take .begin).after.broker i [] [] := lags_begin w.broker
  obtain ⟨answered, ps, as, h⟩ := World.lags_deliveries loyal ds h₀ outside distinct supported unlimited
    fun a ha => (List.not_mem_nil ha).elim
  obtain ⟨committed, same⟩ := h.commit
  unfold enlisted
  refine ⟨?_, ?_⟩
  · rw [List.cons_append, World.history, World.history_append, List.map_cons, List.map_append, answered]
    exact congrArg (fun x => Answer.begun i :: (ds.map fun _ => Answer.delivered (.ok ())) ++ [.resolved x]) committed
  · rw [List.cons_append, World.after, World.after_append]
    exact same

/-- Two persistent messages for a durable queue, one of them settled at once and one later. -/
theorem two_committed :
    let w := (World.new {} ⟨true, ∅, []⟩ {}).after [.administer (.createQueue { name := "orders", durable := true }),
      .link "in" {} [0] true, .attach 0 .plain { target := some (.node { address := some "orders" }) }]
    let message (m : MessageId) : Message := ⟨⟨none, none, none, [], true, [7], none⟩, m⟩
    let ds : List Delivery := [⟨[1], 0, .ok (message 0), none, false, none⟩,
      ⟨[2], 0, .ok (message 1), some (.final .released), false, some .second⟩]
    (w.after (ds.map (.deliver 0))).broker.store.records.length = 2 ∧
      SameEffect (w.after (ds.map (.deliver 0))).broker (w.after (enlisted 0 1 ds)).broker := by
  intro w message ds
  have hplain : w.broker.Plain := (books_of_run {} ⟨true, ∅, []⟩ {} _).plain
  have distinct : (ds.map (·.tag)).Nodup := by decide +kernel
  exact ⟨by decide +kernel, (commit_same_effect (w := w) (l := 0) (fun link r hl hr => (hplain 0 link r hl hr).loyal)
    (by decide +kernel) distinct (by decide +kernel) (by decide +kernel)).2⟩

end MessageBroker
