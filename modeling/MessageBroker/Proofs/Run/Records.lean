import Mathlib.Data.List.Flatten
import MessageBroker.Proofs.Run.Stock
/-!
# Nothing persistent is queued before it is stored

The broker accounts for each record when it has written it, and for each entry when it has placed it.  In its account the
records of a publish or a commit come before the first of its entries, so at every moment there is a record for each
entry that is due one, on the queues or popped (`stored_before_placed`).
-/
namespace MessageBroker

/-- **Records are ahead of placements**: at every moment of what was done there is one for each entry placed so far that is
due one. -/
def Ahead (due : PendingEnqueue → Option StoreRecord) (ds : List Deed) : Prop :=
  ∀ n r, (((ds.take n).filterMap Deed.placement?).filterMap due).count r ≤ ((ds.take n).filterMap Deed.record?).count r

namespace Ahead

variable {due due' : PendingEnqueue → Option StoreRecord}

theorem append {ds ds' : List Deed} (h : Ahead due ds) (h' : Ahead due ds') : Ahead due (ds ++ ds') := fun n r => by
  simp only [List.take_append, List.filterMap_append, List.count_append]
  exact Nat.add_le_add (h n r) (h' _ r)

theorem flatMap {α : Type} {f : α → List Deed} : ∀ {xs : List α}, (∀ x ∈ xs, Ahead due (f x)) → Ahead due (xs.flatMap f)
  | [], _ => fun n r => by simp
  | x :: xs, h => by
    rw [List.flatMap_cons]
    exact (h x List.mem_cons_self).append (flatMap fun x' hx' => h x' (List.mem_cons_of_mem _ hx'))

theorem congr {ds : List Deed} (h : Ahead due ds) (same : ∀ p ∈ ds.filterMap Deed.placement?, due' p = due p) :
    Ahead due' ds := fun n r => by
  have hsub := ((List.take_sublist n ds).filterMap Deed.placement?).subset
  rw [List.filterMap_congr fun p hp => same p (hsub hp)]
  exact h n r

end Ahead

theorem filterMap_placement? (rs : List StoreRecord) (ps : List PendingEnqueue) :
    (rs.map Deed.record ++ ps.map Deed.place).filterMap Deed.placement? = ps := by
  have hrecord : Deed.placement? ∘ Deed.record = fun _ => none := rfl
  have hplace : Deed.placement? ∘ Deed.place = some := rfl
  rw [List.filterMap_append, List.filterMap_map, List.filterMap_map, hrecord, hplace, List.filterMap_some]
  simp

theorem filterMap_record? (rs : List StoreRecord) (ps : List PendingEnqueue) :
    (rs.map Deed.record ++ ps.map Deed.place).filterMap Deed.record? = rs := by
  have hrecord : Deed.record? ∘ Deed.record = some := rfl
  have hplace : Deed.record? ∘ Deed.place = fun _ => none := rfl
  rw [List.filterMap_append, List.filterMap_map, List.filterMap_map, hrecord, hplace, List.filterMap_some]
  simp

theorem take_deeds (rs : List StoreRecord) (ps : List PendingEnqueue) (n : Nat) :
    (rs.map Deed.record ++ ps.map Deed.place).take n =
      (rs.take n).map .record ++ (ps.take (n - rs.length)).map .place := by
  rw [List.take_append, List.map_take, List.map_take, List.length_map]

/-- **What is written first is ahead**, if it is enough. -/
theorem Ahead.of_written {due : PendingEnqueue → Option StoreRecord} {rs : List StoreRecord} {ps : List PendingEnqueue}
    (enough : (ps.filterMap due).Sublist rs) : Ahead due (rs.map .record ++ ps.map .place) := fun n r => by
  rw [take_deeds, filterMap_placement?, filterMap_record?]
  rcases Nat.le_total n rs.length with h | h
  · rw [Nat.sub_eq_zero_of_le h, List.take_zero]
    exact Nat.zero_le _
  · rw [List.take_of_length_le h]
    exact (((List.take_sublist _ ps).filterMap due).trans enough).count_le r

namespace Broker

variable {b : Broker} {ps : List PendingEnqueue}

/-- **What is placed was recorded**, as far as that is due. -/
theorem filterMap_due_placed (b : Broker) (ps : List PendingEnqueue) :
    ((b.placed ps).filterMap b.due).Sublist (b.accepted ps) := by
  unfold placed
  split
  · rename_i h
    rw [accepted_of_grants h]
    exact List.Sublist.refl _
  · exact List.nil_sublist _

/-- So is what comes to a queue of it. -/
theorem filterMap_due_landing (b : Broker) (ps : List PendingEnqueue) :
    ((b.landing (b.placed ps)).filterMap b.due).Sublist (b.accepted ps) :=
  (List.filter_sublist.filterMap b.due).trans (b.filterMap_due_placed ps)

/-! ## On the way -/

/-- What is done when entries are offered. -/
def agenda (b : Broker) (ps : List PendingEnqueue) : List Deed :=
  (b.accepted ps).map .record ++ (b.landing (b.placed ps)).map .place

theorem foldl_perform_take (b : Broker) (ps : List PendingEnqueue) (n : Nat) :
    ((b.agenda ps).take n).foldl perform b = (b.withRecords ((b.accepted ps).take n)).placeAll
      ((b.landing (b.placed ps)).take (n - (b.accepted ps).length)) := by
  have taken : b.store.refused? ((b.accepted ps).take n) = none :=
    Store.refused?_of_prefix (b.store.refused?_taken _) (List.take_prefix n _)
  unfold agenda
  rw [take_deeds, List.foldl_append, foldl_perform_records _ b taken, foldl_perform_places]

/-- **Entries are offered by doing what is on the agenda**, in order. -/
theorem foldl_perform_agenda (b : Broker) (ps : List PendingEnqueue) : (b.agenda ps).foldl perform b = b.offer ps := by
  have taken : b.store.refused? (b.accepted ps) = none := b.store.refused?_taken _
  unfold agenda
  rw [List.foldl_append, foldl_perform_records _ b taken, foldl_perform_places]
  exact placeAll_landing _ (b.withRecords _)

theorem ahead_agenda (b : Broker) (ps : List PendingEnqueue) : Ahead b.due (b.agenda ps) :=
  .of_written (b.filterMap_due_landing ps)

/-- **Between any two deeds, what has been placed was recorded**, and has come to the queues. -/
theorem underway (b : Broker) (ps : List PendingEnqueue) (n : Nat)
    (made : ∀ p ∈ b.placed ps, b.registry.HasQueue p.queue) :
    let b' := ((b.agenda ps).take n).foldl perform b
    let done := ((b.agenda ps).take n).filterMap Deed.placement?
    Registry.Flow b.registry b'.registry [] done ∧ b.registry.Lasts b'.registry ∧
      ∀ r, b.store.records.count r + (done.filterMap b.due).count r ≤ b'.store.records.count r := by
  intro b' done
  -- some records were written, and entries are placed only if these are all
  let rs := (b.accepted ps).take n
  let landed := (b.landing (b.placed ps)).take (n - (b.accepted ps).length)
  have hb : b' = (b.withRecords rs).placeAll landed := foldl_perform_take b ps n
  have htake : (b.agenda ps).take n = rs.map .record ++ landed.map .place := take_deeds _ _ n
  have hdone : done = landed := (congrArg _ htake).trans (filterMap_placement? rs landed)
  have ahead := b.ahead_agenda ps n
  rw [htake, filterMap_placement?, filterMap_record?] at ahead
  have hstore : (b.withRecords rs).store.records = b.store.records ++ rs := rfl
  have hmade : ∀ p ∈ landed, b.registry.HasQueue p.queue := fun p hp =>
    made p (List.mem_of_mem_filter (List.mem_of_mem_take hp))
  rw [hb, hdone]
  refine ⟨(does_placeAll landed (b.withRecords rs) hmade).yields.flow, lasts_placeAll landed (b.withRecords rs),
    fun r => ?_⟩
  rw [store_placeAll, hstore, List.count_append]
  exact Nat.add_le_add_left (ahead r) _

end Broker

open Broker

namespace Ledger

variable {start : List StoreRecord} {past : List Step} {w : World}

/-- **There is a record for each placement that is due one.** -/
theorem count_due (h : Ledger start past w) (r : StoreRecord) :
    ((placements [] past).filterMap w.broker.due).count r ≤ w.broker.store.records.count r := by
  rw [h.placed, h.filterMap_due fun _ _ hp => hp, h.records, List.count_append]
  refine Nat.le_add_left_of_le ((List.Sublist.flatMap_right past fun s hs => ?_).count_le r)
  rw [(h.stocked s hs).placed]
  exact filterMap_due_placed _ _

/-- What was done in each step of the history. -/
theorem deeds_of_mem (h : Ledger start past w) {s : Step} (hs : s ∈ past) :
    s.deeds = s.recorded.map .record ++ s.landed.map .place := (h.stocked s hs).deeds_eq.1

/-- **The account says what was written and placed.** -/
theorem account (h : Ledger start past w) : w.broker.deeds.filterMap Deed.record? = past.flatMap Step.recorded ∧
    w.broker.deeds.filterMap Deed.placement? = past.flatMap Step.landed := by
  rw [h.deeds, List.filterMap_flatMap, List.filterMap_flatMap]
  exact ⟨List.flatMap_congr fun s hs => by rw [h.deeds_of_mem hs, filterMap_record?],
    List.flatMap_congr fun s hs => by rw [h.deeds_of_mem hs, filterMap_placement?]⟩

/-- **All the time records have been ahead.** -/
theorem ahead (h : Ledger start past w) : Ahead w.broker.due w.broker.deeds := by
  rw [h.deeds]
  refine Ahead.flatMap fun s hs => ?_
  rw [h.deeds_of_mem hs]
  have enough : (s.landed.filterMap s.before.broker.due).Sublist s.recorded := by
    rw [Step.landed, (h.stocked s hs).placed]
    exact filterMap_due_landing _ _
  refine (Ahead.of_written enough).congr fun p hp => ?_
  · rw [filterMap_placement?] at hp
    exact due_of_lasts (h.lasts s hs) (h.made s hs p (List.mem_of_mem_filter hp))

end Ledger

/-- **Nothing persistent is queued before it is stored**: in every state of a run the broker's account says what was
written and what was placed so far, and at each moment of it records were ahead, one for each time that a persistent
message was placed on a durable queue.  What a publish or a commit that comes next does, deed by deed, is what the
broker then adds to its account; between any two of these deeds what is on the queues, with what was popped, is what has
been placed so far, and there is a record for each of these placements that is due one. -/
theorem stored_before_placed (settings : HostSettings) (store : Store) (principal : Principal) (es : List Event) :
    let past := (World.new settings store principal).history es
    let w := (World.new settings store principal).after es
    w.broker.store.records = store.records ++ w.broker.deeds.filterMap Deed.record? ∧
    w.broker.deeds.filterMap Deed.placement? = past.flatMap Step.landed ∧
    Ahead w.broker.due w.broker.deeds ∧
    (∀ r, ((placements [] past).filterMap w.broker.due).count r ≤ w.broker.store.records.count r) ∧
    ∀ e s, s = w.take e →
      s.after.broker.deeds = w.broker.deeds ++ s.deeds ∧
      (s.offers ≠ [] → s.after.broker.stock = (s.deeds.foldl perform w.broker).stock) ∧
      s.deeds.filterMap Deed.placement? = w.broker.landing (placedBy past s) ∧
      ∀ n, let b := (s.deeds.take n).foldl perform w.broker
        let done := placements [] past ++ (s.deeds.take n).filterMap Deed.placement?
        (∀ q x, b.registry.get? q = some x → x.deleted = false →
          onQueue q (past.flatMap Step.taken) ++ x.entries = onQueue q done) ∧
        ∀ r, (done.filterMap b.due).count r ≤ b.store.records.count r := by
  intro past w
  have books : Books (.new settings) past w := books_of_run settings store principal es
  have ledger : Ledger store.records past w := ledger_of_run settings store principal es
  refine ⟨by rw [ledger.account.1, ledger.records], ledger.account.2, ledger.ahead, ledger.count_due, ?_⟩
  rintro e s rfl
  have hs := w.take_stocked books.plain e
  have hplaced : w.broker.placed (w.take e).offers = (w.take e).placed := hs.placed.symm
  have hlanded : (w.take e).landed = w.broker.landing (w.take e).placed := rfl
  have hagenda : (w.take e).deeds = w.broker.agenda (w.take e).offers := by
    rw [hs.deeds_eq.1, hlanded, hs.placed]
    rfl
  have hdeeds : (w.take e).deeds.filterMap Deed.placement? = w.broker.landing (w.take e).placed := by
    rw [hs.deeds_eq.1, filterMap_placement?, hlanded]
  have made : ∀ p ∈ w.broker.placed (w.take e).offers, w.broker.registry.HasQueue p.queue := fun p hp =>
    books.placed_hasQueue e p (hplaced ▸ hp)
  refine ⟨hs.deeds_eq.2, fun offered => ?_, by rw [hdeeds, books.placedBy_eq], fun n => ?_⟩
  · rw [hs.stock offered, hagenda, foldl_perform_agenda]
    rfl
  intro b done
  obtain ⟨flow, lasts, counts⟩ := w.broker.underway (w.take e).offers n made
  rw [← hagenda] at flow lasts counts
  refine ⟨fun q x hx hlive => ?_, fun r => ?_⟩
  · have h := (books.flow.trans flow).entries q x hx hlive
    rwa [List.append_nil, entriesOf_new, List.nil_append] at h
  · have hdue : done.filterMap b.due = done.filterMap w.broker.due := by
      refine List.filterMap_congr fun p hp => due_of_lasts lasts ?_
      rcases List.mem_append.1 hp with hp | hp
      · exact books.flow.aimed p (List.mem_append_right _ hp)
      · have hsub := (List.take_sublist n (w.take e).deeds).filterMap Deed.placement?
        exact books.placed_hasQueue e p (List.mem_of_mem_filter (hdeeds ▸ hsub.subset hp))
    have before := ledger.count_due r
    have since := counts r
    rw [hdue, List.filterMap_append, List.count_append]
    exact Nat.le_trans (Nat.add_le_add_right before _) since

/-- A persistent message is published to a durable queue in a transaction. -/
def persistently : List Event :=
  [.administer (.createQueue { name := "orders", durable := true }),
    .administer (.bind "amq.direct" "orders" "new" .empty false),
    .route 0 ⟨⟨none, none, none, [], true, [], none⟩, 0⟩ "new" [],
    .begin, .send 0 (.inside 1)]

/-- Its commit writes the record, and then places the message. -/
theorem stored_before_placed_commit :
    let w := (World.new {} ⟨true, ∅, []⟩ {}).after persistently
    let s := w.take (.resolve .commit 1)
    s.deeds.map Deed.record? = [some ⟨"orders", 0⟩, none] ∧ s.after.broker.deeds = w.broker.deeds ++ s.deeds ∧
      s.after.broker.stock = (s.deeds.foldl perform w.broker).stock ∧
      s.after.broker.registry.entriesOf 2 ≠ [] ∧ s.after.broker.store.records.count ⟨"orders", 0⟩ = 1 := by
  intro w s
  have offered : s.offers ≠ [] := fun h => absurd (congrArg List.length h) (by decide +kernel)
  obtain ⟨-, -, -, -, next⟩ := stored_before_placed {} ⟨true, ∅, []⟩ {} persistently
  obtain ⟨account, stock, -⟩ := next _ s rfl
  refine ⟨by decide +kernel, account, stock offered,
    fun h => absurd (congrArg List.length h) (by decide +kernel), by decide +kernel⟩

end MessageBroker
