import MessageBroker.Proofs.Broker.Upkeep
/-!
# What store and queues are offered

Entries that are offered are recorded in the store as far as they are due, up to the first record that it refuses, and
then placed if it refuses none (`Broker.offer`).  Of an operation that publishes only this is seen in the store, on the
queues and in the account of what was done there, its `stock`; a commit offers what its transaction held back
(`commit_offers`).
-/
namespace MessageBroker

def Deed.record? : Deed → Option StoreRecord
  | .record r => some r
  | .place _ => none

def Deed.placement? : Deed → Option PendingEnqueue
  | .record _ => none
  | .place p => some p

namespace Broker

/-- The registry, with all queues, and the store. -/
def goods (b : Broker) : Registry × Store := (b.registry, b.store)

/-- What is there, and the account of what was done to it. -/
def stock (b : Broker) : (Registry × Store) × List Deed := (b.goods, b.deeds)

/-- The record that is due for an entry before it is placed, if one is. -/
def due (b : Broker) (p : PendingEnqueue) : Option StoreRecord := b.recordFor p.queue p.entry.message

def demands (b : Broker) (ps : List PendingEnqueue) : List StoreRecord := ps.filterMap b.due

/-- The records that the store takes of those that are due. -/
def accepted (b : Broker) (ps : List PendingEnqueue) : List StoreRecord := b.store.taken (b.demands ps)

/-- The text with which the store refuses one of them, if it does. -/
def refused? (b : Broker) (ps : List PendingEnqueue) : Option String := b.store.refused? (b.demands ps)

def grants (b : Broker) (ps : List PendingEnqueue) : Bool := (b.refused? ps).isNone

/-- What is placed of the entries that are offered: all, or nothing. -/
def placed (b : Broker) (ps : List PendingEnqueue) : List PendingEnqueue := if b.grants ps then ps else []

/-- Of entries those for which there is a queue that is not deleted. -/
def landing (b : Broker) (ps : List PendingEnqueue) : List PendingEnqueue :=
  ps.filter fun p => (b.registry.live? p.queue).isSome

def placeAll (b : Broker) (ps : List PendingEnqueue) : Broker := ps.foldl (fun b p => b.place p.queue p.entry) b

def offer (b : Broker) (ps : List PendingEnqueue) : Broker := (b.withRecords (b.accepted ps)).placeAll (b.placed ps)

def perform (b : Broker) : Deed → Broker
  | .record r => (b.record r).1
  | .place p => b.place p.queue p.entry

variable {b b' : Broker} {ps : List PendingEnqueue}

@[simp] theorem placed_nil (b : Broker) : b.placed [] = [] := by simp [placed]

@[simp] theorem accepted_nil (b : Broker) : b.accepted [] = [] := rfl

@[simp] theorem offer_nil (b : Broker) : b.offer [] = b := by simp [offer, placeAll]

@[simp] theorem grants_nil (b : Broker) : b.grants [] = true := rfl

theorem grants_iff : b.grants ps = true ↔ b.refused? ps = none := Option.isNone_iff_eq_none

theorem placed_of_refused (h : b.grants ps = false) : b.placed ps = [] := by
  unfold placed
  rw [h]
  rfl

theorem placed_sublist (b : Broker) (ps : List PendingEnqueue) : (b.placed ps).Sublist ps := by
  unfold placed
  split
  · exact List.Sublist.refl ps
  · exact List.nil_sublist ps

theorem grants_of_placed (h : b.placed ps = ps) : b.grants ps = true := by
  cases hg : b.grants ps with
  | true => rfl
  | false =>
    rw [placed_of_refused hg] at h
    rw [← h] at hg
    cases hg

theorem accepted_of_grants (h : b.grants ps = true) : b.accepted ps = b.demands ps :=
  Store.taken_eq_self (grants_iff.1 h)

theorem persist_demands (b : Broker) (ps : List PendingEnqueue) : b.persist (b.demands ps) =
    (b.withRecords (b.accepted ps), ofRefusal (b.refused? ps)) := b.persist_eq (b.demands ps)

/-! ## What is done, in order -/

/-- Placing an entry makes no queue live or deleted. -/
theorem isSome_live?_place (b : Broker) (q : DestinationId) (entry : QueueEntry) (q' : DestinationId) :
    ((b.place q entry).registry.live? q').isSome = (b.registry.live? q').isSome := by
  have hdeleted : ∀ (x : Destination) (f : Queue → Queue), (x.mapQueue f).deleted = x.deleted := fun x f => by
    unfold Destination.mapQueue
    split <;> rfl
  unfold place
  split
  · rfl
  · simp only [acquire, Registry.live?, Registry.get?_modify]
    cases b.registry.get? q' with
    | none => rfl
    | some x =>
      simp only [Option.map_some]
      split
      · simp only [Option.filter_some, hdeleted]
        cases x.deleted <;> rfl
      · rfl

theorem deeds_place (b : Broker) (q : DestinationId) (entry : QueueEntry) :
    (b.place q entry).deeds = b.deeds ++ (b.landing [⟨q, entry⟩]).map .place := by
  unfold place landing
  cases h : b.registry.live? q <;> simp [h, acquire]

theorem store_place (b : Broker) (q : DestinationId) (entry : QueueEntry) : (b.place q entry).store = b.store := by
  unfold place
  split <;> rfl

theorem store_placeAll : ∀ (ps : List PendingEnqueue) (b : Broker), (b.placeAll ps).store = b.store
  | [], _ => rfl
  | p :: ps, b => (store_placeAll ps (b.place p.queue p.entry)).trans (store_place b p.queue p.entry)

theorem landing_place (b : Broker) (q : DestinationId) (entry : QueueEntry) (ps : List PendingEnqueue) :
    (b.place q entry).landing ps = b.landing ps := by
  unfold landing
  simp only [isSome_live?_place]

/-- **Each entry that comes to a queue is accounted for**, in order. -/
theorem deeds_placeAll (ps : List PendingEnqueue) (b : Broker) :
    (b.placeAll ps).deeds = b.deeds ++ (b.landing ps).map .place := by
  induction ps generalizing b with
  | nil => simp [placeAll, landing]
  | cons p ps ih =>
    have happend : b.landing (p :: ps) = b.landing [p] ++ b.landing ps := @List.filter_append _ _ [p] ps
    refine (ih (b.place p.queue p.entry)).trans ?_
    rw [deeds_place, landing_place, happend, List.map_append, List.append_assoc]

/-- **What is offered leaves the records that the store took.** -/
theorem store_offer (b : Broker) (ps : List PendingEnqueue) :
    (b.offer ps).store = b.store.withRecords (b.accepted ps) := store_placeAll _ _

/-- **What is offered is recorded before it is placed.** -/
theorem deeds_offer (b : Broker) (ps : List PendingEnqueue) : (b.offer ps).deeds =
    b.deeds ++ ((b.accepted ps).map .record ++ (b.landing (b.placed ps)).map .place) := by
  unfold offer
  rw [deeds_placeAll, ← List.append_assoc]
  rfl

theorem foldl_perform_records : ∀ (records : List StoreRecord) (b : Broker), b.store.refused? records = none →
    (records.map Deed.record).foldl perform b = b.withRecords records
  | [], b, _ => b.withRecords_nil.symm
  | r :: records, b, h => by
    unfold Store.refused? at h
    cases hr : b.store.refusal? r with
    | some text => simp [hr] at h
    | none =>
      simp only [hr] at h
      have hrecord : b.perform (.record r) = b.withRecords [r] := by
        simp only [perform, record_eq, hr]
      rw [List.map_cons, List.foldl_cons, hrecord, foldl_perform_records records _ h]
      exact (b.withRecords_append [r] records).symm

theorem foldl_perform_places (ps : List PendingEnqueue) (b : Broker) :
    (ps.map Deed.place).foldl perform b = b.placeAll ps := by
  rw [List.foldl_map]
  rfl

/-- What is for deleted queues makes no difference. -/
theorem placeAll_landing (ps : List PendingEnqueue) (b : Broker) : b.placeAll (b.landing ps) = b.placeAll ps := by
  induction ps generalizing b with
  | nil => rfl
  | cons p ps ih =>
    have ih := ih (b.place p.queue p.entry)
    rw [landing_place] at ih
    unfold landing at ih ⊢
    cases hlive : b.registry.live? p.queue with
    | none =>
      have hplace : b.place p.queue p.entry = b := by simp only [place, hlive]
      rw [hplace] at ih
      rw [List.filter_cons_of_neg (by simp [hlive]), ih, placeAll, placeAll, List.foldl_cons, hplace]
    | some x =>
      rw [List.filter_cons_of_pos (by simp [hlive])]
      exact ih

/-! ## Only the stock counts -/

theorem goods_eq_iff : b'.goods = b.goods ↔ b'.registry = b.registry ∧ b'.store = b.store := by simp [goods]

theorem stock_eq_iff : b'.stock = b.stock ↔ b'.goods = b.goods ∧ b'.deeds = b.deeds := by simp [stock]

theorem goods_of_stock (h : b'.stock = b.stock) : b'.goods = b.goods := (stock_eq_iff.1 h).1

theorem goods_place (h : b'.goods = b.goods) (q : DestinationId) (entry : QueueEntry) :
    (b'.place q entry).goods = (b.place q entry).goods := by
  obtain ⟨hr, hs⟩ := goods_eq_iff.1 h
  unfold place
  rw [hr]
  split
  · exact h
  · exact goods_eq_iff.2 ⟨rfl, hs⟩

theorem goods_placeAll : ∀ (ps : List PendingEnqueue) {b b' : Broker}, b'.goods = b.goods →
    (b'.placeAll ps).goods = (b.placeAll ps).goods
  | [], _, _, h => h
  | p :: ps, _, _, h => goods_placeAll ps (goods_place h p.queue p.entry)

theorem stock_placeAll (ps : List PendingEnqueue) (h : b'.stock = b.stock) :
    (b'.placeAll ps).stock = (b.placeAll ps).stock := by
  obtain ⟨hg, hd⟩ := stock_eq_iff.1 h
  have hlanding : b'.landing ps = b.landing ps := by rw [landing, landing, (goods_eq_iff.1 hg).1]
  exact stock_eq_iff.2 ⟨goods_placeAll ps hg, by rw [deeds_placeAll, deeds_placeAll, hd, hlanding]⟩

theorem due_congr (h : b'.registry = b.registry) : b'.due = b.due := by
  funext p
  unfold due recordFor
  rw [h]

theorem accepted_congr (h : b'.goods = b.goods) (ps : List PendingEnqueue) :
    b'.accepted ps = b.accepted ps ∧ b'.refused? ps = b.refused? ps := by
  obtain ⟨hr, hs⟩ := goods_eq_iff.1 h
  unfold accepted refused? demands
  rw [due_congr hr, hs]
  exact ⟨rfl, rfl⟩

theorem grants_congr (h : b'.goods = b.goods) (ps : List PendingEnqueue) : b'.grants ps = b.grants ps := by
  unfold grants
  rw [(accepted_congr h ps).2]

theorem placed_congr (h : b'.goods = b.goods) (ps : List PendingEnqueue) : b'.placed ps = b.placed ps := by
  unfold placed
  rw [grants_congr h]

theorem goods_withRecords (h : b'.goods = b.goods) (records : List StoreRecord) :
    (b'.withRecords records).goods = (b.withRecords records).goods := by
  obtain ⟨hr, hs⟩ := goods_eq_iff.1 h
  exact goods_eq_iff.2 ⟨hr, by simp only [withRecords, hs]⟩

theorem stock_withRecords (h : b'.stock = b.stock) (records : List StoreRecord) :
    (b'.withRecords records).stock = (b.withRecords records).stock := by
  obtain ⟨hg, hd⟩ := stock_eq_iff.1 h
  exact stock_eq_iff.2 ⟨goods_withRecords hg records, by simp only [withRecords, hd]⟩

theorem goods_offer (h : b'.goods = b.goods) (ps : List PendingEnqueue) :
    (b'.offer ps).goods = (b.offer ps).goods := by
  unfold offer
  rw [placed_congr h, (accepted_congr h ps).1]
  exact goods_placeAll _ (goods_withRecords h _)

theorem stock_offer (h : b'.stock = b.stock) (ps : List PendingEnqueue) :
    (b'.offer ps).stock = (b.offer ps).stock := by
  have hg := goods_of_stock h
  unfold offer
  rw [placed_congr hg, (accepted_congr hg ps).1]
  exact stock_placeAll _ (stock_withRecords h _)

/-- Placing what was held back is placing it, as far as the queues go. -/
theorem stock_placeHeld : ∀ (ps : List PendingEnqueue) (b : Broker), (b.placeHeld ps).stock = (b.placeAll ps).stock
  | [], _ => rfl
  | p :: ps, b => by
    have h : ((b.place p.queue p.entry).release p.entry.message.id).stock = (b.place p.queue p.entry).stock := rfl
    exact (stock_placeHeld ps _).trans (stock_placeAll ps h)

theorem stock_modifyTransaction (b : Broker) (id : TransactionId) (f : LocalTransaction → LocalTransaction) :
    (b.modifyTransaction id f).stock = b.stock := by
  obtain ⟨ts, h, -⟩ := b.modifyTransaction_eq id f
  rw [h]
  rfl

theorem stock_doom (b : Broker) (t : Transaction) : (b.doom t).stock = b.stock := by
  unfold doom
  split
  · rfl
  simp only
  split
  · rfl
  · exact stock_modifyTransaction b _ _

theorem stock_sendDisposition (b : Broker) (l : LinkId) (d : Disposition) : (b.sendDisposition l d).stock = b.stock := by
  unfold sendDisposition
  split
  · rfl
  · unfold dispatch
    split <;> rfl

theorem stock_fire : ∀ (as : List SettlementAction) (b : Broker), (b.fire as).stock = b.stock
  | [], _ => rfl
  | a :: as, b => (stock_fire as _).trans (stock_sendDisposition b a.link a.disposition)

theorem stock_owe (b : Broker) (id : TransactionId) (a : SettlementAction) : (b.owe id a).stock = b.stock := by
  unfold owe
  split
  · exact stock_fire [a] b
  · exact stock_modifyTransaction b id _

/-! ## Resolving a transaction -/

/-- What is offered when a transaction is committed now: what it holds back, unless it is doomed. -/
def commitOffers (b : Broker) (id : TransactionId) : List PendingEnqueue :=
  match b.active? id with
  | some t => if t.rollbackOnly then [] else t.pending
  | none => []

theorem stock_discard (b : Broker) (t : LocalTransaction) (n : Notice) :
    (((b.discard t.pending).fire t.actions).note n).stock = b.stock := stock_fire t.actions (b.discard t.pending)

/-- What a commit writes is due before the transaction is closed, and taken as it would be then. -/
theorem persist_close (b : Broker) (id : TransactionId) (ps : List PendingEnqueue) :
    (b.close id).persist (ps.filterMap fun p => (b.close id).recordFor p.queue p.entry.message) =
      ((b.close id).withRecords (b.accepted ps), ofRefusal (b.refused? ps)) := by
  have hclose : (b.close id).stock = b.stock := stock_modifyTransaction b id _
  obtain ⟨ha, hr⟩ := accepted_congr (goods_of_stock hclose) ps
  rw [← ha, ← hr]
  exact persist_demands (b.close id) ps

/-- **A commit offers what its transaction held back**; if it fails, nothing of that is placed. -/
theorem commit_offers (b : Broker) (id : TransactionId) :
    (b.commit id).1.stock = (b.offer (b.commitOffers id)).stock ∧
      b.placed (b.commitOffers id) = match (b.commit id).2 with
        | .ok _ => b.commitOffers id
        | .error _ => [] := by
  unfold commit commitOffers
  cases b.active? id with
  | none => exact ⟨by simp, by simp⟩
  | some t =>
    have hclose : (b.close id).stock = b.stock := stock_modifyTransaction b id _
    have hp := persist_close b id t.pending
    have hw := stock_withRecords hclose (b.accepted t.pending)
    simp only [hp]
    cases t.rollbackOnly with
    | true => exact ⟨by simpa using (stock_discard (b.close id) t _).trans hclose, by simp⟩
    | false =>
      simp only [Bool.false_eq_true, if_false]
      unfold offer placed grants
      cases b.refused? t.pending with
      | none =>
        refine ⟨?_, rfl⟩
        exact (stock_fire t.actions _).trans ((stock_placeHeld t.pending _).trans (stock_placeAll t.pending hw))
      | some text => exact ⟨(stock_discard _ t _).trans hw, rfl⟩

theorem stock_rollback (b : Broker) (id : TransactionId) : (b.rollback id).1.stock = b.stock := by
  unfold rollback
  split
  · rfl
  · rename_i t _
    exact (stock_discard (b.close id) t _).trans (stock_modifyTransaction b id _)

end Broker
end MessageBroker
