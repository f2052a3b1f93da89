import Mathlib.Data.List.Basic
import Mathlib.Data.List.TakeWhile
import MessageBroker.Proofs.Broker.Failing
import MessageBroker.Proofs.Broker.Lasting
import MessageBroker.Proofs.Broker.Receptions
import MessageBroker.Proofs.Routing.Filling
/-!
# Deliveries in a transaction lag behind

What is published and answered at once in one broker is held back and owed in another, which lags behind by just that
(`Lags`).  Every part of a delivery keeps it so (`Lags.receive`), as long as what is placed is placed on queues without
limit, and the commit catches up (`Lags.commit`).
-/
namespace MessageBroker

open Registry

/-- A link without its unsettled deliveries. -/
def Link.bare (x : Link) : Link := { x with unsettled := [] }

/-- The outcome that an unsettled delivery stands with, provisional or not. -/
def prospect (e : Option (Option DeliveryState)) : Option (Option Outcome) := e.map (·.bind DeliveryState.outcome?)

/-- What a sender is told, whether its transaction has ended or not. -/
def told (x : LinkId × Disposition) : LinkId × DeliveryTag × Option Outcome × Bool :=
  (x.1, x.2.tag, x.2.state.bind DeliveryState.outcome?, x.2.settled)

namespace Broker

variable {b c b₀ : Broker} {i : TransactionId} {ps qs : List PendingEnqueue} {as : List SettlementAction}

/-! ## Placing on queues without limit -/

/-- An operation leaves links, statistics and what was sent as they are. -/
def Spares (b b' : Broker) : Prop :=
  b' = { b with
    registry := b'.registry
    references := b'.references
    store := b'.store
    transactions := b'.transactions
    deeds := b'.deeds
    journal := b'.journal }

theorem Spares.trans {b' b'' : Broker} (h : Spares b b') (h' : Spares b' b'') : Spares b b'' := by
  unfold Spares at *
  rw [h', h]

theorem spares_withRecords (b : Broker) (records : List StoreRecord) : Spares b (b.withRecords records) := rfl

theorem spares_release (b : Broker) (m : MessageId) : Spares b (b.release m) := rfl

theorem spares_modifyTransaction (b : Broker) (id : TransactionId) (f : LocalTransaction → LocalTransaction) :
    Spares b (b.modifyTransaction id f) := by
  obtain ⟨ts, h, -⟩ := b.modifyTransaction_eq id f
  rw [h]
  rfl

theorem spares_place (b : Broker) (q : DestinationId) (entry : QueueEntry) : Spares b (b.place q entry) := by
  unfold place
  split <;> rfl

theorem spares_placeAll : ∀ (ps : List PendingEnqueue) (b : Broker), Spares b (b.placeAll ps)
  | [], _ => rfl
  | p :: ps, b => (spares_place b p.queue p.entry).trans (spares_placeAll ps _)

theorem spares_offer (b : Broker) (ps : List PendingEnqueue) : Spares b (b.offer ps) :=
  (spares_withRecords b _).trans (spares_placeAll _ _)

theorem spares_holdAll (i : TransactionId) : ∀ (ps : List PendingEnqueue) (b : Broker),
    Spares b (ps.foldl (fun b p => b.hold i p.queue p.entry) b)
  | [], _ => rfl
  | p :: ps, b => by
    have h : Spares b (b.hold i p.queue p.entry) :=
      (spares_modifyTransaction b i fun t => { t with pending := t.pending ++ [⟨p.queue, p.entry⟩] }).trans rfl
    exact h.trans (spares_holdAll i ps _)

theorem place_of_unlimited {q : DestinationId} (h : b.registry.Unlimited q) (entry : QueueEntry) :
    b.place q entry =
      Broker.acquire
        { b with
          registry := b.registry.modify q (·.mapQueue fun x => { x with entries := x.entries ++ [entry] })
          deeds := b.deeds ++ [.place ⟨q, entry⟩] }
        entry.message.id := by
  obtain ⟨x, -, live, -⟩ := h
  unfold place
  rw [live]

theorem filled_place {q : DestinationId} (h : b.registry.Unlimited q) (entry : QueueEntry) :
    b.registry.Filled (b.place q entry).registry := by
  rw [place_of_unlimited h]
  exact filled_mapQueue h (· ++ [entry])

/-- **What is placed on queues without limit fills them**, and each message is counted for its entries. -/
theorem filled_placeAll : ∀ (ps : List PendingEnqueue) (b : Broker), (∀ p ∈ ps, b.registry.Unlimited p.queue) →
    b.registry.Filled (b.placeAll ps).registry ∧
      ∀ m, (b.placeAll ps).references.count m = b.references.count m + copiesIn m (ps.map (·.entry))
  | [], b, _ => ⟨.refl _, fun m => by simp [placeAll, copiesIn]⟩
  | p :: ps, b, h => by
    have hp := h p List.mem_cons_self
    have h1 := filled_place hp p.entry
    obtain ⟨h2, hcount⟩ := filled_placeAll ps (b.place p.queue p.entry) fun p' hp' =>
      h1.unlimited (h p' (List.mem_cons_of_mem _ hp'))
    refine ⟨h1.trans h2, fun m => (hcount m).trans ?_⟩
    have hacquire : (b.place p.queue p.entry).references = b.references.acquire p.entry.message.id := by
      rw [place_of_unlimited hp]
      rfl
    rw [hacquire, References.count_acquire, List.map_cons, copiesIn_cons]
    split <;> omega

theorem place_withRecords (b : Broker) (q : DestinationId) (entry : QueueEntry) (records : List StoreRecord) :
    ((b.place q entry).withRecords records).goods = ((b.withRecords records).place q entry).goods := by
  unfold place
  have hr : (b.withRecords records).registry = b.registry := rfl
  rw [hr]
  split <;> rfl

/-- What is written makes no difference to what is placed, nor the other way round, but for the order. -/
theorem placeAll_withRecords (records : List StoreRecord) : ∀ (ps : List PendingEnqueue) (b : Broker),
    ((b.placeAll ps).withRecords records).goods = ((b.withRecords records).placeAll ps).goods
  | [], _ => rfl
  | p :: ps, b =>
    (placeAll_withRecords records ps (b.place p.queue p.entry)).trans
      (goods_placeAll ps (place_withRecords b p.queue p.entry records))

theorem offer_of_grants (h : b.grants ps = true) : b.offer ps = (b.withRecords (b.demands ps)).placeAll ps := by
  rw [offer, accepted_of_grants h, placed, if_pos h]

/-- **What is offered in two parts is offered at once.** -/
theorem offer_append (h : b.grants ps = true) (made : ∀ p ∈ qs, b.registry.HasQueue p.queue)
    (h' : (b.offer ps).grants qs = true) :
    b.grants (ps ++ qs) = true ∧ (b.offer (ps ++ qs)).goods = ((b.offer ps).offer qs).goods := by
  have hdemands : (b.offer ps).demands qs = b.demands qs :=
    List.filterMap_congr fun p hp => due_of_lasts (lasts_offer b ps) (made p hp)
  have happend : b.demands (ps ++ qs) = b.demands ps ++ b.demands qs := List.filterMap_append
  have hgrants : b.grants (ps ++ qs) = true := by
    rw [grants_iff] at h' ⊢
    unfold refused? at h' ⊢
    rw [happend, Store.refused?_append (grants_iff.1 h), ← accepted_of_grants h, ← store_offer, ← hdemands, h']
  refine ⟨hgrants, ?_⟩
  rw [offer_of_grants hgrants, offer_of_grants h', hdemands, offer_of_grants h, happend, withRecords_append]
  have hsplit : ∀ b : Broker, b.placeAll (ps ++ qs) = (b.placeAll ps).placeAll qs := fun b => List.foldl_append
  rw [hsplit]
  exact goods_placeAll qs (placeAll_withRecords _ ps _).symm

/-- A message that is sent at once offers its entries. -/
theorem send_of_ok {result : RoutingResult} {n : Nat} (h : (b.send result .autoCommit).2 = .ok n) :
    b.grants result.placements = true ∧ b.send result .autoCommit = (b.offer result.placements, .ok result.count) := by
  have hdemands : result.queues.filterMap (b.recordFor · result.message) = b.demands result.placements := by
    unfold demands RoutingResult.placements
    rw [List.filterMap_map]
    rfl
  have hplace : ∀ b : Broker, result.queues.foldl (·.place · ⟨result.message, result.properties⟩) b =
      b.placeAll result.placements := fun b => by
    unfold placeAll RoutingResult.placements
    rw [List.foldl_map]
  unfold send at h ⊢
  simp only [hdemands, persist_demands, hplace] at h ⊢
  cases hr : b.refused? result.placements with
  | some text =>
    simp only [hr, ofRefusal] at h
    cases h
  | none =>
    have hg := grants_iff.2 hr
    refine ⟨hg, ?_⟩
    rw [offer, placed, if_pos hg]
    rfl

/-! ## Holding back -/

theorem active?_holdAll (i : TransactionId) : ∀ (ps : List PendingEnqueue) (b : Broker),
    (ps.foldl (fun b p => b.hold i p.queue p.entry) b).active? i =
      (b.active? i).map fun t => { t with pending := t.pending ++ ps }
  | [], b => by simp
  | p :: ps, b => by
    have h : (b.hold i p.queue p.entry).active? i =
        (b.active? i).map fun t => { t with pending := t.pending ++ [p] } := by
      refine (active?_modifyTransaction b i (f := fun t => { t with pending := t.pending ++ [⟨p.queue, p.entry⟩] })
        (fun _ => rfl) i).trans ?_
      rw [if_pos rfl]
    rw [List.foldl_cons, active?_holdAll i ps, h, Option.map_map]
    simp [Function.comp_def]

theorem count_holdAll (i : TransactionId) (m : MessageId) : ∀ (ps : List PendingEnqueue) (b : Broker),
    (ps.foldl (fun b p => b.hold i p.queue p.entry) b).references.count m =
      b.references.count m + copiesIn m (ps.map (·.entry))
  | [], b => by simp [copiesIn]
  | p :: ps, b => by
    obtain ⟨ts, hts, -⟩ := b.modifyTransaction_eq i fun t => { t with pending := t.pending ++ [⟨p.queue, p.entry⟩] }
    have h : (b.hold i p.queue p.entry).references = b.references.acquire p.entry.message.id := by
      unfold hold
      rw [hts]
      rfl
    rw [List.foldl_cons, count_holdAll i m ps, h, References.count_acquire, List.map_cons, copiesIn_cons]
    split <;> omega

/-- A message that is sent in an open transaction is held back there. -/
theorem send_inside {t : LocalTransaction} (h : b.active? i = some t) (result : RoutingResult) :
    b.send result (.inside i) =
      (result.placements.foldl (fun b p => b.hold i p.queue p.entry) b, .ok result.count) := by
  obtain ⟨ht, hopen⟩ := active?_eq_some.1 h
  unfold send RoutingResult.placements
  simp [ht, hopen, List.foldl_map]

/-! ## Lagging behind -/

/-- **Two brokers that came from `b₀` have counted the same and answered the same**, but that the second one still owes
some of it. -/
structure Alongside (b₀ b c : Broker) (as : List SettlementAction) : Prop where
  messagesIn : b.statistics.messagesIn = c.statistics.messagesIn
  bytesIn : b.statistics.bytesIn = c.statistics.bytesIn
  principal : b.principal = b₀.principal ∧ c.principal = b₀.principal
  links : b.links.map Link.bare = b₀.links.map Link.bare ∧ c.links.map Link.bare = b₀.links.map Link.bare
  entries : ∀ l tag, (b₀.link? l).isSome = true → prospect (b.unsettled? l tag) =
    prospect ((as.map Mark.sent).foldl (fun e m => m.onEntry l tag e) (c.unsettled? l tag))
  outbox : b.outbox.map told = (c.outbox ++ c.letters as).map told

/-- **A broker lags behind another one**: what that one has placed and sent since `b₀`, it holds back and owes in its
transaction `i`. -/
structure Lags (b₀ b c : Broker) (i : TransactionId) (ps : List PendingEnqueue) (as : List SettlementAction) : Prop
    extends Alongside b₀ b c as where
  active : c.active? i = some ⟨false, false, ps, as⟩
  held : c.goods = b₀.goods
  placed : b.goods = (b₀.offer ps).goods
  granted : b₀.grants ps = true
  unlimited : ∀ p ∈ ps, b₀.registry.Unlimited p.queue
  counts : ∀ m, b.references.count m = c.references.count m

theorem Alongside.spare {b' c' : Broker} (h : Alongside b₀ b c as) (hb : Spares b b') (hc : Spares c c') :
    Alongside b₀ b' c' as := by
  rw [hb, hc]
  exact ⟨h.messagesIn, h.bytesIn, h.principal, h.links, h.entries, h.outbox⟩

namespace Lags

/-- The registries differ in what is on queues without limit. -/
theorem filled (h : Lags b₀ b c i ps as) : b₀.registry.Filled b.registry := by
  have hr : b.registry = (b₀.offer ps).registry := congrArg Prod.fst h.placed
  rw [hr, offer_of_grants h.granted]
  exact (filled_placeAll ps (b₀.withRecords _) h.unlimited).1

theorem registry (h : Lags b₀ b c i ps as) : c.registry = b₀.registry := (goods_eq_iff.1 h.held).1

theorem note (h : Lags b₀ b c i ps as) (n n' : Notice) : Lags b₀ (b.note n) (c.note n') i ps as :=
  ⟨h.toAlongside.spare rfl rfl, h.active, h.held, h.placed, h.granted, h.unlimited, h.counts⟩

theorem noteAll (h : Lags b₀ b c i ps as) (ns ns' : List Notice) : Lags b₀ (b.noteAll ns) (c.noteAll ns') i ps as :=
  ⟨h.toAlongside.spare rfl rfl, h.active, h.held, h.placed, h.granted, h.unlimited, h.counts⟩

theorem acquire (h : Lags b₀ b c i ps as) (m : MessageId) : Lags b₀ (b.acquire m) (c.acquire m) i ps as := by
  refine ⟨h.toAlongside.spare rfl rfl, h.active, h.held, h.placed, h.granted, h.unlimited, fun m' => ?_⟩
  unfold Broker.acquire
  rw [References.count_acquire, References.count_acquire, h.counts]

theorem release (h : Lags b₀ b c i ps as) (m : MessageId) : Lags b₀ (b.release m) (c.release m) i ps as := by
  refine ⟨h.toAlongside.spare rfl rfl, h.active, h.held, h.placed, h.granted, h.unlimited, fun m' => ?_⟩
  unfold Broker.release
  rw [References.count_release, References.count_release, h.counts]

/-- Deliveries are counted the same in a transaction, and once more as such. -/
theorem count (h : Lags b₀ b c i ps as) (size : Nat) :
    Lags b₀ (b.count .autoCommit size) (c.count (.inside i) size) i ps as := by
  refine ⟨⟨?_, ?_, h.principal, h.links, h.entries, h.outbox⟩, h.active, h.held, h.placed, h.granted, h.unlimited,
    h.counts⟩
  · exact congrArg (· + 1) h.messagesIn
  · exact congrArg (· + UInt64.ofNat size) h.bytesIn

/-! ## Publishing -/

/-- **What is sent at once in one broker is held back in the other one.** -/
theorem send (h : Lags b₀ b c i ps as) {result : RoutingResult} {n : Nat}
    (done : (b.send result .autoCommit).2 = .ok n) (unlimited : ∀ q ∈ result.queues, b₀.registry.Unlimited q) :
    (c.send result (.inside i)).2 = .ok n ∧
      Lags b₀ (b.send result .autoCommit).1 (c.send result (.inside i)).1 i (ps ++ result.placements) as := by
  obtain ⟨hgrants, hsend⟩ := send_of_ok done
  rw [hsend] at done ⊢
  rw [send_inside h.active]
  refine ⟨done, ?_⟩
  have hu : ∀ p ∈ result.placements, b₀.registry.Unlimited p.queue := fun p hp => by
    obtain ⟨q, hq, rfl⟩ := List.mem_map.1 hp
    exact unlimited q hq
  have hmade : ∀ p ∈ result.placements, b₀.registry.HasQueue p.queue := fun p hp => by
    obtain ⟨x, q, live, body, -⟩ := hu p hp
    exact ⟨x, (live?_eq_some.1 live).1, by simp [Destination.kind, body]⟩
  obtain ⟨happend, hoffer⟩ := offer_append h.granted hmade (grants_congr h.placed _ ▸ hgrants)
  refine ⟨h.toAlongside.spare (spares_offer b _) (spares_holdAll i _ c), ?_, (goods_of_stock (stock_holdAll i _ c)).trans h.held, ?_,
    happend, List.forall_mem_append.2 ⟨h.unlimited, hu⟩, fun m => ?_⟩
  · rw [active?_holdAll, h.active]
    rfl
  · rw [hoffer]
    exact goods_offer h.placed _
  · rw [count_holdAll, ← h.counts, offer_of_grants hgrants]
    exact (filled_placeAll _ (b.withRecords _) fun p hp => h.filled.unlimited (hu p hp)).2 m

theorem routeTo (h : Lags b₀ b c i ps as) (resolved : Resolved) (message : Message) :
    (c.routeTo resolved message).2 = (b.routeTo resolved message).2 ∧
      Lags b₀ (b.routeTo resolved message).1 (c.routeTo resolved message).1 i ps as := by
  unfold Broker.routeTo Broker.route
  rw [h.registry, h.filled.exchange?]
  split
  · rw [h.filled.route]
    exact ⟨rfl, h.noteAll _ _⟩
  · rw [h.filled.routeToQueue]
    exact ⟨rfl, h⟩

theorem enqueueRouted (h : Lags b₀ b c i ps as) {result : RoutingResult} {discard : Bool} {address : String}
    {o : Outcome} (done : (b.enqueueRouted result .autoCommit discard address).2 = .ok o)
    (unlimited : ∀ q ∈ result.queues, b₀.registry.Unlimited q) :
    (c.enqueueRouted result (.inside i) discard address).2 = .ok o ∧
      Lags b₀ (b.enqueueRouted result .autoCommit discard address).1
        (c.enqueueRouted result (.inside i) discard address).1 i (ps ++ result.placements) as := by
  unfold Broker.enqueueRouted at done ⊢
  cases hr : result.hasRoutes with
  | false =>
    have hnil : result.placements = [] := by
      have hq : result.queues = [] := by simpa [RoutingResult.hasRoutes] using hr
      rw [RoutingResult.placements, hq]
      rfl
    simp only [hr] at done ⊢
    rw [hnil, List.append_nil]
    exact ⟨done, h⟩
  | true =>
    simp only [hr, Bool.not_true, Bool.false_eq_true, if_false] at done ⊢
    cases hsend : (b.send result .autoCommit).2 with
    | error e =>
      rw [← Prod.eta (b.send result .autoCommit), hsend] at done
      cases done
    | ok n =>
      obtain ⟨hsend', h'⟩ := h.send hsend unlimited
      rw [← Prod.eta (b.send result .autoCommit), hsend] at done ⊢
      rw [← Prod.eta (c.send result (.inside i)), hsend']
      exact ⟨done, h'⟩

theorem sendToNode (h : Lags b₀ b c i ps as) {resolved : Resolved} {message : Message} {discard : Bool}
    {address : String} {o : Outcome} (done : (b.sendToNode resolved message .autoCommit discard address).2 = .ok o)
    (unlimited : ∀ q ∈ (b.routeTo resolved message).2.queues, b₀.registry.Unlimited q) :
    (c.sendToNode resolved message (.inside i) discard address).2 = .ok o ∧
      Lags b₀ (b.sendToNode resolved message .autoCommit discard address).1
        (c.sendToNode resolved message (.inside i) discard address).1 i
        (ps ++ (b.routeTo resolved message).2.placements) as := by
  obtain ⟨hresult, h'⟩ := h.routeTo resolved message
  unfold Broker.sendToNode at done ⊢
  simp only [hresult]
  exact h'.enqueueRouted done unlimited

/-- **A message is handed to a receiver that leaves transactions alone** with the same outcome. -/
theorem sendToReceiver (h : Lags b₀ b c i ps as) {r : Receiver} (loyal : r.Loyal) {message : Message} {o : Outcome}
    (hstore : ¬ (message.persistent && !b.store.persistent) = true)
    (done : (b.sendToReceiver r message .autoCommit).2 = .ok o)
    (unlimited : ∀ p ∈ b.entriesFor r message, b₀.registry.Unlimited p.queue) :
    (c.sendToReceiver r message (.inside i)).2 = .ok o ∧
      Lags b₀ (b.sendToReceiver r message .autoCommit).1 (c.sendToReceiver r message (.inside i)).1 i
        (ps ++ b.entriesFor r message) as := by
  have hqueues : ∀ result : RoutingResult, (∀ p ∈ result.placements, b₀.registry.Unlimited p.queue) →
      ∀ q ∈ result.queues, b₀.registry.Unlimited q := fun result hp q hq =>
    hp ⟨q, result.message, result.properties⟩ (List.mem_map_of_mem hq)
  unfold Broker.sendToReceiver at done ⊢
  unfold entriesFor resultFor at unlimited ⊢
  rw [if_neg hstore] at unlimited ⊢
  cases hk : r.kind with
  | node d key discard =>
    simp only [hk] at done unlimited ⊢
    exact h.sendToNode done (hqueues _ unlimited)
  | relay discard =>
    simp only [hk] at done unlimited ⊢
    cases ha : message.address with
    | none =>
      simp only [ha, Option.bind_none, Option.map_none, Option.getD_none, List.append_nil] at done ⊢
      exact ⟨done, h⟩
    | some address =>
      simp only [ha, Option.bind_some, h.registry, h.filled.resolve] at done unlimited ⊢
      cases hres : b₀.registry.resolve address with
      | none =>
        simp only [hres, Option.map_none, Option.getD_none, List.append_nil] at done ⊢
        exact ⟨done, h⟩
      | some resolved =>
        simp only [hres] at done unlimited ⊢
        exact h.sendToNode done (hqueues _ unlimited)
  | scripted s =>
    simp only [hk, loyal s hk, Option.map_none, Option.getD_none, List.append_nil] at done ⊢
    exact ⟨done, h⟩

theorem outcomeOf (h : Lags b₀ b c i ps as) (source : Source) {r : Receiver} (loyal : r.Loyal) {message : Message}
    {o : Outcome} (done : (b.outcomeOf source r message .autoCommit).2 = .ok o)
    (unlimited : ∀ p ∈ b.entriesFor r message, b₀.registry.Unlimited p.queue) :
    (c.outcomeOf source r message (.inside i)).2 = .ok o ∧
      Lags b₀ (b.outcomeOf source r message .autoCommit).1 (c.outcomeOf source r message (.inside i)).1 i
        (ps ++ b.entriesFor r message) as := by
  have hpersistent : b.store.persistent = c.store.persistent := by
    have hb : b.store = (b₀.offer ps).store := congrArg Prod.snd h.placed
    rw [hb, store_offer, (goods_eq_iff.1 h.held).2]
    rfl
  unfold Broker.outcomeOf at done ⊢
  rw [← hpersistent]
  split at done
  · rename_i hstore
    have hnone : b.entriesFor r message = [] := by
      unfold entriesFor resultFor
      rw [if_pos hstore]
      rfl
    rw [if_pos hstore, if_pos hstore, hnone, List.append_nil]
    cases hdeclares : source.declares .rejected with
    | false =>
      rw [hdeclares] at done
      cases done
    | true =>
      rw [hdeclares] at done
      exact ⟨done, h⟩
  · rename_i hstore
    rw [if_neg hstore, if_neg hstore]
    exact h.sendToReceiver loyal hstore done unlimited

end Lags

/-! ## Answering -/

/-- An operation may answer, and leaves all of the links but their unsettled deliveries. -/
structure Speaks (b b' : Broker) : Prop where
  rest : b' = { b with
    transactions := b'.transactions
    links := b'.links
    outbox := b'.outbox
    journal := b'.journal }
  links : b'.links.map Link.bare = b.links.map Link.bare

namespace Speaks

variable {b' b'' : Broker}

theorem trans (h : Speaks b b') (h' : Speaks b' b'') : Speaks b b'' :=
  ⟨by rw [h'.rest, h.rest], h'.links.trans h.links⟩

theorem statistics (h : Speaks b b') : b'.statistics = b.statistics := by rw [h.rest]

theorem principal (h : Speaks b b') : b'.principal = b.principal := by rw [h.rest]

theorem references (h : Speaks b b') : b'.references = b.references := by rw [h.rest]

end Speaks

theorem speaks_unsettled (b : Broker) (l : LinkId) (f : Unsettled → Unsettled) :
    Speaks b (b.modifyLink l fun x => { x with unsettled := f x.unsettled }) := by
  refine ⟨rfl, List.ext_getElem? fun k => ?_⟩
  unfold modifyLink
  rw [List.getElem?_map, List.getElem?_map, List.getElem?_modify]
  cases b.links[k]? with
  | none => rfl
  | some x => by_cases hk : l = k <;> simp [hk, Link.bare]

theorem speaks_sendDisposition (b : Broker) (l : LinkId) (d : Disposition) : Speaks b (b.sendDisposition l d) := by
  unfold sendDisposition
  split
  · exact ⟨rfl, rfl⟩
  · refine (speaks_unsettled b l (settleOrRecord · d)).trans ?_
    unfold dispatch
    split <;> exact ⟨rfl, rfl⟩

theorem speaks_fire : ∀ (as : List SettlementAction) (b : Broker), Speaks b (b.fire as)
  | [], _ => ⟨rfl, rfl⟩
  | a :: as, b => (speaks_sendDisposition b a.link a.disposition).trans (speaks_fire as _)

theorem speaks_owe (b : Broker) (id : TransactionId) (a : SettlementAction) : Speaks b (b.owe id a) := by
  unfold owe
  split
  · exact speaks_fire [a] b
  · obtain ⟨ts, h, -⟩ := b.modifyTransaction_eq id fun t => { t with actions := t.actions ++ [a] }
    rw [h]
    exact ⟨rfl, rfl⟩

theorem speaks_answer (b : Broker) (l : LinkId) (t : Transaction) (d : Disposition) : Speaks b (b.answer l t d) := by
  have h : ∀ b1, Speaks b b1 → Speaks b (b1.sendDisposition l d) ∧ ∀ id, Speaks b (b1.owe id ⟨l, d⟩) := fun b1 h1 =>
    ⟨h1.trans (speaks_sendDisposition b1 l d), fun id => h1.trans (speaks_owe b1 id ⟨l, d⟩)⟩
  have hrecorded := fun state => h _ (speaks_unsettled b l (·.record d.tag (some state)))
  unfold answer
  cases t with
  | autoCommit => cases d.state with
    | none => exact (h b ⟨rfl, rfl⟩).1
    | some state => exact (hrecorded state).1
  | inside id => cases d.state with
    | none => exact (h b ⟨rfl, rfl⟩).2 id
    | some state => exact (hrecorded state).2 id

theorem active?_answer {t : LocalTransaction} (ht : b.active? i = some t) (l : LinkId) (d : Disposition) :
    (b.answer l (.inside i) d).active? i = some { t with actions := t.actions ++ [⟨l, d⟩] } := by
  have h : ∀ b1 : Broker, b1.active? i = some t →
      (b1.owe i ⟨l, d⟩).active? i = some { t with actions := t.actions ++ [⟨l, d⟩] } := fun b1 h1 => by
    unfold owe
    rw [h1]
    refine (active?_modifyTransaction b1 i (f := fun t => { t with actions := t.actions ++ [⟨l, d⟩] })
      (fun _ => rfl) i).trans ?_
    rw [h1, if_pos rfl]
    rfl
  unfold answer
  cases d.state with
  | none => exact h b ht
  | some state => exact h _ ht

/-- A link that has kept all but its unsettled deliveries. -/
theorem link?_of_bare {b' : Broker} (h : b'.links.map Link.bare = b.links.map Link.bare) (l : LinkId) :
    (b'.link? l).map Link.bare = (b.link? l).map Link.bare := by
  have hl := congrArg (·[l]?) h
  simp only [List.getElem?_map] at hl
  exact hl

theorem ear?_of_bare {b' : Broker} (h : b'.links.map Link.bare = b.links.map Link.bare) (l : LinkId) :
    b'.ear? l = b.ear? l := by
  have hl := congrArg (Option.map Link.receiverOpen) (link?_of_bare h l)
  rwa [Option.map_map, Option.map_map] at hl

theorem isSome_of_bare {b' : Broker} (h : b'.links.map Link.bare = b.links.map Link.bare) {l : LinkId}
    (hl : (b.link? l).isSome = true) : (b'.link? l).isSome = true := by
  have hmap := congrArg Option.isSome (link?_of_bare h l)
  rwa [Option.isSome_map, Option.isSome_map, hl] at hmap

/-- The disposition that is sent at the end of transaction `i` in place of one that is sent at once. -/
def provisional (i : TransactionId) (l : LinkId) (tag : DeliveryTag) (o : Outcome) (settled : Bool) :
    SettlementAction := ⟨l, tag, some (.transactional i (some o)), settled⟩

/-- Provisional or not, a disposition tells its sender the same, if someone takes it. -/
theorem told_letters (h : ∀ l, b.ear? l = c.ear? l) (l : LinkId) (tag : DeliveryTag) (o : Outcome) (settled : Bool) :
    (b.letters [⟨l, tag, some (.final o), settled⟩]).map told = (c.letters [provisional i l tag o settled]).map told := by
  have hheard : b.heard ⟨l, tag, some (.final o), settled⟩ = c.heard (provisional i l tag o settled) := by
    unfold heard
    rw [h]
    rfl
  unfold letters
  rw [List.filter_singleton, List.filter_singleton, hheard]
  cases c.heard (provisional i l tag o settled) <;> rfl

/-- **What is answered at once in one broker is owed in the other one.** -/
theorem Lags.answer (h : Lags b₀ b c i ps as) (l : LinkId) (tag : DeliveryTag) (o : Outcome) (settled : Bool) :
    Lags b₀ (b.answer l .autoCommit ⟨tag, some (.final o), settled⟩)
      (c.answer l (.inside i) (provisional i l tag o settled).disposition) i ps
      (as ++ [provisional i l tag o settled]) := by
  have hb := speaks_answer b l .autoCommit ⟨tag, some (.final o), settled⟩
  have hc := speaks_answer c l (.inside i) (provisional i l tag o settled).disposition
  have mb : Settles b (b.answer l .autoCommit ⟨tag, some (.final o), settled⟩)
      [.sent ⟨l, tag, some (.final o), settled⟩] := settles_answer b l .autoCommit _
  have mc : Settles c (c.answer l (.inside i) (provisional i l tag o settled).disposition)
      [.recorded l tag (.transactional i (some o)), .owed i (provisional i l tag o settled)] := by
    have hopen : (c.debts? i).isSome = true := by
      rw [debts?, Option.isSome_map, account, Option.isSome_map, h.active]
      rfl
    have := settles_answer c l (.inside i) (provisional i l tag o settled).disposition
    rwa [answering, if_pos hopen] at this
  have lb := hb.links.trans h.links.1
  have lc := hc.links.trans h.links.2
  refine ⟨⟨?_, ?_, ?_, ⟨lb, lc⟩, fun k t hk => ?_, ?_⟩, ?_, (goods_of_stock (stock_answer c l _ _)).trans h.held,
    (goods_of_stock (stock_answer b l _ _)).trans h.placed, h.granted, h.unlimited, fun m => ?_⟩
  · rw [hb.statistics, hc.statistics, h.messagesIn]
  · rw [hb.statistics, hc.statistics, h.bytesIn]
  · rw [hb.principal, hc.principal]
    exact h.principal
  · rw [mb.unsettled? (isSome_of_bare h.links.1 hk), mc.unsettled? (isSome_of_bare h.links.2 hk), List.map_append,
      List.foldl_append]
    by_cases habout : l = k ∧ tag = t
    · -- both tell the same outcome, whatever there was before
      simp only [List.map_cons, List.map_nil, List.foldl_cons, List.foldl_nil, Mark.onEntry, provisional, if_pos habout]
      cases settled <;> rfl
    · simp only [List.map_cons, List.map_nil, List.foldl_cons, List.foldl_nil, Mark.onEntry, provisional, if_neg habout]
      exact h.entries k t hk
  · have hears : ∀ k, b.ear? k = c.ear? k := fun k => by rw [ear?_of_bare h.links.1, ear?_of_bare h.links.2]
    have hc' : (c.answer l (.inside i) (provisional i l tag o settled).disposition).outbox = c.outbox :=
      mc.outbox.trans (List.append_nil _)
    rw [mb.outbox, hc', letters_congr mc.ears, letters_append, ← List.append_assoc, List.map_append, List.map_append]
    exact congrArg₂ (· ++ ·) h.outbox (told_letters hears l tag o settled)
  · rw [active?_answer h.active]
    rfl
  · rw [hb.references, hc.references, h.counts]

/-! ## One delivery -/

theorem Lags.complete (h : Lags b₀ b c i ps as) (l : LinkId) {link : Link} (u : Unsettled) {d d' : Delivery}
    (same : d'.tag = d.tag) (message : Message) (settled : Bool) {o : Outcome}
    (supported : (link.source.getD {}).supported.contains o.kind = true) :
    Lags b₀ (b.complete l link d message .autoCommit settled o)
      (c.complete l { link with unsettled := u } d' message (.inside i) settled o) i ps
      (as ++ [provisional i l d.tag o settled]) := by
  have hclear : mistaken (link.source.getD {}) o = false := by
    unfold mistaken
    rw [supported]
    rfl
  have hb : stateFor (link.source.getD {}) .autoCommit o = some (.final o) := if_pos supported
  have hc : stateFor (link.source.getD {}) (.inside i) o = some (.transactional i (some o)) := if_pos supported
  unfold Broker.complete
  simp only [hclear, Bool.false_eq_true, if_false, hb, hc, same]
  exact ((h.answer l d.tag o settled).count message.size).note _ _

/-- What is decided of a delivery that is supported, as far as that is read off its verdict. -/
theorem exists_outcome {l : LinkId} {link : Link} {d : Delivery} {message : Message} {t : Transaction} {v : Verdict}
    (decided : b.verdictIn l link d message t = some v) (supported : v.action.disposition.state.isSome = true) :
    ∃ r o, link.receiver = some r ∧ (b.outcomeOf (link.source.getD {}) r message t).2 = .ok o ∧
      (link.source.getD {}).supported.contains o.kind = true ∧ v.placements = b.entriesFor r message := by
  obtain ⟨r, hr, h⟩ := Option.bind_eq_some_iff.1 decided
  obtain ⟨o, ho, h⟩ := Option.bind_eq_some_iff.1 h
  cases h
  refine ⟨r, o, hr, ok_of_toOption ho, ?_, rfl⟩
  unfold stateFor at supported
  split at supported
  · assumption
  · cases supported

theorem Lags.deliver (h : Lags b₀ b c i ps as) {l : LinkId} {link : Link} (u : Unsettled) {d d' : Delivery}
    {message : Message} {settled : Bool} {v : Verdict} (loyal : ∀ r, link.receiver = some r → r.Loyal)
    (same : d'.tag = d.tag) (done : (b.deliver l link d message .autoCommit settled).2 = .ok ())
    (decided : b.verdictIn l link d message .autoCommit = some v)
    (supported : v.action.disposition.state.isSome = true)
    (unlimited : ∀ p ∈ v.placements, b₀.registry.Unlimited p.queue) :
    (c.deliver l { link with unsettled := u } d' message (.inside i) settled).2 = .ok () ∧
      ∃ o, Lags b₀ (b.deliver l link d message .autoCommit settled).1
        (c.deliver l { link with unsettled := u } d' message (.inside i) settled).1 i (ps ++ v.placements)
        (as ++ [provisional i l d.tag o settled]) := by
  obtain ⟨r, o, hr, ho, hkind, hplacements⟩ := exists_outcome decided supported
  rw [hplacements] at unlimited ⊢
  obtain ⟨ho', h'⟩ := h.outcomeOf (link.source.getD {}) (loyal r hr) ho unlimited
  have hprincipal : c.principal = b.principal := h.principal.2.trans h.principal.1.symm
  unfold Broker.deliver at done ⊢
  rw [hprincipal]
  cases hauth : b.principal.authorize message.userId with
  | error e =>
    rw [hauth] at done
    cases done
  | ok allowed =>
    simp only [hr]
    rw [← Prod.eta (b.outcomeOf _ r message .autoCommit), ho, ← Prod.eta (c.outcomeOf _ r message (.inside i)), ho']
    exact ⟨rfl, o, h'.complete l u same message settled hkind⟩

end Broker

/-- The same delivery, as part of a transaction. -/
def Delivery.within (i : TransactionId) (d : Delivery) : Delivery :=
  { d with state := some (.transactional i (d.state.bind DeliveryState.outcome?)) }

namespace Broker

variable {b c b₀ : Broker} {i : TransactionId} {ps : List PendingEnqueue} {as : List SettlementAction}

/-- What is delivered to live queues that have no limit is delivered to such as there were before. -/
theorem Lags.unlimited_of_sound (h : Lags b₀ b c i ps as) {q : DestinationId} (takes : b.registry.Takes q)
    (capacity : (b₀.registry.get? q).bind Destination.capacity = none) : b₀.registry.Unlimited q := by
  obtain ⟨x', q', live', body', -⟩ := takes
  cases live : b₀.registry.live? q with
  | none =>
    rw [h.filled.live?_eq_none live] at live'
    cases live'
  | some x =>
    obtain ⟨y, hy, hs⟩ := h.filled.live? live
    rw [live'] at hy
    cases hy
    rw [(live?_eq_some.1 live).1] at capacity
    cases hs with
    | same => exact ⟨x', q', live, body', by simpa [Destination.capacity, Destination.queue?, body'] using capacity⟩
    | queue body unlimited entries => exact ⟨_, _, live, body, unlimited⟩

/-- A tag that is free in one broker, and not owed for, is free in the other one. -/
theorem Lags.free (h : Lags b₀ b c i ps as) {l : LinkId} {tag : DeliveryTag} (isLink : (b₀.link? l).isSome = true)
    (free : b.unsettled? l tag = none) (fresh : ∀ a ∈ as, a.link = l → a.disposition.tag ≠ tag) :
    c.unsettled? l tag = none := by
  have hothers : ∀ m ∈ as.map Mark.sent, ¬ m.About l tag := fun m hm habout => by
    obtain ⟨a, ha, rfl⟩ := List.mem_map.1 hm
    exact fresh a ha habout.1 habout.2
  have hentries := h.entries l tag isLink
  rw [free, Mark.foldl_onEntry_of_others hothers] at hentries
  exact Option.map_eq_none_iff.1 hentries.symm

/-- The link is the same in both brokers, but for its unsettled deliveries. -/
theorem Lags.link? (h : Lags b₀ b c i ps as) {l : LinkId} {link : Link} (hl : b.link? l = some link) :
    ∃ u, c.link? l = some { link with unsettled := u } := by
  have hbare := (link?_of_bare h.links.2 l).trans (link?_of_bare h.links.1 l).symm
  rw [hl, Option.map_some] at hbare
  obtain ⟨link', hl', heq⟩ := Option.map_eq_some_iff.1 hbare
  refine ⟨link'.unsettled, hl'.trans (congrArg some ?_)⟩
  exact congrArg (fun x : Link => { x with unsettled := link'.unsettled }) heq

/-- The receiver of a link is the same as at first. -/
theorem Lags.receiver (h : Lags b₀ b c i ps as) {l : LinkId} {link : Link} (hl : b.link? l = some link) :
    ∃ link₀, b₀.link? l = some link₀ ∧ link₀.receiver = link.receiver := by
  have hbare := link?_of_bare h.links.1 l
  rw [hl, Option.map_some] at hbare
  obtain ⟨link₀, hl₀, heq⟩ := Option.map_eq_some_iff.1 hbare.symm
  exact ⟨link₀, hl₀, show link₀.bare.receiver = link.bare.receiver from congrArg Link.receiver heq⟩

/-- What can be read in one broker can be read in the other one, if nothing is owed under its tag. -/
theorem Lags.decode (h : Lags b₀ b c i ps as) {l : LinkId} {link : Link} {u : Unsettled} {d : Delivery}
    {message : Message} (hl : b.link? l = some link) (hl' : c.link? l = some { link with unsettled := u })
    (hm : decode link d = .ok message) (fresh : ∀ a ∈ as, a.link = l → a.disposition.tag ≠ d.tag) :
    Broker.decode { link with unsettled := u } (d.within i) = .ok message := by
  have hentry := h.free (isSome_of_bare h.links.1.symm (by rw [hl]; rfl)) (unsettled?_eq_none hl hm) fresh
  rw [unsettled?, hl'] at hentry
  have hfree : u.contains d.tag = false := by
    unfold Unsettled.contains
    rw [show u.state? d.tag = none from hentry]
    rfl
  unfold Broker.decode at hm ⊢
  split at hm
  · cases hm
  · exact (if_neg (ne_true_of_eq_false hfree)).trans hm

theorem transactionOf_within {t : LocalTransaction} (active : b.active? i = some t) (d : Delivery) :
    b.transactionOf (d.within i) = .ok (.inside i) := by
  have hid : (d.within i).transaction? = some i := rfl
  unfold transactionOf transaction
  rw [hid]
  simp only [active]

/-- The way of a new delivery that can be read, in a transaction that is found. -/
theorem receive_eq {l : LinkId} {link : Link} {d : Delivery} {message : Message} {t : Transaction}
    (attached : link.state = .attached) (new : d.resume = false) (hm : decode link d = .ok message)
    (ht : b.transactionOf d = .ok t) :
    let o := (b.acquire message.id).deliver l link d message t (link.settlesFirst d.settleMode)
    ((b.receive l link d).2 = .ok () → o.2 = .ok ()) ∧
      (o.2 = .ok () → b.receive l link d = (o.1.release message.id, .ok ())) := by
  unfold receive ensureAttached process
  simp only [attached, if_true, new, Bool.false_eq_true, if_false, hm, ht]
  generalize (b.acquire message.id).deliver l link d message t (link.settlesFirst d.settleMode) = o
  obtain ⟨b', result⟩ := o
  cases result with
  | error e => exact ⟨fun hok => (by cases hok), fun hok => (by cases hok)⟩
  | ok u => exact ⟨fun _ => rfl, fun _ => rfl⟩

/-- **A delivery that is processed at once in one broker is processed in the transaction in the other one.** -/
theorem Lags.receive (h : Lags b₀ b c i ps as) {l : LinkId} {link : Link} {d : Delivery} {v : Verdict}
    (hl : b.link? l = some link) (loyal : ∀ r, link.receiver = some r → r.Loyal) (outside : d.transaction? = none)
    (new : d.resume = false) (done : (b.receive l link d).2 = .ok ()) (decided : b.verdict? l d = some v)
    (supported : v.action.disposition.state.isSome = true)
    (unlimited : ∀ p ∈ v.placements, (b₀.registry.get? p.queue).bind Destination.capacity = none)
    (fresh : ∀ a ∈ as, a.link = l → a.disposition.tag ≠ d.tag) :
    ∃ link' a, c.link? l = some link' ∧ (c.receive l link' (d.within i)).2 = .ok () ∧ a.link = l ∧
      a.disposition.tag = d.tag ∧
      Lags b₀ (b.receive l link d).1 (c.receive l link' (d.within i)).1 i (ps ++ v.placements) (as ++ [a]) := by
  obtain ⟨u, hl'⟩ := h.link? hl
  obtain ⟨message, t, hm, ht, decided⟩ := read_of_verdict? hl decided
  obtain rfl : t = .autoCommit := by
    unfold transactionOf at ht
    rw [outside] at ht
    exact (Except.ok.inj ht).symm
  have hm' := h.decode hl hl' hm fresh
  have attached := attached_of_receive done
  have hunlimited : ∀ p ∈ v.placements, b₀.registry.Unlimited p.queue := fun p hp => by
    obtain ⟨r, o, -, -, -, hplacements⟩ := exists_outcome decided supported
    have hsound := (b.acquire message.id).entriesFor_sound r message
    rw [← hplacements] at hsound
    exact h.unlimited_of_sound (hsound.2 p.queue (List.mem_map_of_mem hp)) (unlimited p hp)
  obtain ⟨hdone, hreceive⟩ := receive_eq (l := l) attached new hm ht
  obtain ⟨-, hreceive'⟩ := receive_eq (l := l)
    (show ({ link with unsettled := u } : Link).state = .attached from attached)
    (show (d.within i).resume = false from new) hm' (transactionOf_within h.active d)
  have hdone := hdone done
  obtain ⟨hdone', o, h'⟩ := (h.acquire message.id).deliver u loyal (show (d.within i).tag = d.tag from rfl) hdone
    decided supported hunlimited
  refine ⟨_, provisional i l d.tag o (link.settlesFirst d.settleMode), hl', ?_, rfl, rfl, ?_⟩
  · rw [hreceive' hdone']
  · rw [hreceive hdone, hreceive' hdone']
    exact h'.release message.id

/-! ## The beginning and the end of a transaction -/

/-- A transaction that was just begun is not behind. -/
theorem lags_begin (b : Broker) : Lags b b b.begin.1 b.begin.2 [] [] := by
  refine ⟨⟨rfl, rfl, ⟨rfl, rfl⟩, ⟨rfl, rfl⟩, fun _ _ _ => rfl, ?_⟩, ?_, rfl, by rw [offer_nil], b.grants_nil,
    fun _ hp => (by cases hp), fun _ => rfl⟩
  · rw [letters, List.filter_nil, List.map_nil, List.append_nil]
    rfl
  · unfold begin active? transaction?
    simp only [Broker.note]
    rw [if_neg (Nat.succ_ne_zero _), Nat.add_sub_cancel, List.getElem?_concat_length]
    rfl

/-- What a commit does that the store grants. -/
theorem commit_of_granted (active : c.active? i = some ⟨false, false, ps, as⟩) (granted : c.grants ps = true) :
    c.commit i = (((((c.close i).withRecords (c.demands ps)).placeHeld ps).fire as).note (.committed i ps.length),
      .ok ()) := by
  have hp := persist_close c i ps
  rw [accepted_of_grants granted, grants_iff.1 granted] at hp
  unfold Broker.commit
  simp only [active, Bool.false_eq_true, if_false, hp, ofRefusal]

/-- Placing what was held back on queues without limit counts nothing twice. -/
theorem count_placeHeld (m : MessageId) : ∀ (ps : List PendingEnqueue) (b : Broker),
    (∀ p ∈ ps, b.registry.Unlimited p.queue) → (b.placeHeld ps).references.count m = b.references.count m
  | [], _, _ => rfl
  | p :: ps, b, h => by
    have hp := h p List.mem_cons_self
    have ih := count_placeHeld m ps ((b.place p.queue p.entry).release p.entry.message.id) fun p' hp' =>
      (filled_place hp p.entry).unlimited (h p' (List.mem_cons_of_mem _ hp'))
    refine ih.trans ?_
    have hacquire : (b.place p.queue p.entry).references = b.references.acquire p.entry.message.id := by
      rw [place_of_unlimited hp]
      rfl
    unfold Broker.release
    rw [References.count_release, hacquire, References.count_acquire]
    split <;> omega

theorem spares_placeHeld : ∀ (ps : List PendingEnqueue) (b : Broker), Spares b (b.placeHeld ps)
  | [], _ => rfl
  | p :: ps, b =>
    ((spares_place b p.queue p.entry).trans (spares_release _ p.entry.message.id)).trans (spares_placeHeld ps _)

/-- **Two brokers have come to the same**: the same is on the queues and in the store, messages are counted for as many
holders, as much has come in, the same deliveries are unsettled, and their senders were told the same outcomes. -/
structure SameEffect (b c : Broker) : Prop where
  registry : b.registry = c.registry
  store : b.store = c.store
  counts : ∀ m, b.references.count m = c.references.count m
  messagesIn : b.statistics.messagesIn = c.statistics.messagesIn
  bytesIn : b.statistics.bytesIn = c.statistics.bytesIn
  unsettled : ∀ l tag, prospect (b.unsettled? l tag) = prospect (c.unsettled? l tag)
  told : b.outbox.map told = c.outbox.map told

namespace Lags

/-- What the commit does, as marks. -/
theorem settles_commit (h : Lags b₀ b c i ps as) : Settles c (c.commit i).1 (.closed i :: as.map .sent) := by
  have hmarks := Broker.settles_commit c i
  have hresolving : c.resolving i = .closed i :: as.map .sent := by
    unfold resolving debts? account
    rw [h.active]
    rfl
  rwa [hresolving] at hmarks

/-- The commit is granted, and counts nothing: what was held back has been counted when it was held back. -/
theorem commit_counts (h : Lags b₀ b c i ps as) : (c.commit i).2 = .ok () ∧
    (c.commit i).1.statistics = c.statistics ∧ ∀ m, (c.commit i).1.references.count m = c.references.count m := by
  have hcommit := commit_of_granted h.active ((grants_congr h.held ps).trans h.granted)
  have hspares : Spares c (((c.close i).withRecords (c.demands ps)).placeHeld ps) :=
    ((spares_modifyTransaction c i _).trans (spares_withRecords _ _)).trans (spares_placeHeld ps _)
  have hspeaks := speaks_fire as (((c.close i).withRecords (c.demands ps)).placeHeld ps)
  have hregistry : (c.close i).registry = b₀.registry := (registry_modifyTransaction c i _).trans h.registry
  have hreferences : (c.close i).references = c.references := by
    obtain ⟨ts, hts, -⟩ := c.modifyTransaction_eq i fun t => { t with resolved := true, pending := [], actions := [] }
    unfold close
    rw [hts]
  have hplaced := fun m => count_placeHeld m ps ((c.close i).withRecords (c.demands ps)) fun p hp => by
    have hu := h.unlimited p hp
    rwa [← hregistry] at hu
  rw [hcommit]
  refine ⟨rfl, ?_, fun m => ?_⟩
  · refine hspeaks.statistics.trans ?_
    rw [hspares]
  · calc _ = (((c.close i).withRecords (c.demands ps)).placeHeld ps).references.count m :=
          congrArg (·.count m) hspeaks.references
      _ = (c.close i).references.count m := hplaced m
      _ = c.references.count m := congrArg (·.count m) hreferences

/-- The commit sends what is owed, so that the same deliveries are unsettled. -/
theorem commit_unsettled (h : Lags b₀ b c i ps as) (l : LinkId) (tag : DeliveryTag) :
    prospect (b.unsettled? l tag) = prospect ((c.commit i).1.unsettled? l tag) := by
  have hmarks := h.settles_commit
  cases hl : b₀.link? l with
  | some link =>
    have hsome : (b₀.link? l).isSome = true := by rw [hl]; rfl
    rw [h.entries l tag hsome, hmarks.unsettled? (isSome_of_bare h.links.2 hsome)]
    rfl
  | none =>
    have hb : b.ear? l = none := (ear?_of_bare h.links.1 l).trans (by rw [ear?, hl]; rfl)
    have hc : (c.commit i).1.ear? l = none :=
      (hmarks.ears l).trans ((ear?_of_bare h.links.2 l).trans (by rw [ear?, hl]; rfl))
    rw [unsettled?, unsettled?, Option.map_eq_none_iff.1 hb, Option.map_eq_none_iff.1 hc]

/-- **The commit catches up.** -/
theorem commit (h : Lags b₀ b c i ps as) : (c.commit i).2 = .ok () ∧ SameEffect b (c.commit i).1 := by
  obtain ⟨committed, hstatistics, hcount⟩ := h.commit_counts
  have hgoods : b.goods = (c.commit i).1.goods := by
    have hoffers : c.commitOffers i = ps := by
      unfold commitOffers
      rw [h.active]
      rfl
    rw [goods_of_stock (commit_offers c i).1, hoffers, goods_offer h.held ps, h.placed]
  have hsent : (Mark.closed i :: as.map .sent).filterMap Mark.sent? = as := by
    rw [List.filterMap_cons]
    simp [Mark.sent?, Function.comp_def]
  exact
    ⟨committed,
      { registry := (goods_eq_iff.1 hgoods).1
        store := (goods_eq_iff.1 hgoods).2
        counts := fun m => (h.counts m).trans (hcount m).symm
        messagesIn := by rw [hstatistics, h.messagesIn]
        bytesIn := by rw [hstatistics, h.bytesIn]
        unsettled := h.commit_unsettled
        told := by rw [h.outbox, h.settles_commit.outbox, hsent] }⟩

end Lags

end Broker
end MessageBroker
