import MessageBroker.Proofs.Broker.Deliveries
import MessageBroker.Proofs.Broker.Offering
/-!
# What a delivery offers, and what is left when it fails

A delivery outside transactions offers the entries of its routing result to store and queues (`deliveryOffers`).  One
that fails leaves all that the broker holds as it was, on whichever path, but that its transaction is doomed if it was
found (`Unscathed`).  Both follow from one walk through the parts of an operation (`ventures_receive`).
-/
namespace MessageBroker

/-- A receiver that leaves the transactions alone.  One that the broker found itself does, and so does one that was
handed over and is not told to end the transactions of its deliveries. -/
def Receiver.Loyal (r : Receiver) : Prop := ∀ s, r.kind = .scripted s → s.resolve = none

theorem Receiver.Plain.loyal {r : Receiver} (h : r.Plain) : r.Loyal := fun s hs => absurd hs (h s)

namespace Broker

open Registry Routing

/-- **A broker is as it was**, but for records that its store took and for what it noted, and but that the transaction
that was joined, if any, is doomed. -/
structure Unscathed (b : Broker) (joined : Option Transaction) (b' : Broker) : Prop where
  rest : b' = { b with
    store.records := b'.store.records
    deeds := b'.deeds
    references := b'.references
    transactions := b'.transactions
    journal := b'.journal }
  /-- Only records were written, and nothing was placed. -/
  records : ∃ rs, b'.store.records = b.store.records ++ rs ∧ b'.deeds = b.deeds ++ rs.map .record
  count : ∀ m, b'.references.count m = b.references.count m
  transactions : ∀ i, b'.transaction? i = (b.transaction? i).map fun t =>
    if joined = some (.inside i) then { t with rollbackOnly := true } else t

variable {b b' b'' : Broker} {joined : Option Transaction} {m : MessageId} {ps : List PendingEnqueue}

/-- Nothing was written. -/
theorem unwritten (store : b'.store = b.store) (deeds : b'.deeds = b.deeds) :
    ∃ rs, b'.store.records = b.store.records ++ rs ∧ b'.deeds = b.deeds ++ rs.map .record :=
  ⟨[], by simp [store], by simp [deeds]⟩

theorem Unscathed.refl (b : Broker) : Unscathed b none b :=
  ⟨rfl, unwritten rfl rfl, fun _ => rfl, fun i => by simp⟩

theorem Unscathed.trans (h : Unscathed b none b') (h' : Unscathed b' joined b'') : Unscathed b joined b'' := by
  obtain ⟨rs, hrs, hdeeds⟩ := h.records
  obtain ⟨rs', hrs', hdeeds'⟩ := h'.records
  refine ⟨?_, ⟨rs ++ rs', by rw [hrs', hrs, List.append_assoc], ?_⟩, fun m => (h'.count m).trans (h.count m), fun i => ?_⟩
  · rw [h'.rest, h.rest]
  · rw [hdeeds', hdeeds, List.map_append, List.append_assoc]
  · rw [h'.transactions, h.transactions]
    simp

theorem Unscathed.note (h : Unscathed b joined b') (n : Notice) : Unscathed b joined (b'.note n) := by
  refine ⟨?_, h.records, h.count, h.transactions⟩
  have hrest := h.rest
  unfold Broker.note
  rw [hrest]

theorem unscathed_noteAll (b : Broker) (ns : List Notice) : Unscathed b none (b.noteAll ns) :=
  ⟨rfl, unwritten rfl rfl, fun _ => rfl, (Unscathed.refl b).transactions⟩

theorem unscathed_withRecords (b : Broker) (records : List StoreRecord) : Unscathed b none (b.withRecords records) :=
  ⟨rfl, ⟨records, rfl, rfl⟩, fun _ => rfl, (Unscathed.refl b).transactions⟩

theorem unscathed_doom (b : Broker) (t : Transaction) : Unscathed b (some t) (b.doom t) := by
  unfold doom
  cases t with
  | autoCommit => exact ⟨rfl, unwritten rfl rfl, fun _ => rfl, fun i => by simp⟩
  | inside id =>
    simp only
    split
    · rename_i hdoomed
      refine ⟨rfl, unwritten rfl rfl, fun _ => rfl, fun i => ?_⟩
      -- a transaction that is doomed already is left as it is
      cases ht : b.transaction? i with
      | none => rfl
      | some t =>
        rw [Option.map_some]
        split
        · rename_i hi
          cases hi
          have hr : t.rollbackOnly = true := by simpa [ht] using hdoomed
          rw [← hr]
        · rfl
    · refine Unscathed.note ?_ _
      obtain ⟨ts, h, -⟩ := b.modifyTransaction_eq id fun t => { t with rollbackOnly := true }
      refine ⟨by rw [h], unwritten (by rw [h]) (by rw [h]), fun m => by rw [h], fun i => ?_⟩
      rw [transaction?_modifyTransaction]
      by_cases hi : id = i
      · subst hi
        simp
      · simp [hi]

/-- The reference that was held meanwhile is released. -/
theorem Unscathed.released (h : Unscathed (b.acquire m) joined b') : Unscathed b joined (b'.release m) := by
  refine ⟨?_, h.records, fun m' => ?_, h.transactions⟩
  · have hrest := h.rest
    unfold release
    rw [hrest]
    rfl
  · have h1 := h.count m'
    have h2 := b.references.count_acquire m m'
    have h3 := b'.references.count_release m m'
    simp only [acquire] at h1
    simp only [release]
    omega

/-! ## Offering and failing -/

/-- **An operation offers entries**, and leaves the broker as it was if it fails. -/
inductive Ventures {ε α : Type} (b : Broker) (joined : Option Transaction) (ps : List PendingEnqueue) :
    Broker × Except ε α → Prop where
  | failed {b' : Broker} {e : ε} (left : Unscathed b joined b') (stock : b'.stock = (b.offer ps).stock)
      (refused : b.placed ps = []) : Ventures b joined ps (b', .error e)
  | done {b' : Broker} {a : α} (stock : b'.stock = (b.offer ps).stock) (granted : b.placed ps = ps) :
      Ventures b joined ps (b', .ok a)

theorem Ventures.fails {ε α : Type} {e : ε} (left : Unscathed b joined b') (stock : b'.stock = b.stock) :
    Ventures (α := α) b joined [] (b', .error e) := .failed left (by rw [stock, offer_nil]) b.placed_nil

theorem Ventures.idle {ε α : Type} {a : α} (stock : b'.stock = b.stock) :
    Ventures (ε := ε) b joined [] (b', .ok a) := .done (by rw [stock, offer_nil]) b.placed_nil

theorem Ventures.stock {ε α : Type} {o : Broker × Except ε α} (h : Ventures b joined ps o) :
    o.1.stock = (b.offer ps).stock := by
  cases h with
  | failed left stock refused => exact stock
  | done stock granted => exact stock

theorem Ventures.placed {ε α : Type} {o : Broker × Except ε α} (h : Ventures b joined ps o) :
    b.placed ps = match o.2 with
      | .ok _ => ps
      | .error _ => [] := by
  cases h with
  | failed left stock refused => exact refused
  | done stock granted => exact granted

theorem Ventures.unscathed {ε α : Type} {o : Broker × Except ε α} {e : ε} (h : Ventures b joined ps o)
    (failed : o.2 = .error e) : Unscathed b joined o.1 := by
  cases h with
  | failed left stock refused => exact left
  | done stock granted => cases failed

/-- After something that leaves the broker as it was. -/
theorem Ventures.after {ε α : Type} {o : Broker × Except ε α} (h : Unscathed b none b') (stock : b'.stock = b.stock)
    (h' : Ventures b' joined ps o) : Ventures b joined ps o := by
  have hp : b'.placed ps = b.placed ps := by
    exact placed_congr (goods_of_stock stock) ps
  cases h' with
  | failed left stock' refused => exact .failed (h.trans left) (stock'.trans (stock_offer stock ps)) (hp ▸ refused)
  | done stock' granted => exact .done (stock'.trans (stock_offer stock ps)) (hp ▸ granted)

theorem stock_holdAll (id : TransactionId) : ∀ (ps : List PendingEnqueue) (b : Broker),
    (ps.foldl (fun b p => b.hold id p.queue p.entry) b).stock = b.stock
  | [], _ => rfl
  | _ :: ps, b => (stock_holdAll id ps _).trans (stock_modifyTransaction b id _)

/-- **Sending a routing result offers it**, outside transactions. -/
theorem ventures_send (b : Broker) (result : RoutingResult) (t : Transaction) :
    Ventures b none (t.now result.placements) (b.send result t) := by
  unfold send
  cases t with
  | autoCommit =>
    have hdemands : result.queues.filterMap (b.recordFor · result.message) = b.demands result.placements := by
      unfold demands RoutingResult.placements
      rw [List.filterMap_map]
      rfl
    have hplace : ∀ b : Broker, result.queues.foldl (·.place · ⟨result.message, result.properties⟩) b =
        b.placeAll result.placements := fun b => by
      unfold placeAll RoutingResult.placements
      rw [List.foldl_map]
    simp only [hdemands, persist_demands, hplace]
    unfold Transaction.now
    cases hr : b.refused? result.placements with
    | none =>
      have hplaced : b.placed result.placements = result.placements := if_pos (grants_iff.2 hr)
      exact .done (by rw [offer, hplaced]) hplaced
    | some text =>
      have hplaced : b.placed result.placements = [] := placed_of_refused (by rw [grants, hr]; rfl)
      exact .failed (unscathed_withRecords b _) (by rw [offer, hplaced]; rfl) hplaced
  | inside id =>
    simp only
    split
    · exact .fails (.refl b) rfl
    · have h := stock_holdAll id result.placements b
      rw [RoutingResult.placements, List.foldl_map] at h
      exact .idle h

theorem ventures_enqueueRouted (b : Broker) (result : RoutingResult) (t : Transaction) (discard : Bool)
    (address : String) : Ventures b none (t.now result.placements) (b.enqueueRouted result t discard address) := by
  unfold enqueueRouted
  split
  · rename_i hn
    have hnil : result.placements = [] := by
      have hq : result.queues = [] := by simpa [RoutingResult.hasRoutes] using hn
      rw [RoutingResult.placements, hq]
      rfl
    rw [hnil, t.now_nil]
    exact .idle rfl
  · have h := ventures_send b result t
    generalize b.send result t = o at h ⊢
    cases h with
    | failed left stock refused => exact .failed left stock refused
    | done stock granted => exact .done stock granted

theorem ventures_sendToNode (b : Broker) (resolved : Resolved) (message : Message) (t : Transaction) (discard : Bool)
    (address : String) :
    Ventures b none (t.now (b.routeTo resolved message).2.placements)
      (b.sendToNode resolved message t discard address) := by
  have h : Unscathed b none (b.routeTo resolved message).1 ∧ (b.routeTo resolved message).1.stock = b.stock := by
    unfold routeTo
    split
    · exact ⟨unscathed_noteAll b _, rfl⟩
    · exact ⟨.refl b, rfl⟩
  exact .after h.1 h.2 (ventures_enqueueRouted _ _ t discard address)

/-! ## One delivery -/

/-- The entries of a message for a receiver, as it routes it. -/
def entriesFor (b : Broker) (r : Receiver) (message : Message) : List PendingEnqueue :=
  ((b.resultFor r message).map RoutingResult.placements).getD []

/-- What a delivery offers once its message is read and its transaction found. -/
def offersIn (b : Broker) (link : Link) (message : Message) (t : Transaction) : List PendingEnqueue :=
  match b.principal.authorize message.userId, link.receiver with
  | .ok (), some r => t.now (b.entriesFor r message)
  | _, _ => []

/-- The message of a delivery, and the transaction that it joins if it is received now, if it gets so far. -/
def joining? (b : Broker) (link : Link) (d : Delivery) : Option (Message × Transaction) := do
  let message ← read? link d
  let t ← (b.transactionOf d).toOption
  pure (message, t)

def joined? (b : Broker) (l : LinkId) (d : Delivery) : Option Transaction :=
  ((b.link? l).bind (b.joining? · d)).map Prod.snd

/-- What a delivery offers if it is received now. -/
def deliveryOffers (b : Broker) (l : LinkId) (d : Delivery) : List PendingEnqueue :=
  ((b.link? l).bind fun link => (b.joining? link d).map fun z => b.offersIn link z.1 z.2).getD []

/-- A delivery offers nothing, or the entries of its message for the link's receiver, if it is outside transactions. -/
theorem deliveryOffers_cases (b : Broker) (l : LinkId) (d : Delivery) : b.deliveryOffers l d = [] ∨
    ∃ r message t, b.transactionOf d = .ok t ∧ b.deliveryOffers l d = t.now (b.entriesFor r message) := by
  unfold deliveryOffers
  cases hl : b.link? l with
  | none => exact .inl rfl
  | some link =>
    rw [Option.bind_some]
    cases hz : b.joining? link d with
    | none => exact .inl rfl
    | some z =>
      obtain ⟨message, -, hz⟩ := Option.bind_eq_some_iff.1 hz
      obtain ⟨t, ht, hz⟩ := Option.bind_eq_some_iff.1 hz
      cases hz
      rw [Option.map_some, Option.getD_some]
      unfold offersIn
      split
      · rename_i r _ _
        exact .inr ⟨r, message, t, ok_of_toOption ht, rfl⟩
      · exact .inl rfl

/-- A message is routed to live queues with room, and to each once. -/
theorem entriesFor_sound (b : Broker) (r : Receiver) (message : Message) :
    Sound b.registry ((b.entriesFor r message).map (·.queue)) := by
  unfold entriesFor
  cases hres : b.resultFor r message with
  | none => exact sound_nil b.registry
  | some result =>
    have hqueues : result.placements.map (·.queue) = result.queues := by
      rw [RoutingResult.placements, List.map_map]
      exact List.map_id result.queues
    rw [Option.map_some, Option.getD_some, hqueues]
    exact resultFor_sound hres

/-- **A delivery offers its message to live queues with room**, and to each once. -/
theorem deliveryOffers_sound (b : Broker) (l : LinkId) (d : Delivery) :
    Sound b.registry ((b.deliveryOffers l d).map (·.queue)) := by
  rcases b.deliveryOffers_cases l d with h | ⟨r, message, t, -, h⟩
  · rw [h]
    exact sound_nil b.registry
  · rw [h]
    cases t with
    | inside id => exact sound_nil b.registry
    | autoCommit => exact b.entriesFor_sound r message

theorem ventures_outcomeOf (b : Broker) (source : Source) {r : Receiver} (hr : r.Loyal) (message : Message)
    (t : Transaction) : Ventures b none (t.now (b.entriesFor r message)) (b.outcomeOf source r message t) := by
  unfold outcomeOf entriesFor resultFor
  split
  · simp only [Option.map_none, Option.getD_none, t.now_nil]
    split
    · exact .idle rfl
    · exact .fails (.refl b) rfl
  · unfold sendToReceiver
    cases hk : r.kind with
    | node d key discard => exact ventures_sendToNode b ⟨d, key⟩ message t discard r.address
    | relay discard =>
      cases message.address with
      | none =>
        simp only [Option.bind_none, Option.map_none, Option.getD_none, t.now_nil]
        exact .idle rfl
      | some address =>
        simp only [Option.bind_some]
        cases b.registry.resolve address with
        | none =>
          simp only [Option.map_none, Option.getD_none, t.now_nil]
          exact .idle rfl
        | some resolved => exact ventures_sendToNode b resolved message t discard address
    | scripted s =>
      simp only [hr s hk, Option.map_none, Option.getD_none, t.now_nil]
      cases s.answer with
      | error e => exact .fails (.refl b) rfl
      | ok outcome => exact .idle rfl

theorem stock_answer (b : Broker) (l : LinkId) (t : Transaction) (d : Disposition) :
    (b.answer l t d).stock = b.stock := by
  unfold answer
  cases t with
  | autoCommit =>
    refine (stock_sendDisposition _ l d).trans ?_
    cases d.state <;> rfl
  | inside id =>
    refine (stock_owe _ id ⟨l, d⟩).trans ?_
    cases d.state <;> rfl

theorem stock_complete (b : Broker) (l : LinkId) (link : Link) (delivery : Delivery) (message : Message)
    (t : Transaction) (settled : Bool) (outcome : Outcome) :
    (b.complete l link delivery message t settled outcome).stock = b.stock := by
  unfold complete
  have h : (if mistaken (link.source.getD {}) outcome then b.doom t else b).stock = b.stock := by
    split
    · exact stock_doom b t
    · rfl
  exact (stock_answer _ l t _).trans h

theorem ventures_deliver (b : Broker) (l : LinkId) {link : Link} (hr : ∀ r, link.receiver = some r → r.Loyal)
    (delivery : Delivery) (message : Message) (t : Transaction) (settled : Bool) :
    Ventures b none (b.offersIn link message t) (b.deliver l link delivery message t settled) := by
  unfold deliver offersIn
  cases b.principal.authorize message.userId with
  | error e => exact .fails (.refl b) rfl
  | ok u =>
    cases hrec : link.receiver with
    | none => exact .fails (.refl b) rfl
    | some r =>
      have h := ventures_outcomeOf b (link.source.getD {}) (hr r hrec) message t
      simp only
      generalize b.outcomeOf (link.source.getD {}) r message t = o at h ⊢
      cases h with
      | failed left stock refused => exact .failed left stock refused
      | done stock granted => exact .done ((stock_complete _ l link delivery message t settled _).trans stock) granted

/-- Where a message goes depends on the registry alone. -/
theorem routeTo_snd_acquire (b : Broker) (m : MessageId) (resolved : Resolved) (message : Message) :
    ((b.acquire m).routeTo resolved message).2 = (b.routeTo resolved message).2 := by
  have hr : (b.acquire m).registry = b.registry := rfl
  unfold routeTo
  rw [hr]
  split <;> rfl

theorem offersIn_acquire (b : Broker) (m : MessageId) (link : Link) (message : Message) (t : Transaction) :
    (b.acquire m).offersIn link message t = b.offersIn link message t := by
  have hr : ∀ r, (b.acquire m).resultFor r message = b.resultFor r message := fun r => by
    unfold resultFor
    simp only [routeTo_snd_acquire]
    rfl
  unfold offersIn entriesFor
  simp only [hr]
  rfl

theorem ventures_process (b : Broker) (l : LinkId) {link : Link} (hr : ∀ r, link.receiver = some r → r.Loyal)
    {d : Delivery} (hread : read? link d = (decode link d).toOption) (settled : Bool) :
    Ventures b ((b.joining? link d).map Prod.snd) (((b.joining? link d).map fun z => b.offersIn link z.1 z.2).getD [])
      (b.process l link d settled) := by
  unfold process joining?
  rw [hread]
  cases decode link d with
  | error e => exact .fails (.refl b) rfl
  | ok message =>
    cases b.transactionOf d with
    | error e => exact .fails (.refl b) rfl
    | ok t =>
      have h := ventures_deliver (b.acquire message.id) l hr d message t settled
      have hacquire : (b.acquire message.id).stock = b.stock := rfl
      have hstock := stock_offer hacquire (b.offersIn link message t)
      rw [offersIn_acquire] at h
      simp only
      generalize (b.acquire message.id).deliver l link d message t settled = o at h ⊢
      cases h with
      | failed left stock refused =>
        refine .failed (left.trans (unscathed_doom _ t)).released ?_ refused
        exact (stock_doom _ t).trans (stock.trans hstock)
      | done stock granted => exact .done (stock.trans hstock) granted

/-- **What a delivery does to the stock, and what it leaves if it fails**: each way to fail comes before all that a
delivery changes, or is followed by what undoes it. -/
theorem ventures_receive {l : LinkId} {link : Link} (hl : b.link? l = some link)
    (hr : ∀ r, link.receiver = some r → r.Loyal) (d : Delivery) :
    Ventures b (b.joined? l d) (b.deliveryOffers l d) (b.receive l link d) := by
  unfold receive ensureAttached joined? deliveryOffers
  rw [hl, Option.bind_some, Option.bind_some]
  by_cases hatt : link.state = .attached
  case neg =>
    have hread : b.joining? link d = none := by simp [joining?, read?, hatt]
    rw [hread, if_neg hatt]
    exact .fails ((Unscathed.refl b).note _) rfl
  rw [if_pos hatt]
  cases hres : d.resume with
  | true =>
    have hread : b.joining? link d = none := by simp [joining?, read?, hres]
    rw [hread]
    unfold resumeDelivery
    simp only [if_true]
    split
    · exact .idle (stock_sendDisposition _ l _)
    · exact .fails (.refl b) rfl
  | false =>
    have hread : read? link d = (decode link d).toOption := by simp [read?, hatt, hres]
    have h := ventures_process b l hr hread (link.settlesFirst d.settleMode)
    simp only [Bool.false_eq_true, if_false]
    generalize b.process l link d (link.settlesFirst d.settleMode) = o at h ⊢
    cases h with
    | failed left stock refused => exact .failed (left.note _) stock refused
    | done stock granted => exact .done stock granted

end Broker
end MessageBroker
