import Mathlib.Data.List.Basic
import MessageBroker.Proofs.Broker.Failing
import MessageBroker.Proofs.Broker.Lasting
import MessageBroker.Proofs.Run.Dispositions
import MessageBroker.Proofs.Run.Placements
/-!
# What a step does to store and queues

Each step offers some entries to store and queues, which can be told from the world before it (`Step.offers`).  It adds
to the records what the store takes of them and places just what is granted of them, and the broker's account of what it
did (`Step.deeds`) has the records first (`Step.Stocked`).
-/
namespace MessageBroker

/-- Something was refused or has failed. -/
def Answer.failed : Answer → Bool
  | .sent (.error _) | .resolved (.error _) | .delivered (.error _) => true
  | _ => false

namespace Step

open Broker

/-- What is offered to store and queues in this step. -/
def offers (s : Step) : List PendingEnqueue :=
  match s.event with
  | .send i t => (s.before.results[i]?.map fun result => t.now result.placements).getD []
  | .deliver l d => s.before.broker.deliveryOffers l d
  | .resolve .commit id => s.before.broker.commitOffers id
  | _ => []

def placed (s : Step) : List PendingEnqueue := s.publishes ++ s.releases

def recorded (s : Step) : List StoreRecord := s.before.broker.accepted s.offers

/-- What is placed where there is a queue to take it. -/
def landed (s : Step) : List PendingEnqueue := s.before.broker.landing s.placed

/-- What the broker did to store and queues in this step, in order. -/
def deeds (s : Step) : List Deed := s.after.broker.deeds.drop s.before.broker.deeds.length

/-- **A step offers what it says**, and does nothing else to the store, nor to what lasts of queues. -/
structure Stocked (s : Step) : Prop where
  records : s.after.broker.store.records = s.before.broker.store.records ++ s.recorded
  lasts : s.before.broker.registry.Lasts s.after.broker.registry
  stock : s.offers ≠ [] → s.after.broker.stock = (s.before.broker.offer s.offers).stock
  account : s.after.broker.deeds = s.before.broker.deeds ++ (s.recorded.map .record ++ s.landed.map .place)
  placed : s.placed = s.before.broker.placed s.offers
  granted : s.answer.failed = false → s.before.broker.placed s.offers = s.offers

/-- **What a step did is what the broker's account gained in it.** -/
theorem Stocked.deeds_eq {s : Step} (h : s.Stocked) : s.deeds = s.recorded.map .record ++ s.landed.map .place ∧
    s.after.broker.deeds = s.before.broker.deeds ++ s.deeds := by
  have hdeeds : s.deeds = s.recorded.map .record ++ s.landed.map .place := by
    unfold deeds
    rw [h.account, List.drop_left]
  exact ⟨hdeeds, by rw [hdeeds, h.account]⟩

/-- Only a publication or a commit that is granted places anything. -/
theorem placed_eq_nil {s : Step} (publication : s.publication? = none) (committed : s.committed? = none) :
    s.placed = [] := by
  simp [placed, publishes, releases, publication, committed]

theorem placed_of_publication {s : Step} {t : Transaction} {ps : List PendingEnqueue}
    (publication : s.publication? = some (t, ps)) (committed : s.committed? = none) : s.placed = t.now ps := by
  simp [placed, publishes, releases, publication, committed]

theorem Stocked.of_stock {s : Step} (stock : s.after.broker.stock = (s.before.broker.offer s.offers).stock)
    (placed : s.placed = s.before.broker.placed s.offers)
    (granted : s.answer.failed = false → s.before.broker.placed s.offers = s.offers) : s.Stocked := by
  obtain ⟨hgoods, hdeeds⟩ := stock_eq_iff.1 stock
  obtain ⟨hr, hs⟩ := goods_eq_iff.1 hgoods
  refine ⟨?_, ?_, fun _ => stock, ?_, placed, granted⟩
  · rw [hs, store_offer]
    rfl
  · rw [hr]
    exact lasts_offer _ _
  · rw [hdeeds, deeds_offer, landed, placed, recorded]

theorem Stocked.idle {s : Step} (records : s.after.broker.store.records = s.before.broker.store.records)
    (deeds : s.after.broker.deeds = s.before.broker.deeds)
    (lasts : s.before.broker.registry.Lasts s.after.broker.registry) (offers : s.offers = [])
    (publication : s.publication? = none) (committed : s.committed? = none) : s.Stocked := by
  have hplaced := placed_eq_nil publication committed
  refine ⟨?_, lasts, fun h => absurd offers h, ?_, ?_, fun _ => by rw [offers, placed_nil]⟩
  · simp [records, recorded, offers]
  · simp [deeds, recorded, offers, landed, hplaced, landing]
  · rw [offers, placed_nil, hplaced]

theorem Stocked.of_stable {s : Step} (stable : Stable s.before.broker s.after.broker) (offers : s.offers = [])
    (publication : s.publication? = none) (committed : s.committed? = none) : s.Stocked :=
  .idle (congrArg Store.records stable.store) stable.deeds stable.lasts offers publication committed

end Step

namespace Broker

variable {b : Broker}

/-- **What a delivery offers is what it comes to**, as far as that takes effect at once. -/
theorem deliveryOffers_eq {l : LinkId} {link : Link} {d : Delivery} {v : Verdict} (hl : b.link? l = some link)
    (hnew : d.resume = false) (hok : (b.receive l link d).2 = .ok ()) (hv : b.verdict? l d = some v) :
    b.deliveryOffers l d = v.transaction.now v.placements := by
  unfold verdict? at hv
  simp only [hl, Option.bind_eq_bind, Option.bind_some] at hv
  obtain ⟨message, hm, hv⟩ := Option.bind_eq_some_iff.1 hv
  obtain ⟨t, ht, hv⟩ := Option.bind_eq_some_iff.1 hv
  obtain ⟨r, hr, hv⟩ := Option.bind_eq_some_iff.1 hv
  obtain ⟨outcome, -, hv⟩ := Option.bind_eq_some_iff.1 hv
  cases hv
  have hdecode := ok_of_toOption hm
  have htransaction := ok_of_toOption ht
  have hatt := attached_of_receive hok
  have hauth : b.principal.authorize message.userId = .ok () := authorized_of_receive hok hnew hdecode htransaction
  have hauth : (b.acquire message.id).principal.authorize message.userId = .ok () := hauth
  have hjoin : b.joining? link d = some (message, t) := by
    simp [joining?, read?, hatt, hnew, hm, ht]
  unfold deliveryOffers
  rw [hl, Option.bind_some, hjoin, Option.map_some, Option.getD_some, ← offersIn_acquire (m := message.id)]
  unfold offersIn
  simp only [hauth, hr]
  rfl

theorem commitOffers_of_ok {id : TransactionId} (h : (b.commit id).2 = .ok ()) :
    ∃ as, b.account id = some (b.commitOffers id, as) := by
  unfold commit at h
  unfold account commitOffers
  cases ht : b.active? id with
  | none =>
    rw [ht] at h
    cases h
  | some t =>
    simp only [ht] at h
    cases hr : t.rollbackOnly with
    | true =>
      rw [hr] at h
      cases h
    | false => exact ⟨t.actions, by simp [hr]⟩

end Broker

namespace World

open Broker

theorem stocked_send (w : World) (i : Nat) (t : Transaction) : (w.take (.send i t)).Stocked := by
  unfold take step
  cases hi : w.results[i]? with
  | none =>
    simp only [hi]
    refine .of_stable (.of_stock rfl) ?_ rfl rfl
    simp [Step.offers, hi]
  | some result =>
    have h := ventures_send w.broker result t
    simp only [hi]
    generalize w.broker.send result t = o at h ⊢
    obtain ⟨b, answer⟩ := o
    have hoffers : Step.offers ⟨w, .send i t, .sent answer, { w with broker := b }⟩ = t.now result.placements := by
      simp [Step.offers, hi]
    have hplaced := h.placed
    refine .of_stock (hoffers ▸ h.stock) ?_ fun hok => ?_
    · rw [hoffers, hplaced]
      cases answer with
      | ok n => exact Step.placed_of_publication (by simp [Step.publication?, hi]) rfl
      | error e => exact Step.placed_eq_nil rfl rfl
    · cases answer with
      | ok n => rw [hoffers, hplaced]
      | error e => cases hok

/-- A delivery places what it comes to, as far as that takes effect at once. -/
theorem placed_verdict (w : World) (l : LinkId) (d : Delivery) :
    (w.take (.deliver l d)).placed =
      ((w.take (.deliver l d)).verdict?.map fun v => v.transaction.now v.placements).getD [] := by
  have hp : (w.take (.deliver l d)).publication? =
      (w.take (.deliver l d)).verdict?.map fun v => (v.transaction, v.placements) := rfl
  cases hv : (w.take (.deliver l d)).verdict? with
  | none => exact Step.placed_eq_nil (by rw [hp, hv]; rfl) rfl
  | some v => exact Step.placed_of_publication (by rw [hp, hv]; rfl) rfl

theorem verdict?_resumed (w : World) (l : LinkId) {d : Delivery} (hres : d.resume = true) :
    (w.take (.deliver l d)).verdict? = none := by
  unfold Step.verdict?
  split
  · rename_i heq _
    cases heq
    rw [if_pos hres]
  · rfl

/-- **A delivery places what it offers**, if that is granted. -/
theorem placed_deliver (w : World) (hp : w.broker.Plain) {l : LinkId} {link : Link} (hl : w.broker.link? l = some link)
    (d : Delivery) : (w.take (.deliver l d)).placed = w.broker.placed (w.broker.deliveryOffers l d) := by
  have hplaced := (ventures_receive hl (fun r hr => (hp l link r hl hr).loyal) d).placed
  have hanswer : (w.take (.deliver l d)).answer = .delivered (w.broker.receive l link d).2 := by
    simp only [take, step, hl]
  rw [placed_verdict, hplaced]
  cases hres : d.resume with
  | true =>
    have hjoin : w.broker.joining? link d = none := by simp [joining?, read?, hres]
    have hoffers : w.broker.deliveryOffers l d = [] := by simp [deliveryOffers, hl, hjoin]
    rw [w.verdict?_resumed l hres, hoffers]
    split <;> rfl
  | false =>
    cases ho : (w.broker.receive l link d).2 with
    | ok u =>
      rw [ho] at hanswer
      obtain ⟨v, hv, hs⟩ := exists_verdict hp hres hanswer
      rw [hs, deliveryOffers_eq hl hres ho hv]
      rfl
    | error e =>
      rw [ho] at hanswer
      have hv := Step.verdict?_eq_none (s := w.take (.deliver l d)) fun _ _ _ hok => by
        rw [hanswer] at hok
        cases hok
      rw [hv]
      rfl

theorem stocked_deliver (w : World) (hp : w.broker.Plain) (l : LinkId) (d : Delivery) :
    (w.take (.deliver l d)).Stocked := by
  cases hl : w.broker.link? l with
  | none =>
    unfold take step
    simp only [hl]
    refine .of_stable (.of_stock rfl) ?_ rfl rfl
    simp [Step.offers, deliveryOffers, hl]
  | some link =>
    have h := ventures_receive hl (fun r hr => (hp l link r hl hr).loyal) d
    have hafter : (w.take (.deliver l d)).after.broker = (w.broker.receive l link d).1 := by
      simp only [take, step, hl]
    refine .of_stock (by rw [hafter]; exact h.stock) (w.placed_deliver hp hl d) fun hok => h.placed.trans ?_
    simp only [take, step, hl] at hok
    cases ho : (w.broker.receive l link d).2 with
    | ok u => rfl
    | error e =>
      rw [ho] at hok
      cases hok

theorem stocked_resolve (w : World) (how : Resolution) (id : TransactionId) : (w.take (.resolve how id)).Stocked := by
  cases how with
  | rollback => exact .of_stable (.of_stock (stock_rollback w.broker id)) rfl rfl rfl
  | commit =>
    obtain ⟨stock, placed⟩ := commit_offers w.broker id
    refine .of_stock stock (Eq.trans ?_ placed.symm) fun hok => placed.trans ?_
    · cases ho : (w.broker.commit id).2 with
      | ok u =>
        obtain ⟨as, hacc⟩ := commitOffers_of_ok ho
        simp [take, step, Broker.resolve, Step.placed, Step.publishes, Step.publication?, Step.verdict?, Step.releases,
          Step.committed?, ho, hacc]
      | error e => exact Step.placed_eq_nil rfl (by simp [take, step, Broker.resolve, Step.committed?, ho])
    · cases ho : (w.broker.commit id).2 with
      | ok u => rfl
      | error e => simp [take, step, Broker.resolve, ho, Answer.failed] at hok

/-- **Each step offers what it says to store and queues.** -/
theorem take_stocked (w : World) (hp : w.broker.Plain) (e : Event) : (w.take e).Stocked := by
  cases e with
  | administer q => exact .of_stable (linkSteps_stable.administer _ q) rfl rfl rfl
  | route exchange message key properties => exact .of_stable (.of_stock rfl) rfl rfl rfl
  | send i t => exact stocked_send w i t
  | pop q => exact .of_stable (stable_pop _ q) rfl rfl rfl
  | drop i =>
    refine .of_stable (.of_stock ?_) rfl rfl rfl
    unfold take step
    cases hi : w.held[i]? with
    | none => simp only [hi]
    | some entry =>
      simp only [hi]
      rfl
  | begin => exact .of_stable (.of_stock rfl) rfl rfl rfl
  | doom t => exact .of_stable (.of_stock (stock_doom _ t)) rfl rfl rfl
  | resolve how id => exact stocked_resolve w how id
  | failStore failing => exact .idle rfl rfl (.refl _) rfl rfl rfl
  | session s => exact .of_stable (.of_stock rfl) rfl rfl rfl
  | link name settings formats receiverOpen => exact .of_stable (.of_stock rfl) rfl rfl rfl
  | attach l how a =>
    exact .of_stable (linkSteps_stable.withLink (fun link => linkSteps_stable.attachAs _ l link a how) l) rfl rfl rfl
  | start l => exact .of_stable (linkSteps_stable.withLink (fun link => linkSteps_stable.start _ l link) l) rfl rfl rfl
  | deliver l d => exact stocked_deliver w hp l d
  | disposition l tag settled =>
    exact .of_stable (linkSteps_stable.withLink (fun link => linkSteps_stable.receiveDisposition _ l link tag settled) l)
      rfl rfl rfl
  | detach l d => exact .of_stable (linkSteps_stable.detach _ l d) rfl rfl rfl
  | destroy l => exact .of_stable (linkSteps_stable.teardown _ l .destroyed) rfl rfl rfl

end World

/-! ## Runs -/

/-- **The records and the queues are what the steps of a history made them.** -/
structure Ledger (start : List StoreRecord) (past : List Step) (w : World) : Prop where
  records : w.broker.store.records = start ++ past.flatMap Step.recorded
  deeds : w.broker.deeds = past.flatMap Step.deeds
  placed : placements [] past = past.flatMap Step.placed
  stocked : ∀ s ∈ past, s.Stocked
  /-- What is placed is for queues that were made before, and they last. -/
  made : ∀ s ∈ past, ∀ p ∈ s.placed, s.before.broker.registry.HasQueue p.queue
  lasts : ∀ s ∈ past, s.before.broker.registry.Lasts w.broker.registry
  emptied : w.broker.registry.Emptied

namespace Books

variable {start : Registry} {past : List Step} {w : World}

theorem placed_hasQueue (h : Books start past w) (e : Event) :
    ∀ p ∈ (w.take e).placed, w.broker.registry.HasQueue p.queue := by
  intro p hp
  rcases List.mem_append.1 hp with hp | hp
  · unfold Step.publishes at hp
    cases hpub : (w.take e).publication? with
    | none => simp [hpub] at hp
    | some pub =>
      refine ((h.effect e).aimed pub hpub).made p ?_
      rw [hpub, Option.map_some, Option.getD_some] at hp
      cases ht : pub.1 with
      | autoCommit => rwa [ht] at hp
      | inside i =>
        rw [ht] at hp
        cases hp
  · rw [h.releases_eq] at hp
    cases hc : (w.take e).committed? with
    | none => simp [hc] at hp
    | some i =>
      rw [hc] at hp
      exact h.held i p hp

theorem placedBy_eq (h : Books start past w) (e : Event) : placedBy past (w.take e) = (w.take e).placed := by
  rw [placedBy, ← h.releases_eq]
  rfl

end Books

namespace Ledger

variable {start : Registry} {records : List StoreRecord} {past : List Step} {w : World}

theorem take (h : Ledger records past w) (books : Books start past w) (e : Event) :
    Ledger records (past ++ [w.take e]) (w.take e).after := by
  have hs := w.take_stocked books.plain e
  refine ⟨?_, ?_, ?_, ?_, ?_, ?_, hs.lasts.emptied h.emptied⟩
  · have hw : (w.take e).before.broker.store.records = w.broker.store.records := rfl
    rw [hs.records, hw, h.records, List.flatMap_append, List.flatMap_singleton, List.append_assoc]
  · have hw : (w.take e).before.broker.deeds = w.broker.deeds := rfl
    rw [hs.deeds_eq.2, hw, h.deeds, List.flatMap_append, List.flatMap_singleton]
  · rw [placements_snoc, h.placed, books.placedBy_eq, List.flatMap_append, List.flatMap_singleton]
  · rw [List.forall_mem_append, List.forall_mem_singleton]
    exact ⟨h.stocked, hs⟩
  · rw [List.forall_mem_append, List.forall_mem_singleton]
    exact ⟨h.made, books.placed_hasQueue e⟩
  · rw [List.forall_mem_append, List.forall_mem_singleton]
    exact ⟨fun s hs' => (h.lasts s hs').trans hs.lasts, hs.lasts⟩

theorem new (settings : HostSettings) (store : Store) (principal : Principal) :
    Ledger store.records [] (.new settings store principal) := by
  refine ⟨(List.append_nil _).symm, rfl, rfl, fun _ hs => (by cases hs), fun _ hs => (by cases hs), fun _ hs => (by cases hs),
    fun d x hx hdel => ?_⟩
  have hx : (Registry.new settings).get? d = some x := hx
  rw [← Registry.entriesOf_some hx, entriesOf_new]

/-- What was due for entries when they were placed is due for them still. -/
theorem filterMap_due (h : Ledger records past w) {f : Step → List PendingEnqueue} (hf : ∀ s, ∀ p ∈ f s, p ∈ s.placed) :
    (past.flatMap f).filterMap w.broker.due = past.flatMap fun s => (f s).filterMap s.before.broker.due := by
  rw [List.filterMap_flatMap]
  refine List.flatMap_congr fun s hs => List.filterMap_congr fun p hp => ?_
  exact Broker.due_of_lasts (h.lasts s hs) (h.made s hs p (hf s p hp))

end Ledger

/-- **What a step keeps where the books are kept, a run keeps.** -/
theorem run_induction (settings : HostSettings) (store : Store) (principal : Principal) {P : List Step → World → Prop}
    (start : P [] (.new settings store principal))
    (step : ∀ past w e, Books (.new settings) past w → P past w → P (past ++ [w.take e]) (w.take e).after)
    (es : List Event) :
    P ((World.new settings store principal).history es) ((World.new settings store principal).after es) :=
  (World.history_induction (P := fun past w => Books (.new settings) past w ∧ P past w)
    (fun past w e h => ⟨h.1.take e, step past w e h.1 h.2⟩) es [] _ ⟨.new settings store principal, start⟩).2

theorem steps_of_run {P : Step → Prop} (step : ∀ w : World, w.broker.Plain → ∀ e, P (w.take e)) (settings : HostSettings)
    (store : Store) (principal : Principal) (es : List Event) :
    ∀ s ∈ (World.new settings store principal).history es, P s := by
  refine run_induction settings store principal (P := fun past _ => ∀ s ∈ past, P s) (fun _ hs => by cases hs)
    (fun past w e books h => ?_) es
  rw [List.forall_mem_append, List.forall_mem_singleton]
  exact ⟨h, step w books.plain e⟩

/-- **Every run keeps the ledger.** -/
theorem ledger_of_run (settings : HostSettings) (store : Store) (principal : Principal) (es : List Event) :
    Ledger store.records ((World.new settings store principal).history es)
      ((World.new settings store principal).after es) :=
  run_induction settings store principal (.new settings store principal) (fun _ _ e books h => h.take books e) es

end MessageBroker
