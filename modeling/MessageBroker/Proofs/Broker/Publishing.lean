import MessageBroker.Proofs.Broker.Effects
import MessageBroker.Proofs.Routing.Walk
/-!
# What publishing does

Sending a routing result places its message on every queue of it, or holds it back in a transaction
(`attempts_send`); if that fails, it has done nothing.
-/
namespace MessageBroker

/-- What is placed when a routing result is sent: its message, on each of its queues. -/
def RoutingResult.placements (r : RoutingResult) : List PendingEnqueue :=
  r.queues.map fun q => ⟨q, r.message, r.properties⟩

namespace Registry

open Routing

theorem hasQueue_of_takes {r : Registry} {q : DestinationId} (h : r.Takes q) : r.HasQueue q := by
  obtain ⟨x, c, hx, body, -⟩ := h
  exact ⟨x, (live?_eq_some.1 hx).1, by simp [Destination.kind, body]⟩

theorem aimed_of_sound {r : Registry} {result : RoutingResult} (h : Sound r result.queues) :
    r.Aimed result.placements := by
  refine ⟨?_, fun p hp => ?_⟩
  · rw [RoutingResult.placements, List.map_map]
    exact (List.map_id result.queues).symm ▸ h.1
  · obtain ⟨q, hq, rfl⟩ := List.mem_map.1 hp
    exact hasQueue_of_takes (h.2 q hq)

end Registry

namespace Broker

open Registry

variable {b b' : Broker} {t : Transaction} {ps : List PendingEnqueue} {as : List SettlementAction}

theorem Does.hasQueue (h : Does b b' t ps as) {q : DestinationId} (hq : b.registry.HasQueue q) :
    b'.registry.HasQueue q := h.yields.flow.hasQueue hq

theorem Does.isOpen (h : Does b b' t ps as) {i : TransactionId} (hi : (b.account i).isSome = true) :
    (b'.account i).isSome = true := by
  rw [h.account, Option.isSome_map]
  exact hi

/-! ## Placing -/

theorem does_of_flow (flow : Flow b.registry b'.registry [] ps) (transactions : b'.transactions = b.transactions)
    (links : b'.links = b.links) (outbox : b'.outbox = b.outbox) : Does b b' .autoCommit ps [] := by
  refine ⟨.of_links flow ?_ links (Nat.le_of_eq (by rw [transactions])), fun i => ?_, ear?_congr links⟩
  · rw [outbox]
    exact (List.append_nil _).symm
  · rw [account_congr transactions]
    simp [Transaction.later]

theorem does_place {q : DestinationId} (hq : b.registry.HasQueue q) (entry : QueueEntry) :
    Does b (b.place q entry) .autoCommit [⟨q, entry⟩] [] := by
  refine does_of_flow (flow_place hq entry) ?_ ?_ ?_ <;> (unfold place; split <;> rfl)

theorem does_placeAll : ∀ (ps : List PendingEnqueue) (b : Broker), (∀ p ∈ ps, b.registry.HasQueue p.queue) →
    Does b (ps.foldl (fun b p => b.place p.queue p.entry) b) .autoCommit ps []
  | [], b, _ => Aside.refl b _
  | p :: ps, b, h => by
    have h1 := does_place (h p List.mem_cons_self) p.entry
    exact h1.trans (does_placeAll ps _ fun p' hp => h1.hasQueue (h p' (List.mem_cons_of_mem _ hp)))

theorem does_placeHeld : ∀ (ps : List PendingEnqueue) (b : Broker), (∀ p ∈ ps, b.registry.HasQueue p.queue) →
    Does b (b.placeHeld ps) .autoCommit ps []
  | [], b, _ => Aside.refl b _
  | p :: ps, b, h => by
    have h1 := (does_place (h p List.mem_cons_self) p.entry).aside (aside_release _ p.entry.message.id)
    exact h1.trans (does_placeHeld ps _ fun p' hp => h1.hasQueue (h p' (List.mem_cons_of_mem _ hp)))

theorem yields_pop (b : Broker) (q : DestinationId) :
    Yields b (b.pop q).1 ((b.pop q).2.toList.map (⟨q, ·⟩)) [] [] := by
  have hsame : (b.pop q).1.outbox = b.outbox ∧ (b.pop q).1.links = b.links ∧
      (b.pop q).1.transactions = b.transactions := by
    unfold pop
    split <;> exact ⟨rfl, rfl, rfl⟩
  refine .of_links (flow_pop b q) ?_ hsame.2.1 (Nat.le_of_eq (by rw [hsame.2.2]))
  rw [hsame.1]
  exact (List.append_nil _).symm

theorem account_pop (b : Broker) (q : DestinationId) (i : TransactionId) : (b.pop q).1.account i = b.account i := by
  refine account_congr ?_ i
  unfold pop
  split <;> rfl

/-! ## Changing a transaction -/

theorem transaction?_modifyTransaction (b : Broker) (id : TransactionId) (f : LocalTransaction → LocalTransaction)
    (i : TransactionId) :
    (b.modifyTransaction id f).transaction? i = (b.transaction? i).map (if id = i then f else fun t => t) := by
  unfold modifyTransaction transaction?
  by_cases hid : id = 0
  · subst hid
    rw [if_pos rfl]
    by_cases hi : i = 0
    · simp [hi]
    · simp [hi, Ne.symm hi]
  · rw [if_neg hid]
    by_cases hi : i = 0
    · simp [hi]
    · simp only [if_neg hi, List.getElem?_modify]
      by_cases he : id = i
      · subst he
        simp
      · have hne : id - 1 ≠ i - 1 := fun h =>
          he (Nat.sub_one_cancel (Nat.pos_of_ne_zero hid) (Nat.pos_of_ne_zero hi) h)
        simp [he, hne]

theorem active?_modifyTransaction (b : Broker) (id : TransactionId) {f : LocalTransaction → LocalTransaction}
    (hf : ∀ t, (f t).resolved = t.resolved) (i : TransactionId) :
    (b.modifyTransaction id f).active? i = (b.active? i).map (if id = i then f else fun t => t) := by
  unfold active?
  rw [transaction?_modifyTransaction]
  cases b.transaction? i with
  | none => rfl
  | some t =>
    by_cases h : id = i
    · simp only [if_pos h, Option.map_some, Option.filter_some, hf]
      split <;> rfl
    · simp only [if_neg h, Option.map_some, Option.filter_some]
      split <;> rfl

/-- Changing a transaction touches nothing but the transactions. -/
theorem modifyTransaction_eq (b : Broker) (id : TransactionId) (f : LocalTransaction → LocalTransaction) :
    ∃ ts, b.modifyTransaction id f = { b with transactions := ts } ∧ ts.length = b.transactions.length := by
  unfold modifyTransaction
  split
  · exact ⟨b.transactions, rfl, rfl⟩
  · exact ⟨_, rfl, List.length_modify _ _ _⟩

theorem yields_modifyTransaction (b : Broker) (id : TransactionId) (f : LocalTransaction → LocalTransaction) :
    Yields b (b.modifyTransaction id f) [] [] [] := by
  obtain ⟨ts, h, hlen⟩ := b.modifyTransaction_eq id f
  rw [h]
  exact .of_links (.refl _) (List.append_nil _).symm rfl (Nat.le_of_eq hlen.symm)

theorem ear?_modifyTransaction (b : Broker) (id : TransactionId) (f : LocalTransaction → LocalTransaction)
    (l : LinkId) : (b.modifyTransaction id f).ear? l = b.ear? l := by
  obtain ⟨ts, h, -⟩ := b.modifyTransaction_eq id f
  rw [h]
  rfl

/-- Holding back and owing touch one transaction only. -/
theorem does_modifyTransaction (id : TransactionId) {f : LocalTransaction → LocalTransaction}
    (hr : ∀ t, (f t).resolved = t.resolved) (hp : ∀ t, (f t).pending = t.pending ++ ps)
    (ha : ∀ t, (f t).actions = t.actions ++ as) : Does b (b.modifyTransaction id f) (.inside id) ps as := by
  refine ⟨yields_modifyTransaction b id f, fun i => ?_, ear?_modifyTransaction b id f⟩
  unfold account
  rw [active?_modifyTransaction b id hr, Option.map_map, Option.map_map]
  refine congrArg (Option.map · _) (funext fun t => ?_)
  by_cases h : id = i
  · simp [h, hp, ha, Transaction.later]
  · simp [h, Transaction.later]

theorem does_hold (b : Broker) (id : TransactionId) (q : DestinationId) (entry : QueueEntry) :
    Does b (b.hold id q entry) (.inside id) [⟨q, entry⟩] [] := by
  refine .aside ?_ (aside_acquire _ entry.message.id)
  exact does_modifyTransaction id (fun _ => rfl) (fun _ => rfl) fun _ => (List.append_nil _).symm

theorem does_holdAll (id : TransactionId) : ∀ (ps : List PendingEnqueue) (b : Broker),
    Does b (ps.foldl (fun b p => b.hold id p.queue p.entry) b) (.inside id) ps []
  | [], b => Aside.refl b _
  | p :: ps, b => (does_hold b id p.queue p.entry).trans (does_holdAll id ps _)

/-- Dooming a transaction takes nothing from it. -/
theorem aside_doom (b : Broker) (t : Transaction) : Aside b (b.doom t) := by
  unfold doom
  split
  · exact .refl b
  simp only
  split
  · exact .refl b
  · rename_i id _
    have h : Does b (b.modifyTransaction id fun t => { t with rollbackOnly := true }) (.inside id) [] [] :=
      does_modifyTransaction id (fun _ => rfl) (fun _ => (List.append_nil _).symm) fun _ => (List.append_nil _).symm
    refine .trans (fun t => ?_) (aside_note _ _)
    refine ⟨?_, fun i => ?_, h.ears⟩
    · simpa [letters] using h.yields
    · simpa using h.account i

/-! ## Sending a routing result -/

/-- **An operation does something or fails**; if it fails, it has done nothing. -/
inductive Attempts {ε α : Type} (b : Broker) (t : Transaction) (ps : List PendingEnqueue)
    (as : List SettlementAction) : Broker × Except ε α → Prop where
  | failed {b' : Broker} {e : ε} (h : Aside b b') : Attempts b t ps as (b', .error e)
  | done {b' : Broker} {a : α} (h : Does b b' t ps as) : Attempts b t ps as (b', .ok a)

/-- **A routing result that is sent is placed, or held back.** -/
theorem attempts_send {result : RoutingResult} (aimed : b.registry.Aimed result.placements) :
    Attempts b t result.placements [] (b.send result t) := by
  unfold send
  cases t with
  | autoCommit =>
    have hp := aside_persist b (result.queues.filterMap (b.recordFor · result.message))
    simp only
    split
    · rename_i heq
      rw [heq] at hp
      exact .failed hp
    · rename_i b1 heq
      rw [heq] at hp
      have h1 := does_placeAll result.placements b1 fun p hp' => (hp .autoCommit).hasQueue (aimed.made p hp')
      rw [RoutingResult.placements, List.foldl_map] at h1
      exact .done (hp.then h1)
  | inside id =>
    simp only
    split
    · exact .failed (.refl b)
    · have h1 := does_holdAll id result.placements b
      rw [RoutingResult.placements, List.foldl_map] at h1
      exact .done h1

/-- What is sent in a transaction is sent in an open one. -/
theorem isOpen_of_send {result : RoutingResult} {id : TransactionId} {n : Nat}
    (h : (b.send result (.inside id)).2 = .ok n) (hq : result.placements ≠ []) :
    (b.account id).isSome = true := by
  have hroutes : result.hasRoutes = true := by
    simpa [RoutingResult.hasRoutes, RoutingResult.placements] using hq
  unfold send at h
  simp only [hroutes, Bool.and_true] at h
  split at h
  · cases h
  · rename_i hr
    unfold account active?
    cases ht : b.transaction? id with
    | none => simp [ht] at hr
    | some t => simp [ht] at hr; simp [hr]

end Broker
end MessageBroker
