import Mathlib.Data.List.Perm.Basic
import MessageBroker.Proofs.Broker.Handling
import MessageBroker.Proofs.Run.Books
/-!
# Who holds a message in a run

After every step of a run each message is counted just for its entries on queues, those that open transactions hold
back, and those that were taken off a queue and are not dropped yet (`accounted_of_run`).  The references that are taken
for a delivery while it is processed are gone after the step, however it ended.
-/
namespace MessageBroker

theorem copiesIn_eq_zero {m : MessageId} {es : List QueueEntry} (h : ∀ e ∈ es, e.message.id ≠ m) :
    copiesIn m es = 0 := List.countP_eq_zero.2 fun e he => by simpa using h e he

theorem copiesIn_eraseIdx {m : MessageId} {es : List QueueEntry} {i : Nat} {e : QueueEntry} (h : es[i]? = some e) :
    copiesIn m (es.eraseIdx i) + (if m = e.message.id then 1 else 0) = copiesIn m es := by
  obtain ⟨hlt, rfl⟩ := List.getElem?_eq_some_iff.1 h
  have hp := (List.getElem_cons_eraseIdx_perm hlt).countP_eq (·.message.id == m)
  rw [← List.singleton_append, List.countP_append] at hp
  have h1 := copiesIn_singleton m es[i]
  unfold copiesIn at h1 ⊢
  omega

namespace World

/-- The entries of a message that were taken off queues and are not dropped yet. -/
def inHand (w : World) (m : MessageId) : Nat := copiesIn m w.held

/-- The registry keeps its invariant, and a message's surplus is what is in someone's hands. -/
structure Upkept (w : World) : Prop where
  consistent : w.broker.registry.Consistent
  surplus : ∀ m, w.broker.surplus m = w.inHand m

namespace Upkept

open Broker

variable {w w' : World}

theorem of_upholds (h : w.Upkept) (hb : Upholds w.broker w'.broker) (held : w'.held = w.held) : w'.Upkept :=
  ⟨hb.consistent h.consistent, fun m => by rw [hb.surplus, h.surplus, inHand, inHand, held]⟩

theorem pop (h : w.Upkept) (q : DestinationId) : (w.take (.pop q)).after.Upkept := by
  obtain ⟨hc, hs⟩ := surplus_pop w.broker q
  refine ⟨hc h.consistent, fun m => ?_⟩
  have hheld : (w.take (.pop q)).after.inHand m = w.inHand m + copiesIn m (w.broker.pop q).2.toList :=
    copiesIn_append m _ _
  rw [hheld]
  have := hs m
  have := h.surplus m
  simp only [take, step]
  omega

theorem drop (h : w.Upkept) (i : Nat) : (w.take (.drop i)).after.Upkept := by
  unfold take step
  cases hi : w.held[i]? with
  | none => simpa only [hi] using h
  | some entry =>
    simp only [hi]
    refine ⟨h.consistent, fun m => ?_⟩
    have h1 := copiesIn_eraseIdx (m := m) hi
    have h2 := h.surplus m
    rw [surplus_release]
    unfold inHand at h2 ⊢
    by_cases hm : m = entry.message.id
    · rw [if_pos hm] at h1 ⊢
      simp only
      omega
    · rw [if_neg hm] at h1 ⊢
      simp only
      omega

theorem deliver (h : w.Upkept) (hp : w.broker.Plain) (l : LinkId) (d : Delivery) :
    (w.take (.deliver l d)).after.Upkept := by
  unfold take step
  cases hl : w.broker.link? l with
  | none => simpa only [hl] using h
  | some link =>
    simp only [hl]
    exact h.of_upholds (reliable_receive w.broker l (fun r hr => hp l link r hl hr) d).upholds rfl

theorem send (h : w.Upkept) (hr : ∀ r ∈ w.results, w.broker.registry.Aimed r.placements) (i : Nat) (t : Transaction) :
    (w.take (.send i t)).after.Upkept := by
  unfold World.take step
  cases hi : w.results[i]? with
  | none => simpa only [hi] using h
  | some result =>
    simp only [hi]
    exact h.of_upholds (reliable_send (hr result (List.mem_of_getElem? hi)) t).upholds rfl

theorem resolve (h : w.Upkept)
    (hq : ∀ i c, w.broker.account i = some c → ∀ p ∈ c.1, w.broker.registry.HasQueue p.queue) (how : Resolution)
    (id : TransactionId) : (w.take (.resolve how id)).after.Upkept := by
  refine h.of_upholds ?_ rfl
  cases how with
  | commit =>
    refine upholds_commit w.broker id fun t ht => hq id (t.pending, t.actions) ?_
    unfold account
    rw [ht]
    rfl
  | rollback => exact upholds_rollback w.broker id

/-- **Every step upholds**, in a world whose routing results and transactions are for queues that were made. -/
theorem take (h : w.Upkept) (hp : w.broker.Plain) (hr : ∀ r ∈ w.results, w.broker.registry.Aimed r.placements)
    (hq : ∀ i c, w.broker.account i = some c → ∀ p ∈ c.1, w.broker.registry.HasQueue p.queue) (e : Event) :
    (w.take e).after.Upkept := by
  cases e with
  | administer q => exact h.of_upholds (linkSteps_upholds.administer _ q) rfl
  | route exchange message key properties => exact h.of_upholds (untouched_noteAll _ _).upholds rfl
  | send i t => exact h.send hr i t
  | pop q => exact h.pop q
  | drop i => exact h.drop i
  | begin => exact h.of_upholds (upholds_begin _) rfl
  | doom t => exact h.of_upholds (untouched_doom _ t).upholds rfl
  | resolve how id => exact h.resolve hq how id
  | failStore failing => exact h.of_upholds ⟨id, fun _ => rfl⟩ rfl
  | session s => exact h.of_upholds ⟨id, fun _ => rfl⟩ rfl
  | link name settings formats receiverOpen => exact h.of_upholds ⟨id, fun _ => rfl⟩ rfl
  | attach l how a =>
    exact h.of_upholds (linkSteps_upholds.withLink (fun link => linkSteps_upholds.attachAs _ l link a how) l) rfl
  | start l => exact h.of_upholds (linkSteps_upholds.withLink (fun link => linkSteps_upholds.start _ l link) l) rfl
  | deliver l d => exact h.deliver hp l d
  | disposition l tag settled =>
    refine h.of_upholds (linkSteps_upholds.withLink (fun link => ?_) l) rfl
    exact linkSteps_upholds.receiveDisposition _ l link tag settled
  | detach l d => exact h.of_upholds (linkSteps_upholds.detach _ l d) rfl
  | destroy l => exact h.of_upholds (linkSteps_upholds.teardown _ l .destroyed) rfl

theorem new (settings : HostSettings) (store : Store) (principal : Principal) :
    (World.new settings store principal).Upkept := by
  refine ⟨.new settings, fun m => ?_⟩
  simp [World.new, Broker.new, Broker.surplus, withheld, Registry.copies, Registry.new, inHand, copiesIn,
    Destination.newExchange, Destination.entries]

end Upkept
end World

/-- **Every run upholds the registry's invariant and the surplus of every message.** -/
theorem upkept_of_run (settings : HostSettings) (store : Store) (principal : Principal) (es : List Event) :
    ((World.new settings store principal).after es).Upkept := by
  have h := World.history_induction
    (P := fun past w => Books (.new settings) past w ∧ w.Upkept)
    (fun past w e h => ⟨h.1.take e, h.2.take h.1.plain h.1.results
      (fun i c hc p hp => h.1.held i p (by rw [h.1.account i c hc] at hp; exact hp)) e⟩)
    es [] _ ⟨.new settings store principal, .new settings store principal⟩
  exact h.2

namespace World

open Broker

/-- **The references to messages are accounted for.** -/
structure Accounted (w : World) : Prop where
  count : ∀ m, w.broker.references.count m = (w.broker.registry.copies m + w.broker.withheld m + w.inHand m : Nat)
  nonneg : ∀ m, 0 ≤ w.broker.references.count m
  /-- A message that no queue, open transaction or holder has is counted for nothing. -/
  free : ∀ m, (∀ q x, w.broker.registry.get? q = some x → ∀ e ∈ x.entries, e.message.id ≠ m) →
    (∀ i t, w.broker.active? i = some t → ∀ p ∈ t.pending, p.entry.message.id ≠ m) →
    (∀ e ∈ w.held, e.message.id ≠ m) → w.broker.references.count m = 0
  /-- A delivery that fails leaves every count as it was. -/
  failed : ∀ l d e, (w.take (.deliver l d)).answer = .delivered (.error e) → ∀ m,
    (w.take (.deliver l d)).after.broker.references.count m = w.broker.references.count m

variable {w : World} {m : MessageId}

theorem copies_eq_zero (h : ∀ q x, w.broker.registry.get? q = some x → ∀ e ∈ x.entries, e.message.id ≠ m) :
    w.broker.registry.copies m = 0 := by
  refine copiesIn_eq_zero fun e he => ?_
  obtain ⟨x, hx, he⟩ := List.mem_flatMap.1 he
  obtain ⟨q, hq⟩ := List.mem_iff_getElem?.1 hx
  exact h q x hq e he

theorem withheld_eq_zero (h : ∀ i t, w.broker.active? i = some t → ∀ p ∈ t.pending, p.entry.message.id ≠ m) :
    w.broker.withheld m = 0 := by
  refine copiesIn_eq_zero fun e he => ?_
  obtain ⟨t, ht, he⟩ := List.mem_flatMap.1 he
  obtain ⟨i, hi⟩ := List.mem_iff_getElem?.1 ht
  unfold LocalTransaction.withheld at he
  split at he
  · cases he
  · rename_i hopen
    obtain ⟨p, hp, rfl⟩ := List.mem_map.1 he
    refine h (i + 1) t (active?_eq_some.2 ⟨?_, by simpa using hopen⟩) p hp
    unfold transaction?
    rw [if_neg (Nat.succ_ne_zero i), Nat.add_sub_cancel, hi]

theorem Upkept.accounted (h : w.Upkept) (hp : w.broker.Plain) : w.Accounted := by
  have hcount : ∀ m, w.broker.references.count m =
      (w.broker.registry.copies m + w.broker.withheld m + w.inHand m : Nat) := fun m => by
    have := h.surplus m
    unfold Broker.surplus at this
    omega
  refine ⟨hcount, fun m => ?_, fun m hq ht hh => ?_, fun l d e hd m => ?_⟩
  · rw [hcount]
    exact Int.natCast_nonneg _
  · rw [hcount, copies_eq_zero hq, withheld_eq_zero ht, inHand, copiesIn_eq_zero hh]
    rfl
  · unfold World.take step at hd ⊢
    cases hl : w.broker.link? l with
    | none => simp only [hl]
    | some link =>
      simp only [hl] at hd ⊢
      have hr := reliable_receive w.broker l (fun r hr => hp l link r hl hr) d
      exact (hr.untouched (e := e) (by simpa using hd)).count m

end World

/-- **After every step of every run each message is counted for what is held of it**, no more and no less. -/
theorem accounted_of_run (settings : HostSettings) (store : Store) (principal : Principal) (es : List Event) :
    ((World.new settings store principal).after es).Accounted :=
  (upkept_of_run settings store principal es).accounted (books_of_run settings store principal es).plain

end MessageBroker
