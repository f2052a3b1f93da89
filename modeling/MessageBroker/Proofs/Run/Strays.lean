import Mathlib.Data.List.Perm.Basic
import MessageBroker.Proofs.Run.Records
/-!
# Records of what was not placed

The records are those of what was placed, and strays: those that the store took before it refused another one, and those
for queues that were deleted before their transaction was committed (`records_of_run`).  A publish or a commit that
meets with neither leaves just the records of what it places.
-/
namespace MessageBroker

namespace Broker

variable {b : Broker} {ps : List PendingEnqueue}

theorem deliveryOffers_inside {l : LinkId} {d : Delivery} {id : TransactionId} (h : d.transaction? = some id) :
    b.deliveryOffers l d = [] := by
  rcases b.deliveryOffers_cases l d with hnil | ⟨r, message, t, ht, hoffers⟩
  · exact hnil
  · have hid := id?_of_transactionOf ht
    rw [hoffers]
    cases t with
    | inside id => rfl
    | autoCommit =>
      rw [h] at hid
      cases hid

theorem commitOffers_of_doomed {id i : TransactionId} (h : (b.commit id).2 = .error (.rolledBack i)) :
    b.commitOffers id = [] := by
  unfold commit at h
  unfold commitOffers
  cases ht : b.active? id with
  | none => rfl
  | some t =>
    simp only [ht] at h
    cases hr : t.rollbackOnly with
    | true => simp [hr]
    | false =>
      simp only [hr, Bool.false_eq_true, if_false] at h
      split at h <;> cases h

end Broker

open Broker
open scoped List

namespace Step

/-- The records that the store took before it refused another one. -/
def spilt (s : Step) : List StoreRecord := if s.before.broker.grants s.offers then [] else s.recorded

/-- The records for queues that were deleted before the entries came to be placed. -/
def lost (s : Step) : List StoreRecord :=
  (s.placed.filter fun p => (s.before.broker.registry.live? p.queue).isNone).filterMap s.before.broker.due

/-- **What takes no effect in a step**: a rollback, a commit that is refused because its transaction is doomed, and what
is published in a transaction. -/
inductive Withheld (s : Step) : Prop where
  | rollback {id : TransactionId} (event : s.event = .resolve .rollback id)
  | doomed {id : TransactionId} (event : s.event = .resolve .commit id)
      (answer : s.answer = .resolved (.error (.rolledBack id)))
  | sent {i : Nat} {id : TransactionId} (event : s.event = .send i (.inside id))
  | delivered {l : LinkId} {d : Delivery} {id : TransactionId} (event : s.event = .deliver l d)
      (inside : d.transaction? = some id)

/-- **What a step adds to the records**, and when it adds more than it places. -/
structure Filed (s : Step) : Prop where
  records : s.after.broker.store.records.Perm
    (s.before.broker.store.records ++ (s.landed.filterMap s.before.broker.due ++ (s.spilt ++ s.lost)))
  /-- If a record is refused nothing is placed, and of the records that are due those before it stay. -/
  spilt : s.spilt ≠ [] → s.answer.failed = true ∧ s.placed = [] ∧
    ∃ r text, s.spilt ++ [r] <+: s.before.broker.demands s.offers ∧
      (s.before.broker.store.withRecords s.spilt).refusal? r = some text
  /-- A delivery finds its queues there. -/
  lost : ∀ l d, s.event = .deliver l d → s.lost = []
  withheld : s.Withheld → s.after.broker.store.records = s.before.broker.store.records

namespace Stocked

variable {s : Step} (h : s.Stocked)

include h

theorem recorded_perm :
    s.recorded.Perm (s.landed.filterMap s.before.broker.due ++ (s.spilt ++ s.lost)) := by
  unfold Step.landed Step.spilt Step.lost Step.recorded Broker.landing
  rw [h.placed]
  cases hg : s.before.broker.grants s.offers with
  | true =>
    have hp : s.before.broker.placed s.offers = s.offers := if_pos hg
    have hsplit := List.filter_append_perm (fun p => (s.before.broker.registry.live? p.queue).isSome) s.offers
    rw [accepted_of_grants hg, hp, if_pos rfl, List.nil_append, ← List.filterMap_append]
    refine List.Perm.filterMap _ ?_
    simpa using hsplit.symm
  | false =>
    rw [placed_of_refused hg]
    exact List.Perm.of_eq (by simp)

/-- **Records are spilt only where one is refused.** -/
theorem refused (hspilt : s.spilt ≠ []) : s.answer.failed = true ∧ s.placed = [] ∧
    ∃ r text, s.spilt ++ [r] <+: s.before.broker.demands s.offers ∧
      (s.before.broker.store.withRecords s.spilt).refusal? r = some text := by
  have hg : s.before.broker.grants s.offers = false := Bool.eq_false_iff.2 fun hg => hspilt (if_pos hg)
  have heq : s.spilt = s.before.broker.accepted s.offers := if_neg (Bool.eq_false_iff.1 hg)
  obtain ⟨text, htext⟩ := Option.ne_none_iff_exists'.1 fun hr => Bool.eq_false_iff.1 hg (grants_iff.2 hr)
  obtain ⟨r, front, refused⟩ := Store.exists_refused htext
  refine ⟨?_, by rw [h.placed, placed_of_refused hg], r, text, heq ▸ front, heq ▸ refused⟩
  cases hf : s.answer.failed with
  | true => rfl
  | false => exact absurd (grants_of_placed (h.granted hf)) (Bool.eq_false_iff.1 hg)

end Stocked
end Step

namespace World

theorem offers_of_withheld {w : World} {e : Event} (h : (w.take e).Withheld) : (w.take e).offers = [] := by
  cases h with
  | rollback event =>
    cases event
    rfl
  | doomed event answer =>
    cases event
    exact commitOffers_of_doomed (Answer.resolved.inj answer)
  | @sent i id event =>
    cases event
    have hoffers : (w.take (.send i (.inside id))).offers = (w.results[i]?.map fun _ => []).getD [] := rfl
    rw [hoffers]
    cases w.results[i]? <;> rfl
  | delivered event inside =>
    cases event
    exact deliveryOffers_inside inside

/-- A delivery loses no record, as each queue that it is routed to is there. -/
theorem lost_deliver {w : World} (hp : w.broker.Plain) (l : LinkId) (d : Delivery) :
    (w.take (.deliver l d)).lost = [] := by
  have hplaced : (w.take (.deliver l d)).placed = w.broker.placed (w.broker.deliveryOffers l d) :=
    (w.take_stocked hp (.deliver l d)).placed
  unfold Step.lost
  rw [List.filter_eq_nil_iff.2 fun p hp => ?_, List.filterMap_nil]
  rw [hplaced] at hp
  obtain ⟨x, c, live, -⟩ := (w.broker.deliveryOffers_sound l d).2 p.queue
    (List.mem_map.2 ⟨p, (w.broker.placed_sublist _).subset hp, rfl⟩)
  have live : (w.take (.deliver l d)).before.broker.registry.live? p.queue = some x := live
  simp [live]

/-- **What each step adds to the records.** -/
theorem take_filed (w : World) (hp : w.broker.Plain) (e : Event) : (w.take e).Filed := by
  have hs := w.take_stocked hp e
  refine ⟨?_, hs.refused, fun l d he => ?_, fun hw => ?_⟩
  · rw [hs.records]
    exact hs.recorded_perm.append_left _
  · cases he
    exact lost_deliver hp l d
  · rw [hs.records, Step.recorded, offers_of_withheld hw]
    simp

end World

/-- **The store holds the records of what was placed, and strays**: in every state of a run its records are, each as
often, those that are due for what was placed on queues, those that the store took before it refused another one, and
those for queues that had been deleted when a transaction was committed or a routing result sent.  Each step has added
to them what `Step.Filed` says. -/
theorem records_of_run (settings : HostSettings) (store : Store) (principal : Principal) (es : List Event) :
    let past := (World.new settings store principal).history es
    let w := (World.new settings store principal).after es
    w.broker.store.records.Perm (store.records ++ ((past.flatMap Step.landed).filterMap w.broker.due ++
      (past.flatMap Step.spilt ++ past.flatMap Step.lost))) ∧ ∀ s ∈ past, s.Filed := by
  intro past w
  have ledger : Ledger store.records past w := ledger_of_run settings store principal es
  refine ⟨?_, steps_of_run (fun w hp e => w.take_filed hp e) settings store principal es⟩
  rw [ledger.records, ledger.filterMap_due (f := Step.landed) fun s p hp => List.mem_of_mem_filter hp]
  refine .append_left _ ?_
  calc past.flatMap Step.recorded
    _ ~ past.flatMap fun s => s.landed.filterMap s.before.broker.due ++ (s.spilt ++ s.lost) :=
      .flatMap_left past fun s hs => (ledger.stocked s hs).recorded_perm
    _ ~ (past.flatMap fun s => s.landed.filterMap s.before.broker.due) ++ past.flatMap fun s => s.spilt ++ s.lost :=
      (List.flatMap_append_perm past _ _).symm
    _ ~ (past.flatMap fun s => s.landed.filterMap s.before.broker.due) ++
        (past.flatMap Step.spilt ++ past.flatMap Step.lost) :=
      .append_left _ (List.flatMap_append_perm past _ _).symm

/-- A persistent message for two durable queues is committed, and the store refuses the record for the second. -/
def refusedMidway : List Event :=
  [.administer (.createQueue { name := "orders", durable := true }),
    .administer (.createQueue { name := "audit", durable := true }),
    .administer (.bind "amq.direct" "orders" "new" .empty false),
    .administer (.bind "amq.direct" "audit" "new" .empty false),
    .route 0 ⟨⟨none, none, none, [], true, [], none⟩, 0⟩ "new" [],
    .failStore ["audit"], .begin, .send 0 (.inside 1), .resolve .commit 1]

/-- A queue is deleted while a transaction holds back a persistent message for it. -/
def deletedMeanwhile : List Event :=
  persistently ++ [.administer (.delete "orders" false), .resolve .commit 1]

/-- The first commit has failed and rolled back, and the second was granted with no queue left to place its message on;
neither has placed anything, and both have left a record. -/
theorem strays_left :
    (let past := (World.new {} ⟨true, ∅, []⟩ {}).history refusedMidway
      let w := (World.new {} ⟨true, ∅, []⟩ {}).after refusedMidway
      past.getLast?.map (·.answer.failed) = some true ∧ w.broker.store.records = [⟨"orders", 0⟩] ∧
      ¬ w.broker.store.records ~ (past.flatMap Step.landed).filterMap w.broker.due) ∧
    (let past := (World.new {} ⟨true, ∅, []⟩ {}).history deletedMeanwhile
      let w := (World.new {} ⟨true, ∅, []⟩ {}).after deletedMeanwhile
      past.getLast?.map (·.answer.failed) = some false ∧ w.broker.store.records = [⟨"orders", 0⟩] ∧
      ¬ w.broker.store.records ~ (past.flatMap Step.landed).filterMap w.broker.due) := by
  decide +kernel

end MessageBroker
