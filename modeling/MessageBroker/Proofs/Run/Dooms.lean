import Mathlib.Data.List.DropRight
import MessageBroker.Proofs.Broker.Dooming
import MessageBroker.Proofs.Run.Tags
/-!
# Commits that are refused

An open transaction is doomed just if it was doomed by hand since it was begun, or by a delivery that named it
(`doomed_of_course`).  So, unless somebody dooms it by hand, its commit is refused just for such a delivery, and
otherwise it fails only where the store refuses a record (`commit_refused_of_course`).
-/
namespace MessageBroker

/-- The steps of a history since a transaction was begun. -/
def since (i : TransactionId) (past : List Step) : List Step := past.rtakeWhile fun s => s.begun? != some i

theorem since_snoc (i : TransactionId) (past : List Step) (s : Step) :
    since i (past ++ [s]) = if s.begun? = some i then [] else since i past ++ [s] := by
  unfold since
  by_cases h : s.begun? = some i
  · rw [if_pos h]
    exact List.rtakeWhile_concat_neg _ _ _ (by simp [h])
  · rw [if_neg h]
    exact List.rtakeWhile_concat_pos _ _ _ (by simpa using h)

theorem mem_of_mem_since {i : TransactionId} {past : List Step} {s : Step} (h : s ∈ since i past) : s ∈ past :=
  (List.rtakeWhile_suffix _ _).subset h

namespace Broker

/-- What the sender would take for another outcome is what it has no state for, where it declares a default. -/
theorem mistaken_iff {source : Source} {outcome : Outcome} : mistaken source outcome = true ↔
    outcome.kind ∉ source.supported ∧ ∃ k, source.defaultOutcome = some k ∧ k ≠ outcome.kind := by
  unfold mistaken
  cases source.defaultOutcome <;> simp

/-- Whether the commit of an open transaction is granted. -/
theorem commit_of_open {b : Broker} {i : TransactionId} {t : LocalTransaction} (ht : b.active? i = some t) :
    (b.commit i).2 = if t.rollbackOnly then .error (.rolledBack i)
      else (ofRefusal (b.refused? t.pending)).mapError (.store i) := by
  unfold commit
  simp only [ht, persist_close]
  cases t.rollbackOnly with
  | true => rfl
  | false => cases b.refused? t.pending <;> rfl

theorem joined?_eq_none {b : Broker} {l : LinkId} {d : Delivery}
    (h : ∀ link, b.link? l = some link → b.joining? link d = none) : b.joined? l d = none := by
  unfold joined?
  cases hl : b.link? l with
  | none => rfl
  | some link => simp [h link hl]

theorem joined?_of_joining {b : Broker} {l : LinkId} {link : Link} {d : Delivery} {z : Message × Transaction}
    (hl : b.link? l = some link) (h : b.joining? link d = some z) : b.joined? l d = some z.2 := by
  simp [joined?, hl, h]

end Broker

namespace Step

open Broker

/-- **A delivery dooms the transaction that it names**: it was found when the delivery was received, and the delivery
then failed, or came to an outcome that its source does not support while it declares a default of another kind. -/
inductive Dooms (s : Step) (i : TransactionId) : Prop where
  | failed {l : LinkId} {d : Delivery} {e : LinkError} (event : s.event = .deliver l d)
      (joined : s.before.broker.joined? l d = some (.inside i)) (answer : s.answer = .delivered (.error e)) : Dooms s i
  | mistaken {l : LinkId} {link : Link} {d : Delivery} {message : Message} {r : Receiver} {outcome : Outcome}
      {k : OutcomeKind} (event : s.event = .deliver l d) (found : s.before.broker.link? l = some link)
      (joining : s.before.broker.joining? link d = some (message, .inside i)) (receiver : link.receiver = some r)
      (came : ((s.before.broker.acquire message.id).outcomeOf (link.source.getD {}) r message (.inside i)).2 =
        .ok outcome)
      (answer : s.answer = .delivered (.ok ())) (unknown : outcome.kind ∉ (link.source.getD {}).supported)
      (default : (link.source.getD {}).defaultOutcome = some k) (other : k ≠ outcome.kind) : Dooms s i

variable {s : Step} {i : TransactionId}

/-- What dooms a transaction is a delivery that got as far as finding it. -/
theorem Dooms.joined (h : s.Dooms i) :
    ∃ l d, s.event = .deliver l d ∧ s.before.broker.joined? l d = some (.inside i) := by
  cases h with
  | failed event joined answer => exact ⟨_, _, event, joined⟩
  | mistaken event found joining => exact ⟨_, _, event, joined?_of_joining found joining⟩

/-- **A delivery does not doom a transaction** if it is resumed, names another one or none, or cannot be read: its tag
is in use, its format unknown, or its message garbled. -/
theorem not_dooms {l : LinkId} {d : Delivery} (event : s.event = .deliver l d)
    (apart : d.resume = true ∨ d.transaction? ≠ some i ∨
      ∀ link, s.before.broker.link? l = some link → ∃ e, decode link d = .error e) : ¬ s.Dooms i := by
  intro h
  obtain ⟨l', d', event', joined⟩ := h.joined
  rw [event] at event'
  cases event'
  obtain ⟨⟨message, t⟩, hjoin, rfl⟩ := Option.map_eq_some_iff.1 joined
  obtain ⟨link, hl, hjoin⟩ := Option.bind_eq_some_iff.1 hjoin
  obtain ⟨message', hread, hjoin⟩ := Option.bind_eq_some_iff.1 hjoin
  obtain ⟨t', ht, hjoin⟩ := Option.bind_eq_some_iff.1 hjoin
  cases hjoin
  unfold read? at hread
  split at hread
  · rename_i hnew
    rcases apart with resumes | names | garbled
    · simp [resumes] at hnew
    · have hid := id?_of_transactionOf (ok_of_toOption ht)
      exact names hid.symm
    · obtain ⟨e, he⟩ := garbled link hl
      rw [he] at hread
      cases hread
  · cases hread

/-- A transaction that is open after a step was begun in it, or is doomed if it was before or is doomed in it. -/
def Fated (s : Step) (i : TransactionId) : Prop :=
  ∀ x, s.after.broker.doomed? i = some x → if s.begun? = some i then x = false else
    ∃ y, s.before.broker.doomed? i = some y ∧ (x = true ↔ y = true ∨ s.event = .doom (.inside i) ∨ s.Dooms i)

/-- A step in which nothing is begun or delivered dooms by hand, if at all. -/
theorem fated_of_undelivered (undelivered : ∀ l d, s.event ≠ .deliver l d) (begun : s.begun? ≠ some i)
    (h : ∀ x, s.after.broker.doomed? i = some x →
      ∃ y, s.before.broker.doomed? i = some y ∧ (x = true ↔ y = true ∨ s.event = .doom (.inside i))) : s.Fated i := by
  intro x hx
  have hd : ¬ s.Dooms i := by
    intro h
    obtain ⟨l, d, event, -⟩ := h.joined
    exact undelivered l d event
  rw [if_neg begun]
  simpa [hd] using h x hx

theorem fated_of_sameFate (same : SameFate s.before.broker s.after.broker) (begun : s.begun? = none)
    (undelivered : ∀ l d, s.event ≠ .deliver l d) (undoomed : s.event ≠ .doom (.inside i)) : s.Fated i := by
  apply fated_of_undelivered undelivered (by simp [begun])
  intro x hx
  exact ⟨x, (same i).symm.trans hx, by simp [undoomed]⟩

/-- A delivery that dooms a transaction just if it names it and fails it. -/
theorem fated_of_strikes {l : LinkId} {d : Delivery} {t : Transaction} {fails : Bool} (event : s.event = .deliver l d)
    (begun : s.begun? = none) (strikes : Strikes s.before.broker s.after.broker t fails)
    (dooms : s.Dooms i ↔ fails = true ∧ t = .inside i) : s.Fated i := by
  intro x hx
  rw [if_neg (by simp [begun])]
  rcases strikes i with h | ⟨-, h⟩
  · rw [h] at hx
    obtain ⟨y, hy, rfl⟩ := Option.map_eq_some_iff.1 hx
    exact ⟨y, hy, by simp [event, dooms]⟩
  · rw [h] at hx
    cases hx

end Step

namespace World

open Broker

/-- **A delivery dooms what it says.** -/
theorem fated_deliver (w : World) (l : LinkId) (d : Delivery) (i : TransactionId) : (w.take (.deliver l d)).Fated i := by
  cases hl : w.broker.link? l with
  | none =>
    have htake : w.take (.deliver l d) = ⟨w, .deliver l d, .nothing, w⟩ := by simp only [take, step, hl]
    rw [htake]
    refine Step.fated_of_strikes rfl rfl ((SameFate.refl w.broker).strikes (.inside i)) (iff_of_false (fun h => ?_) (by simp))
    obtain ⟨l', d', event, joined⟩ := h.joined
    cases event
    simp [joined?, hl] at joined
  | some link =>
    have htake : w.take (.deliver l d) = ⟨w, .deliver l d, .delivered (w.broker.receive l link d).2,
        { w with broker := (w.broker.receive l link d).1 }⟩ := by simp only [take, step, hl]
    rw [htake]
    have h := dooming_receive w.broker l link d
    generalize w.broker.receive l link d = o at h ⊢
    cases h with
    | apart joining same =>
      refine Step.fated_of_strikes rfl rfl (same.strikes (.inside i)) (iff_of_false (fun h => ?_) (by simp))
      obtain ⟨l', d', event, joined⟩ := h.joined
      cases event
      rw [joined?_eq_none fun link' hl' => by rw [hl] at hl'; cases hl'; exact joining] at joined
      cases joined
    | failed joining fault strikes =>
      have hjoined := joined?_of_joining hl joining
      refine Step.fated_of_strikes rfl rfl strikes ⟨fun h => ?_, fun h => .failed rfl (h.2 ▸ hjoined) rfl⟩
      obtain ⟨l', d', event, joined⟩ := h.joined
      cases event
      exact ⟨rfl, Option.some.inj (hjoined.symm.trans joined)⟩
    | processed joining receiver came strikes =>
      refine Step.fated_of_strikes rfl rfl strikes ⟨fun h => ?_, ?_⟩
      · cases h with
        | failed event joined answer => cases answer
        | mistaken event found joining' receiver' came' answer unknown default other =>
          cases event
          cases hl.symm.trans found
          cases joining.symm.trans joining'
          cases receiver.symm.trans receiver'
          cases came.symm.trans came'
          exact ⟨mistaken_iff.2 ⟨unknown, _, default, other⟩, rfl⟩
      · rintro ⟨mistakes, rfl⟩
        obtain ⟨unknown, k, default, other⟩ := mistaken_iff.1 mistakes
        exact .mistaken rfl hl joining receiver came rfl unknown default other

/-- **What a step does to the fate of transactions.** -/
theorem fated_take (w : World) (e : Event) (i : TransactionId) : (w.take e).Fated i := by
  -- requests on the topology, links and queues leave every transaction alone
  have quiet : SameFate w.broker (w.take e).after.broker → (w.take e).begun? = none → (∀ l d, e ≠ .deliver l d) →
      e ≠ .doom (.inside i) → (w.take e).Fated i := Step.fated_of_sameFate
  cases e with
  | deliver l d => exact w.fated_deliver l d i
  | begin =>
    by_cases hi : i = w.broker.begin.2
    · intro x hx
      have hx : w.broker.begin.1.doomed? i = some x := hx
      rw [doomed?_begin, if_pos hi] at hx
      cases hx
      rw [if_pos (hi ▸ rfl)]
    · have hb : (w.take .begin).begun? ≠ some i := fun h => hi (Option.some.inj h).symm
      apply Step.fated_of_undelivered (fun l d h => by cases h) hb
      intro x hx
      have hx : w.broker.begin.1.doomed? i = some x := hx
      rw [doomed?_begin, if_neg hi] at hx
      exact ⟨x, hx, by simp [take]⟩
  | doom t =>
    apply Step.fated_of_undelivered (fun l d h => by cases h) fun h => by cases h
    intro x hx
    have hx : (w.broker.doom t).doomed? i = some x := hx
    rw [doomed?_doom] at hx
    obtain ⟨y, hy, rfl⟩ := Option.map_eq_some_iff.1 hx
    exact ⟨y, hy, by simp [take]⟩
  | resolve how j =>
    apply Step.fated_of_undelivered (fun l d h => by cases h) fun h => by cases h
    intro x hx
    have hx : (w.broker.resolve j how).1.doomed? i = some x := hx
    have hend : (w.broker.resolve j how).1.doomed? i = if i = j then none else w.broker.doomed? i := by
      cases how with
      | commit => exact doomed?_commit w.broker j i
      | rollback => exact doomed?_rollback w.broker j i
    rw [hend] at hx
    by_cases hi : i = j
    · rw [if_pos hi] at hx
      cases hx
    · rw [if_neg hi] at hx
      exact ⟨x, hx, by simp [take]⟩
  | administer q => exact quiet (linkSteps_sameFate.administer w.broker q) rfl (by simp) (by simp)
  | route exchange message key properties => exact quiet (.of_transactions rfl) rfl (by simp) (by simp)
  | send j t =>
    cases hj : w.results[j]? with
    | none =>
      have h : w.take (.send j t) = ⟨w, .send j t, .nothing, w⟩ := by simp only [take, step, hj]
      rw [h]
      exact Step.fated_of_sameFate (.refl w.broker) rfl (by simp) (by simp)
    | some result =>
      have h : w.take (.send j t) = ⟨w, .send j t, .sent (w.broker.send result t).2,
          { w with broker := (w.broker.send result t).1 }⟩ := by simp only [take, step, hj]
      rw [h]
      exact Step.fated_of_sameFate (sameFate_send w.broker result t) rfl (by simp) (by simp)
  | pop q =>
    refine quiet (.of_transactions ?_) rfl (by simp) (by simp)
    unfold take step pop
    simp only
    split <;> rfl
  | drop j =>
    cases hj : w.held[j]? with
    | none =>
      have h : w.take (.drop j) = ⟨w, .drop j, .nothing, w⟩ := by simp only [take, step, hj]
      rw [h]
      exact Step.fated_of_sameFate (.refl w.broker) rfl (by simp) (by simp)
    | some entry =>
      have h : w.take (.drop j) = ⟨w, .drop j, .nothing,
          { w with broker := w.broker.release entry.message.id, held := w.held.eraseIdx j }⟩ := by
        simp only [take, step, hj]
      rw [h]
      exact Step.fated_of_sameFate (.of_transactions rfl) rfl (by simp) (by simp)
  | failStore failing => exact quiet (.of_transactions rfl) rfl (by simp) (by simp)
  | session s => exact quiet (.of_transactions rfl) rfl (by simp) (by simp)
  | link name settings formats receiverOpen => exact quiet (.of_transactions rfl) rfl (by simp) (by simp)
  | attach l how a =>
    have h := linkSteps_sameFate.withLink (linkSteps_sameFate.attachAs w.broker l · a how) l
    exact quiet h rfl (by simp) (by simp)
  | start l =>
    have h := linkSteps_sameFate.withLink (linkSteps_sameFate.start w.broker l ·) l
    exact quiet h rfl (by simp) (by simp)
  | disposition l tag settled =>
    have h := linkSteps_sameFate.withLink (linkSteps_sameFate.receiveDisposition w.broker l · tag settled) l
    exact quiet h rfl (by simp) (by simp)
  | detach l d => exact quiet (linkSteps_sameFate.detach w.broker l d) rfl (by simp) (by simp)
  | destroy l => exact quiet (linkSteps_sameFate.teardown w.broker l .destroyed) rfl (by simp) (by simp)

end World

open Broker

/-- **What dooms a transaction in a course of events**: an open one was begun in it if it was not open before, and is
doomed just if that was done by hand since, or by a delivery. -/
theorem doomed_of_course {first w : World} {past : List Step} {i : TransactionId} (course : Course first past w)
    (idle : first.broker.doomed? i = none) {x : Bool} (h : w.broker.doomed? i = some x) :
    (∃ s ∈ past, s.begun? = some i) ∧
      (x = true ↔ ∃ s ∈ since i past, s.event = .doom (.inside i) ∨ s.Dooms i) := by
  induction course generalizing x with
  | start =>
    rw [idle] at h
    cases h
  | @event past w course e ih =>
    have hfate := w.fated_take e i x h
    rw [since_snoc]
    by_cases hb : (w.take e).begun? = some i
    · rw [if_pos hb] at hfate ⊢
      exact ⟨⟨_, List.mem_append_right _ (List.mem_singleton_self _), hb⟩, by simp [hfate]⟩
    · rw [if_neg hb] at hfate ⊢
      obtain ⟨y, hy, hx⟩ := hfate
      obtain ⟨⟨s, hs, hbegun⟩, hy'⟩ := ih hy
      refine ⟨⟨s, List.mem_append_left _ hs, hbegun⟩, ?_⟩
      rw [hx, hy']
      simp [or_and_right, exists_or]
  | @handed past w course l r ih =>
    have h : (w.broker.setReceiver l r).doomed? i = some x := h
    rw [sameFate_setReceiver w.broker l r i] at h
    exact ih h

theorem exists_take_of_course {first w : World} {past : List Step} (course : Course first past w) :
    ∀ s ∈ past, ∃ v e, s = World.take v e := by
  induction course with
  | start => exact fun _ hs => by cases hs
  | @event past w course e ih =>
    rw [List.forall_mem_append, List.forall_mem_singleton]
    exact ⟨ih, w, e, rfl⟩
  | handed course l r ih => exact ih

/-- **Why a delivery failed** once its transaction was found: it was denied, there was no receiver, no persistent store
for its message, or its message could not be sent. -/
theorem World.fault_of_failed {w : World} {l : LinkId} {link : Link} {d : Delivery} {message : Message}
    {t : Transaction} {e : LinkError} (hl : w.broker.link? l = some link)
    (joining : w.broker.joining? link d = some (message, t))
    (answer : (w.take (.deliver l d)).answer = .delivered (.error e)) :
    Fault (w.broker.acquire message.id) link message t e := by
  have h := dooming_receive w.broker l link d
  simp only [take, step, hl] at answer
  generalize w.broker.receive l link d = o at h answer
  cases h with
  | apart joining' same => cases joining'.symm.trans joining
  | failed joining' fault strikes =>
    cases joining'.symm.trans joining
    cases answer
    exact fault
  | processed joining' receiver came strikes => cases answer

/-- **A commit is refused just for a doomed transaction.**  In every course of events from the beginning, over any
links and with receivers of any kind, in which nobody dooms a transaction by hand: the commit of an open transaction is
refused just if a delivery has doomed it since it was begun, and then store and queues stay as they are; otherwise it is
granted unless the store refuses a record that is due.  What dooms a transaction is a delivery that found it and then
failed, for one of these reasons, or came to an outcome that its sender would take for another one.  A delivery that is
resumed, cannot be read or names another transaction does not. -/
theorem commit_refused_of_course {settings : HostSettings} {store : Store} {principal : Principal} {past : List Step}
    {w : World} {i : TransactionId} {t : LocalTransaction} (course : Course (.new settings store principal) past w)
    (isOpen : w.broker.active? i = some t) (unmarked : ∀ s ∈ past, s.event ≠ .doom (.inside i)) :
    let commit := w.take (.resolve .commit i)
    (∃ s ∈ past, s.begun? = some i) ∧
      (commit.answer = .resolved (.error (.rolledBack i)) ↔ ∃ s ∈ since i past, s.Dooms i) ∧
      (commit.answer = .resolved (.error (.rolledBack i)) → commit.after.broker.stock = w.broker.stock) ∧
      (commit.answer ≠ .resolved (.error (.rolledBack i)) →
        commit.answer = .resolved ((ofRefusal (w.broker.refused? t.pending)).mapError (.store i))) ∧
      (∀ s ∈ past, ∀ l d link message e, s.event = .deliver l d → s.before.broker.link? l = some link →
        s.before.broker.joining? link d = some (message, .inside i) → s.answer = .delivered (.error e) →
        s.Dooms i ∧ Fault (s.before.broker.acquire message.id) link message (.inside i) e) ∧
      ∀ s ∈ past, ∀ l d, s.event = .deliver l d → (d.resume = true ∨ d.transaction? ≠ some i ∨
        ∀ link, s.before.broker.link? l = some link → ∃ e, decode link d = .error e) → ¬ s.Dooms i := by
  intro commit
  have idle : (World.new settings store principal).broker.doomed? i = none := by
    unfold doomed? active? transaction?
    split <;> rfl
  have hdoomed : w.broker.doomed? i = some t.rollbackOnly := by rw [doomed?, isOpen]; rfl
  obtain ⟨begun, hdooms⟩ := doomed_of_course course idle hdoomed
  have hdooms : t.rollbackOnly = true ↔ ∃ s ∈ since i past, s.Dooms i := by
    rw [hdooms]
    constructor
    · rintro ⟨s, hs, hand | dooms⟩
      · exact absurd hand (unmarked s (mem_of_mem_since hs))
      · exact ⟨s, hs, dooms⟩
    · rintro ⟨s, hs, dooms⟩
      exact ⟨s, hs, .inr dooms⟩
  have hanswer : commit.answer = .resolved (w.broker.commit i).2 := rfl
  have hcommit := commit_of_open isOpen
  have hrefused : commit.answer = .resolved (.error (.rolledBack i)) ↔ t.rollbackOnly = true := by
    rw [hanswer, hcommit]
    cases t.rollbackOnly with
    | true => simp
    | false => cases w.broker.refused? t.pending <;> simp [ofRefusal, Except.mapError]
  refine ⟨begun, hrefused.trans hdooms, ?_, ?_, ?_, fun s _ l d event apart => Step.not_dooms event apart⟩
  · intro refused
    have hstock : commit.after.broker.stock = (w.broker.offer (w.broker.commitOffers i)).stock :=
      (commit_offers w.broker i).1
    have hoffers : w.broker.commitOffers i = [] := by simp [commitOffers, isOpen, hrefused.1 refused]
    rw [hstock, hoffers, offer_nil]
  · intro granted
    have hdoomed : t.rollbackOnly = false := Bool.eq_false_iff.2 fun h => granted (hrefused.2 h)
    rw [hanswer, hcommit, hdoomed]
    rfl
  · intro s hs l d link message e event hl joining answer
    obtain ⟨v, ev, rfl⟩ := exists_take_of_course course s hs
    cases event
    exact ⟨.failed rfl (joined?_of_joining hl joining) answer, World.fault_of_failed hl joining answer⟩

/-- A sender that takes every outcome it is not told for `accepted`, and in a transaction a message that no queue
takes. -/
def mistakenly : List Event :=
  [.link "in" {} [0] true,
    .attach 0 .plain { source := some { defaultOutcome := some .accepted }, target := some (.node {}) },
    .begin, .deliver 0 (parcel 1 0 (some (.transactional 1 none)) none)]

/-- The message is rejected, its sender would not know, and so the commit is refused. -/
theorem commit_refused_mistakenly :
    let w := (World.new {} ⟨true, ∅, []⟩ {}).after mistakenly
    (w.take (.resolve .commit 1)).answer = .resolved (.error (.rolledBack 1)) ∧
      (∃ s ∈ since 1 ((World.new {} ⟨true, ∅, []⟩ {}).history mistakenly), s.Dooms 1) ∧
      (w.take (.resolve .commit 1)).after.broker.stock = w.broker.stock := by
  intro w
  have isOpen : (w.broker.active? 1).isSome = true := by decide +kernel
  obtain ⟨t, ht⟩ := Option.isSome_iff_exists.1 isOpen
  have unmarked : ∀ s ∈ (World.new {} ⟨true, ∅, []⟩ {}).history mistakenly, s.event ≠ .doom (.inside 1) := by
    intro s hs
    have hevent := World.event_of_history hs
    intro h
    simp [mistakenly, h] at hevent
  obtain ⟨-, dooms, untouched, -⟩ := commit_refused_of_course (course_of_run _ mistakenly) ht unmarked
  have refused : (w.take (.resolve .commit 1)).answer = .resolved (.error (.rolledBack 1)) := by
    have h : (w.broker.commit 1).2 = .error (.rolledBack 1) := by decide +kernel
    exact congrArg Answer.resolved h
  exact ⟨refused, dooms.1 refused, untouched refused⟩

end MessageBroker
