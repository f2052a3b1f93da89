import MessageBroker.Proofs.Run.Books
/-!
# Every delivery that is processed is answered once

A delivery outside transactions is answered when it comes in, one in a transaction when that is resolved, however it is
resolved and whatever became of its link.  How it is answered is fixed when it comes in (`Broker.Fixes`), and nothing
else is answered.  Deliveries that are resumed are left aside.
-/
namespace MessageBroker

open Broker

/-- What is answered by a step: what it answers at once, and what was owed to the end of a transaction if it is the
end of one. -/
def answeredBy (past : List Step) (s : Step) : List SettlementAction :=
  s.answers ++ (s.resolved?.map (owed past)).getD []

/-- **A step answers what it has to answer**, after what has happened so far. -/
structure Answered (past : List Step) (s : Step) : Prop where
  /-- What goes out is what is answered, in this order, where someone takes it. -/
  sent : s.resumes = false →
    s.after.broker.outbox = s.before.broker.outbox ++ s.before.broker.letters (answeredBy past s)
  failed : ∀ l d e, s.event = .deliver l d → s.answer = .delivered (.error e) → d.resume = false →
    s.after.broker.outbox = s.before.broker.outbox ∧ ∀ i, s.owes i = []
  /-- A delivery that is processed has one answer, for now or for the end of its transaction. -/
  processed : ∀ l d, s.event = .deliver l d → s.answer = .delivered (.ok ()) → d.resume = false →
    ∃ t a, s.before.broker.Fixes l d t a ∧
      s.after.broker.outbox = s.before.broker.outbox ++ s.before.broker.letters (t.now [a]) ∧
      (∀ i, s.owes i = t.later i [a]) ∧ ∀ i, t = .inside i → Unresolved past i
  resolved : ∀ how i, s.event = .resolve how i → Unresolved past i → s.resolved? = some i ∧
    s.after.broker.outbox = s.before.broker.outbox ++ s.before.broker.letters (owed past i)
  notFound : ∀ how i, s.event = .resolve how i → ¬ Unresolved past i →
    s.answer = .resolved (.error (.notFound i)) ∧ s.after = s.before
  others : (∀ l d, s.event ≠ .deliver l d) → (∀ how i, s.event ≠ .resolve how i) →
    s.after.broker.outbox = s.before.broker.outbox ∧ ∀ i, s.owes i = []
  /-- A transaction is resolved once. -/
  once : ∀ i, s.resolved? = some i → Unresolved past i ∧ ∀ more, ¬ Unresolved (past ++ s :: more) i
  /-- Who takes the dispositions of a link goes on to take them, also after the link was torn down. -/
  ears : ∀ l heard, s.before.broker.ear? l = some heard → s.after.broker.ear? l = some heard

namespace Step

/-- Only a delivery is answered. -/
theorem verdict?_eq_none {s : Step} (h : ∀ l d, s.event = .deliver l d → s.answer ≠ .delivered (.ok ())) :
    s.verdict? = none := by
  unfold verdict?
  split
  · rename_i l d he ha
    exact absurd ha (h l d he)
  · rfl

theorem owes_eq_nil {s : Step} (h : s.verdict? = none) (i : TransactionId) : s.owes i = [] := by
  unfold owes
  rw [h]
  rfl

theorem resolved?_eq_none {s : Step} (h : ∀ how i, s.event ≠ .resolve how i) : s.resolved? = none := by
  unfold resolved?
  split
  · rfl
  · rename_i how i _ _ he _
    exact absurd he (h how i)
  · rfl

theorem resumes_eq_false {s : Step} (h : ∀ l d, s.event = .deliver l d → d.resume = false) : s.resumes = false := by
  unfold resumes
  split
  · rename_i l d he
    exact h l d he
  · rfl

end Step

theorem answeredBy_of_not_resolved {past : List Step} {s : Step} (h : s.resolved? = none) :
    answeredBy past s = (s.verdict?.map fun v => v.transaction.now [v.action]).getD [] := by
  unfold answeredBy Step.answers
  rw [h]
  exact List.append_nil _

/-- A delivery is processed only if it comes to something. -/
theorem World.exists_verdict {w : World} {l : LinkId} {d : Delivery} (hp : w.broker.Plain) (hnew : d.resume = false)
    (hok : (w.take (.deliver l d)).answer = .delivered (.ok ())) : ∃ v, w.broker.verdict? l d = some v ∧
      (w.take (.deliver l d)).verdict? = some v := by
  have hv : (w.take (.deliver l d)).verdict? = w.broker.verdict? l d := by
    unfold Step.verdict?
    rw [hok]
    simp [take, hnew]
  rw [hv]
  unfold take step at hok
  cases hl : w.broker.link? l with
  | none =>
    simp only [hl] at hok
    cases hok
  | some link =>
    simp only [hl] at hok
    have h := handled_receive hl hp hnew
    generalize w.broker.receive l link d = o at h hok
    cases h with
    | failed h => cases hok
    | processed decided => exact ⟨_, decided, decided⟩

namespace Books

variable {start : Registry} {past : List Step} {w : World}

/-- **What goes out in a step is what the history says is answered.** -/
theorem outbox_take (h : Books start past w) (e : Event) (hr : (w.take e).resumes = false) :
    (w.take e).after.broker.outbox = w.broker.outbox ++ w.broker.letters (answeredBy past (w.take e)) := by
  obtain ⟨sent, hy, hsent⟩ := (h.effect e).yields
  have hout := hy.outbox
  rwa [hsent hr, h.redeems_eq e] at hout

/-- Nothing goes out in a step that processes no delivery and resolves no transaction. -/
theorem outbox_of_silent (h : Books start past w) {e : Event} (hr : (w.take e).resumes = false)
    (hv : (w.take e).verdict? = none) (hno : (w.take e).resolved? = none) :
    (w.take e).after.broker.outbox = w.broker.outbox ∧ ∀ i, (w.take e).owes i = [] := by
  refine ⟨?_, Step.owes_eq_nil hv⟩
  rw [h.outbox_take e hr, answeredBy_of_not_resolved hno, hv]
  exact List.append_nil _

theorem answered (h : Books start past w) (e : Event) : Answered past (w.take e) := by
  have heff := h.effect e
  refine ⟨h.outbox_take e, fun l d err he ha hnew => ?_, fun l d he hok hnew => ?_, fun how i he hi => ?_,
    fun how i he hi => ?_, fun hd hres => ?_, fun i hi => ?_, ?_⟩
  · cases he
    refine h.outbox_of_silent hnew (Step.verdict?_eq_none fun _ _ _ hok => ?_) (Step.resolved?_eq_none fun _ _ he => ?_)
    · rw [ha] at hok
      cases hok
    · cases he
  · cases he
    obtain ⟨v, hv, hs⟩ := World.exists_verdict h.plain hnew hok
    have hno : (w.take (.deliver l d)).resolved? = none := Step.resolved?_eq_none fun _ _ he => by cases he
    have howes : ∀ i, (w.take (.deliver l d)).owes i = v.transaction.later i [v.action] := fun i => by
      unfold Step.owes
      rw [hs]
      rfl
    refine ⟨v.transaction, v.action, fixes_of_verdict? hv, ?_, howes, fun i hi => ?_⟩
    · rw [h.outbox_take (.deliver l d) hnew, answeredBy_of_not_resolved hno, hs]
      rfl
    · refine (h.isOpen i).1 (heff.isOpen i (.inr (.inl ?_)))
      rw [howes, hi]
      simp [Transaction.later]
  · cases he
    obtain ⟨-, hres⟩ := World.effect_resolve_of_open (h.account_of_unresolved hi) (h.held i) how
    have hv : (w.take (.resolve how i)).verdict? = none := Step.verdict?_eq_none fun _ _ he => by cases he
    refine ⟨hres, ?_⟩
    rw [h.outbox_take _ rfl, answeredBy, hres, Step.answers, hv]
    rfl
  · cases he
    rw [World.take_resolve_of_not_open (h.account_of_not_unresolved hi)]
    exact ⟨rfl, rfl⟩
  · exact h.outbox_of_silent (Step.resumes_eq_false fun l d he => absurd he (hd l d))
      (Step.verdict?_eq_none fun l d he => absurd he (hd l d)) (Step.resolved?_eq_none hres)
  · refine ⟨(h.isOpen i).1 (heff.isOpen i (.inr (.inr hi))), fun more hu => ?_⟩
    exact hu.2 _ (List.mem_append_right _ List.mem_cons_self) hi
  · obtain ⟨sent, hy, -⟩ := heff.yields
    exact hy.ears

end Books

/-- **Every delivery that is processed is answered once**, when it comes in or at the end of its transaction: in every
run, with any number of links and transactions, whatever the store refuses and whatever is torn down. -/
theorem answered_of_run (settings : HostSettings) (store : Store) (principal : Principal) (es : List Event)
    (e : Event) : Answered ((World.new settings store principal).history es)
      (((World.new settings store principal).after es).take e) :=
  (books_of_run settings store principal es).answered e

/-- A delivery comes in within a transaction, and its link is destroyed. -/
def deliverAndDestroy : List Event :=
  [.administer (.createQueue { name := "orders" }),
    .link "in" {} [0] true,
    .attach 0 .plain { target := some (.node { address := some "orders" }) },
    .begin,
    .deliver 0 ⟨[1], 0, .ok ⟨⟨none, none, none, [], false, [], none⟩, 0⟩, some (.transactional 1 none), false, none⟩,
    .destroy 0]

theorem deliverAndDestroy_answered :
    (((World.new {} ⟨true, ∅, []⟩ {}).after deliverAndDestroy).take (.resolve .rollback 1)).after.broker.outbox
      = [(0, ⟨[1], some (.transactional 1 (some .accepted)), true⟩)] := by
  rw [(answered_of_run {} ⟨true, ∅, []⟩ {} deliverAndDestroy (.resolve .rollback 1)).sent rfl]
  decide +kernel

end MessageBroker
