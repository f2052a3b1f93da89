import MessageBroker.Proofs.Broker.Failing
import MessageBroker.Proofs.Run.Books
/-!
# A delivery that fails leaves no trace

Whichever check or collaborator a delivery fails at, new or resumed, in a transaction or outside, all that the broker
and its users hold is as before, but that its own transaction is doomed if it was found (`failed_delivery`).
-/
namespace MessageBroker

namespace Broker

variable {b : Broker} {l : LinkId} {d : Delivery} {t : Transaction}

theorem id?_of_joined? (h : b.joined? l d = some t) : t.id? = d.transaction? := by
  obtain ⟨z, hz, rfl⟩ := Option.map_eq_some_iff.1 h
  obtain ⟨link, -, hz⟩ := Option.bind_eq_some_iff.1 hz
  obtain ⟨message, -, hz⟩ := Option.bind_eq_some_iff.1 hz
  obtain ⟨t, ht, hz⟩ := Option.bind_eq_some_iff.1 hz
  cases hz
  exact id?_of_transactionOf (ok_of_toOption ht)

/-- A transaction that is doomed still is open, with what it holds back and owes. -/
theorem Unscathed.account {b' : Broker} {joined : Option Transaction} (h : Unscathed b joined b') (i : TransactionId) :
    b'.account i = b.account i := by
  unfold Broker.account active?
  rw [h.transactions]
  cases b.transaction? i with
  | none => rfl
  | some t =>
    simp only [Option.map_some, Option.filter_some]
    by_cases hj : joined = some (.inside i)
    · rw [if_pos hj]
      split <;> rfl
    · rw [if_neg hj]

end Broker

open Broker

/-- **A delivery that fails leaves no trace but a doomed transaction**: in every state of a run, and in any state at all
in which the link's receiver leaves transactions alone, one that is answered with an error leaves everything as it was
but for what is noted, the records that the store took before it failed, and the transaction that the delivery names,
which is doomed if it was found.  No reference is left behind, and open transactions hold back and owe what they did. -/
theorem failed_delivery (w : World) (l : LinkId) (d : Delivery) (e : LinkError)
    (state : (∃ settings store principal es, w = (World.new settings store principal).after es) ∨
      ∀ link r, w.broker.link? l = some link → link.receiver = some r → r.Loyal)
    (failed : (w.take (.deliver l d)).answer = .delivered (.error e)) :
    let w' := (w.take (.deliver l d)).after
    w' = { w with broker := w'.broker } ∧ w.broker.Unscathed (w.broker.joined? l d) w'.broker ∧
      (∀ t, w.broker.joined? l d = some t → t.id? = d.transaction?) ∧
      ∀ i, w'.broker.account i = w.broker.account i := by
  have loyal : ∀ link r, w.broker.link? l = some link → link.receiver = some r → r.Loyal := by
    rcases state with ⟨settings, store, principal, es, rfl⟩ | loyal
    · exact fun link r hl hr => ((books_of_run settings store principal es).plain l link r hl hr).loyal
    · exact loyal
  have main : (w.take (.deliver l d)).after = { w with broker := (w.take (.deliver l d)).after.broker } ∧
      w.broker.Unscathed (w.broker.joined? l d) (w.take (.deliver l d)).after.broker := by
    unfold World.take World.step at failed ⊢
    cases hl : w.broker.link? l with
    | none =>
      simp only [hl] at failed
      cases failed
    | some link =>
      simp only [hl, Answer.delivered.injEq] at failed ⊢
      exact ⟨trivial, (ventures_receive hl (fun r hr => loyal link r hl hr) d).unscathed failed⟩
  exact ⟨main.1, main.2, fun t => id?_of_joined?, main.2.account⟩

/-- A link to a queue, and a transaction. -/
def opened : List Event :=
  [.administer (.createQueue { name := "orders" }),
    .link "in" {} [0] true,
    .attach 0 .plain { target := some (.node { address := some "orders" }) },
    .begin]

/-- In the transaction a message comes in under a name that the sender may not use. -/
theorem failed_delivery_forged :
    let w := (World.new {} ⟨true, ∅, []⟩ { validate := true }).after opened
    let d : Delivery :=
      ⟨[1], 0, .ok ⟨⟨none, none, some "mallory", [], false, [], none⟩, 0⟩, some (.transactional 1 none), false, none⟩
    let w' := (w.take (.deliver 0 d)).after
    w.broker.joined? 0 d = some (.inside 1) ∧ w.broker.Unscathed (some (.inside 1)) w'.broker ∧
      (w'.broker.active? 1).map (·.rollbackOnly) = some true := by
  intro w d w'
  have joined : w.broker.joined? 0 d = some (.inside 1) := by decide +kernel
  have failed : (w.take (.deliver 0 d)).answer = .delivered (.error (.delivery (.denied ⟨"guest", "mallory"⟩))) := by
    rfl
  obtain ⟨-, left, -⟩ := failed_delivery w 0 d _ (.inl ⟨_, _, _, _, rfl⟩) failed
  exact ⟨joined, joined ▸ left, by decide +kernel⟩

end MessageBroker
