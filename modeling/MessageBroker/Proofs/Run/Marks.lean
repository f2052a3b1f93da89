import MessageBroker.Proofs.Broker.Receptions
import MessageBroker.Proofs.Run.Effects
/-!
# What a step does to unsettled deliveries

What a step does to the maps of the links, and to what transactions owe, is explained by its event (`World.marked_take`):
a new delivery is recorded, and answered or owed; a resumed one is answered once more; the end of a transaction sends
what that owed; and a link forgets deliveries when its sender settles them, leaves them out of an attach, or the link
is torn down (`Step.forgets`).  A course of events is a run in which links may also be handed receivers of any kind.
-/
namespace MessageBroker

namespace Broker

/-- What an attach is answered. -/
def attachResult (b : Broker) (l : LinkId) (link : Link) (a : Attach) : Attaching → Except LinkError Unit
  | .plain => (b.attach l link a).2
  | .establish => (b.establish l link a).2
  | .resume => (b.resume l link a).2
  | .reattach => (b.reattach l link a).2
  | .recover => (b.recover l link a).2

/-- Whether an attach leaves an unsettled delivery on the map.  If it is turned away at once, nothing changes; if it
goes through, those stay that it has not left out; if it fails, the link is torn down. -/
def attachKeeps (b : Broker) (l : LinkId) (link : Link) (a : Attach) (how : Attaching) (tag : DeliveryTag) : Bool :=
  (match how with
    | .plain => link.state != .unattached
    | _ => false) || (b.attachResult l link a how).isOk && keptBy a tag

theorem settles_attachAs {b : Broker} {l : LinkId} {link : Link} (hl : b.link? l = some link) (a : Attach)
    (how : Attaching) : Settles b (b.attachAs l link a how) [.forgotten l (b.attachKeeps l link a how)] := by
  cases how with
  | plain => exact settles_attach hl a
  | establish => exact settles_establish hl a
  | resume => exact settles_resume hl a
  | reattach => exact settles_reattach hl a
  | recover => exact settles_recover hl a

end Broker

namespace Step

/-- Whether a new delivery was processed in this step, on this link and under this tag. -/
def takes (s : Step) (l : LinkId) (tag : DeliveryTag) : Bool :=
  match s.event, s.answer with
  | .deliver k d, .delivered (.ok ()) => k == l && d.tag == tag && !d.resume
  | _, _ => false

/-- Whether a link forgets a delivery in this step: its sender has settled it, an attach has left it out, or the link
is torn down. -/
def forgets (s : Step) (l : LinkId) (tag : DeliveryTag) : Bool :=
  match s.event with
  | .disposition k t settled => k == l && settled && t == tag
  | .attach k how a =>
    k == l && (s.before.broker.link? k).any fun link => !s.before.broker.attachKeeps k link a how tag
  | .detach k d => k == l && (s.before.broker.detach k d).2 != .suspended
  | .destroy k => k == l
  | _ => false

theorem takes_eq_false {s : Step} {l : LinkId} (h : ∀ d, s.event ≠ .deliver l d) (tag : DeliveryTag) :
    s.takes l tag = false := by
  unfold takes
  split
  · rename_i k d he _
    have hk : (k == l) = false := beq_eq_false_iff_ne.2 fun hk => h d (hk ▸ he)
    rw [hk, Bool.false_and, Bool.false_and]
  · rfl

/-- **How a mark comes about in a step.** -/
inductive Explains (s : Step) : Mark → Prop where
  | recorded {l : LinkId} {tag : DeliveryTag} {state : DeliveryState} (taken : s.takes l tag = true) :
      Explains s (.recorded l tag state)
  | answered {a : SettlementAction} (taken : s.takes a.link a.disposition.tag = true) : Explains s (.sent a)
  | repeated {a : SettlementAction} {d : Delivery} {o : Outcome} (event : s.event = .deliver a.link d)
      (stood : s.before.broker.unsettled? a.link a.disposition.tag = some (some (.final o)))
      (same : a.disposition.state = some (.final o)) : Explains s (.sent a)
  | redeemed {a : SettlementAction} {i : TransactionId} {as : List SettlementAction}
      (owed : s.before.broker.debts? i = some as) (mem : a ∈ as) (ended : s.after.broker.debts? i = none) :
      Explains s (.sent a)
  | begun : Explains s (.begun (s.before.broker.transactions.length + 1))
  | owed {i : TransactionId} {a : SettlementAction} (taken : s.takes a.link a.disposition.tag = true) :
      Explains s (.owed i a)
  | closed {i : TransactionId} (ended : s.after.broker.debts? i = none) : Explains s (.closed i)
  | forgotten {l : LinkId} {kept : DeliveryTag → Bool} (forgets : ∀ tag, kept tag = false → s.forgets l tag = true) :
      Explains s (.forgotten l kept)

/-- **These marks are what a step does to unsettled deliveries**, and all of them are explained. -/
structure Marked (s : Step) (ms : List Mark) : Prop where
  entry : ∀ l tag, (s.before.broker.link? l).isSome = true →
    s.after.broker.unsettled? l tag = ms.foldl (fun e m => m.onEntry l tag e) (s.before.broker.unsettled? l tag)
  debts : ∀ i, s.after.broker.debts? i = ms.foldl (fun as m => m.onDebts i as) (s.before.broker.debts? i)
  outbox : s.after.broker.outbox = s.before.broker.outbox ++ s.before.broker.letters (ms.filterMap Mark.sent?)
  links : ∀ l, (s.before.broker.link? l).isSome = true → (s.after.broker.link? l).isSome = true
  /-- A link that is new has no unsettled deliveries. -/
  fresh : ∀ l tag, s.before.broker.link? l = none → s.after.broker.unsettled? l tag = none
  begun : s.before.broker.transactions.length ≤ s.after.broker.transactions.length
  explained : ∀ m ∈ ms, s.Explains m
  /-- A tag is given to a new delivery only if it is free. -/
  free : ∀ l tag, s.takes l tag = true → s.before.broker.unsettled? l tag = none
  forgets : ∀ l tag, s.forgets l tag = true → ∃ kept, ms = [.forgotten l kept] ∧ kept tag = false

theorem marked_of_settles {s : Step} {ms : List Mark} (h : Broker.Settles s.before.broker s.after.broker ms)
    (explained : ∀ m ∈ ms, s.Explains m)
    (free : ∀ l tag, s.takes l tag = true → s.before.broker.unsettled? l tag = none)
    (forgets : ∀ l tag, s.forgets l tag = true → ∃ kept, ms = [.forgotten l kept] ∧ kept tag = false) :
    s.Marked ms := by
  have hlink : ∀ l, (s.after.broker.link? l).isSome = (s.before.broker.link? l).isSome := fun l => by
    rw [← Option.isSome_map (f := fun x : Link => x.receiverOpen),
      ← Option.isSome_map (f := fun x : Link => x.receiverOpen)]
    exact congrArg Option.isSome (h.ears l)
  refine ⟨fun l tag hl => h.unsettled? hl tag, h.debts, h.outbox, fun l hl => (hlink l).trans hl, fun l tag hl => ?_,
    h.begun, explained, free, forgets⟩
  have hnone := hlink l
  rw [hl, Option.isSome_none, Option.isSome_eq_false_iff, Option.isNone_iff_eq_none] at hnone
  rw [Broker.unsettled?, hnone]
  rfl

/-- A step without marks. -/
theorem marked_of_quiet {s : Step} (h : Broker.Settles s.before.broker s.after.broker [])
    (takes : ∀ l tag, s.takes l tag = false) (forgets : ∀ l tag, s.forgets l tag = false) : s.Marked [] := by
  refine marked_of_settles h (fun _ hm => (List.not_mem_nil hm).elim) (fun l tag ht => ?_) fun l tag hf => ?_
  · rw [takes] at ht
    cases ht
  · rw [forgets] at hf
    cases hf

/-- A step in which a link forgets deliveries at most. -/
theorem marked_of_forgotten {s : Step} {l : LinkId} {kept : DeliveryTag → Bool}
    (h : Broker.Settles s.before.broker s.after.broker [.forgotten l kept]) (takes : ∀ k tag, s.takes k tag = false)
    (forgets : ∀ k tag, s.forgets k tag = (l == k && !kept tag)) : s.Marked [.forgotten l kept] := by
  refine marked_of_settles h (fun m hm => ?_) (fun k tag ht => ?_) fun k tag hf => ?_
  · rw [List.mem_singleton.1 hm]
    exact .forgotten fun tag hk => by simp [forgets, hk]
  · rw [takes] at ht
    cases ht
  · rw [forgets] at hf
    simp only [Bool.and_eq_true, beq_iff_eq, Bool.not_eq_true'] at hf
    exact ⟨kept, by rw [hf.1], hf.2⟩

/-- What is sent at the end of a transaction was owed to it. -/
theorem explains_of_resolving {s : Step} {i : TransactionId} {m : Mark} (hm : m ∈ s.before.broker.resolving i)
    (ended : s.after.broker.debts? i = none) : s.Explains m := by
  obtain ⟨as, has, rfl | ⟨a, ha, rfl⟩⟩ := Broker.mem_resolving hm
  · exact .closed ended
  · exact .redeemed has ha ended

/-- What is recorded, sent and owed of a delivery that is processed is about its tag, on its link. -/
theorem explains_of_verdict (w w' : World) {l : LinkId} {d : Delivery} {v : Broker.Verdict} (new : d.resume = false)
    (decided : w.broker.verdict? l d = some v) :
    let s : Step := ⟨w, .deliver l d, .delivered (.ok ()), w'⟩
    (∀ m ∈ Broker.recording v.action, s.Explains m) ∧ s.Explains (.sent v.action) ∧
      ∀ i, s.Explains (.owed i v.action) := by
  obtain ⟨-, link, message, r, outcome, -, -, -, -, ha⟩ := Broker.fixes_of_verdict? decided
  have htaken : Step.takes ⟨w, .deliver l d, .delivered (.ok ()), w'⟩ v.action.link v.action.disposition.tag = true := by
    simp [takes, ha, new]
  refine ⟨fun m hm => ?_, .answered htaken, fun i => .owed htaken⟩
  obtain ⟨state, -, rfl⟩ := List.mem_map.1 hm
  exact .recorded htaken

end Step

namespace World

open Broker

/-- **What receiving a delivery does** to unsettled deliveries. -/
theorem marked_deliver (w : World) (l : LinkId) (d : Delivery) : ∃ ms, (w.take (.deliver l d)).Marked ms := by
  unfold take step
  cases hl : w.broker.link? l with
  | none =>
    simp only [hl]
    exact ⟨[], Step.marked_of_quiet (.refl _) (fun _ _ => rfl) fun _ _ => rfl⟩
  | some link =>
    simp only [hl]
    have h := reception_receive hl d
    generalize w.broker.receive l link d = o at h ⊢
    -- nothing is forgotten, so it is enough to explain the marks of each way to end
    suffices hms : ∃ ms, Settles w.broker o.1 ms ∧
        (∀ m ∈ ms, Step.Explains ⟨w, .deliver l d, .delivered o.2, { w with broker := o.1 }⟩ m) ∧
        (o.2 = .ok () → d.resume = false → w.broker.unsettled? l d.tag = none) by
      obtain ⟨ms, hs, he, hfree⟩ := hms
      refine ⟨ms, Step.marked_of_settles hs he (fun k tag ht => ?_) fun _ _ hf => by cases hf⟩
      obtain ⟨b', result⟩ := o
      cases result with
      | error e => cases ht
      | ok u =>
        simp only [Step.takes, Bool.and_eq_true, beq_iff_eq, Bool.not_eq_true'] at ht
        obtain ⟨⟨rfl, rfl⟩, hnew⟩ := ht
        exact hfree rfl hnew
    cases h with
    | @failed b' e ms meddled h =>
      refine ⟨ms, h, fun m hm => ?_, fun hok => by cases hok⟩
      rcases meddled with rfl | ⟨i, -, rfl⟩
      · cases hm
      · exact Step.explains_of_resolving hm ((h.debts_of_resolving i).trans (if_pos rfl))
    | resumed resumes stood h =>
      refine ⟨_, h, fun m hm => ?_, fun _ hnew => ?_⟩
      · rw [List.mem_singleton.1 hm]
        exact .repeated rfl stood rfl
      · rw [hnew] at resumes
        cases resumes
    | @answered b' v new free decided outside h =>
      obtain ⟨-, hsent, -⟩ := Step.explains_of_verdict w ⟨b', w.results, w.held⟩ new decided
      refine ⟨_, h, fun m hm => ?_, fun _ _ => free⟩
      rw [List.mem_singleton.1 hm]
      exact hsent
    | @owed b' v i new free decided inside isOpen h =>
      obtain ⟨hrecorded, -, howed⟩ := Step.explains_of_verdict w ⟨b', w.results, w.held⟩ new decided
      refine ⟨_, h, fun m hm => ?_, fun _ _ => free⟩
      rcases List.mem_append.1 hm with hm | hm
      · exact hrecorded m hm
      · rw [List.mem_singleton.1 hm]
        exact howed i
    | @overtaken b' v i new free decided inside isOpen ended disloyal h =>
      obtain ⟨-, hsent, -⟩ := Step.explains_of_verdict w ⟨b', w.results, w.held⟩ new decided
      refine ⟨_, h, fun m hm => ?_, fun _ _ => free⟩
      rcases List.mem_append.1 hm with hm | hm
      · exact Step.explains_of_resolving hm ended
      · rw [List.mem_singleton.1 hm]
        exact hsent

/-- **What a step does to unsettled deliveries.** -/
theorem marked_take (w : World) (e : Event) : ∃ ms, (w.take e).Marked ms := by
  cases e with
  | administer q =>
    have h := administered_administer w.broker q
    exact ⟨[], Step.marked_of_quiet (h.aside.quiet (maps_congr h.links)) (fun _ _ => rfl) fun _ _ => rfl⟩
  | route exchange message key properties =>
    exact ⟨[], Step.marked_of_quiet (.of_kept rfl rfl rfl) (fun _ _ => rfl) fun _ _ => rfl⟩
  | send i t =>
    refine ⟨[], Step.marked_of_quiet ?_ (fun _ _ => rfl) fun _ _ => rfl⟩
    unfold take step
    cases hi : w.results[i]? with
    | none =>
      simp only [hi]
      exact .refl _
    | some result =>
      simp only [hi]
      exact settles_send w.broker result t
  | pop q =>
    refine ⟨[], Step.marked_of_quiet ?_ (fun _ _ => rfl) fun _ _ => rfl⟩
    refine .of_kept ?_ ?_ ?_ <;> (unfold take step pop; simp only; split <;> rfl)
  | drop i =>
    refine ⟨[], Step.marked_of_quiet ?_ (fun _ _ => rfl) fun _ _ => rfl⟩
    unfold take step
    cases hi : w.held[i]? with
    | none =>
      simp only [hi]
      exact .refl _
    | some entry =>
      simp only [hi]
      exact .of_kept rfl rfl rfl
  | begin =>
    refine ⟨_, Step.marked_of_settles (settles_begin w.broker) (fun m hm => ?_) (fun _ _ ht => by cases ht)
      fun _ _ hf => by cases hf⟩
    rw [List.mem_singleton.1 hm]
    exact .begun
  | doom t => exact ⟨[], Step.marked_of_quiet (settles_doom w.broker t) (fun _ _ => rfl) fun _ _ => rfl⟩
  | resolve how i =>
    have h : Settles w.broker (w.broker.resolve i how).1 (w.broker.resolving i) := by
      cases how with
      | commit => exact settles_commit w.broker i
      | rollback => exact settles_rollback w.broker i
    refine ⟨_, Step.marked_of_settles h (fun m hm => ?_) (fun _ _ ht => by cases ht) fun _ _ hf => by
      cases hf⟩
    exact Step.explains_of_resolving hm ((h.debts_of_resolving i).trans (if_pos rfl))
  | failStore failing => exact ⟨[], Step.marked_of_quiet (.of_kept rfl rfl rfl) (fun _ _ => rfl) fun _ _ => rfl⟩
  | session s => exact ⟨[], Step.marked_of_quiet (.of_kept rfl rfl rfl) (fun _ _ => rfl) fun _ _ => rfl⟩
  | link name settings formats receiverOpen =>
    -- a link is added behind those that there are
    have hlink : ∀ l, (w.broker.link? l).isSome = true →
        (w.take (.link name settings formats receiverOpen)).after.broker.link? l = w.broker.link? l := fun l hl => by
      unfold link? at hl ⊢
      obtain ⟨x, hx⟩ := Option.isSome_iff_exists.1 hl
      exact List.getElem?_append_left (List.getElem?_eq_some_iff.1 hx).1
    refine ⟨[], fun l tag hl => ?_, fun _ => rfl, (List.append_nil _).symm, fun l hl => ?_, fun l tag hl => ?_,
      Nat.le_refl _, fun _ hm => (by cases hm), fun _ _ ht => (by cases ht), fun _ _ hf => (by cases hf)⟩
    · unfold unsettled?
      rw [hlink l hl]
      rfl
    · rw [hlink l hl]
      exact hl
    · have hge : w.broker.links.length ≤ l := List.getElem?_eq_none_iff.1 hl
      unfold unsettled? link? take step newLink
      simp only
      rw [List.getElem?_append_right hge, List.getElem?_singleton]
      split <;> rfl
  | attach l how a =>
    unfold take step withLink
    cases hl : w.broker.link? l with
    | none =>
      simp only [hl]
      exact ⟨[], Step.marked_of_quiet (.refl _) (fun _ _ => rfl) fun k tag => by simp [Step.forgets, hl]⟩
    | some link =>
      simp only [hl]
      exact ⟨_, Step.marked_of_forgotten (settles_attachAs hl a how) (fun _ _ => rfl) fun k tag => by
        simp [Step.forgets, hl]⟩
  | start l =>
    refine ⟨[], Step.marked_of_quiet ?_ (fun _ _ => rfl) fun _ _ => rfl⟩
    unfold take step withLink
    simp only
    split
    · exact .refl _
    · exact settles_start _ l _
  | deliver l d => exact marked_deliver w l d
  | disposition l tag settled =>
    have hforgets : ∀ k t, (w.take (.disposition l tag settled)).forgets k t =
        (l == k && !(!settled || t != tag)) := fun k t => by
      cases settled with
      | false => simp [Step.forgets, take]
      | true => simp [Step.forgets, take, bne, BEq.comm (a := t)]
    unfold take step withLink at *
    cases hl : w.broker.link? l with
    | none =>
      simp only [hl]
      exact ⟨_, Step.marked_of_forgotten (settles_of_no_link hl fun t => !settled || t != tag) (fun _ _ => rfl) hforgets⟩
    | some link =>
      simp only [hl]
      exact ⟨_, Step.marked_of_forgotten (settles_receiveDisposition hl tag settled) (fun _ _ => rfl) hforgets⟩
  | detach l d =>
    exact ⟨_, Step.marked_of_forgotten (settles_detach w.broker l d) (fun _ _ => rfl) fun _ _ => rfl⟩
  | destroy l =>
    exact ⟨_, Step.marked_of_forgotten (settles_teardown w.broker l .destroyed) (fun _ _ => rfl) fun k tag => by
      simp [Step.forgets, take]⟩

end World
end MessageBroker
