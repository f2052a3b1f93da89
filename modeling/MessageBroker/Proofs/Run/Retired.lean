import MessageBroker.Proofs.Run.Tags
import MessageBroker.Proofs.Run.Turns
/-!
# Detached links

A link that is torn down is detached, and keeps nothing of its termini.  It stays so, and processes no delivery, until
one of two things is done with it that do not look at its state: an attach as a new link or as one that is attached
already, and a detach that would leave it to be resumed (`retired_of_course`).
-/
namespace MessageBroker

open Broker

/-- **What takes a detached link up again**, and the state that it is in then. -/
inductive Step.Revives (s : Step) (l : LinkId) : LinkState → Prop where
  | attached {x : Link} {how : Attaching} {a : Attach} (event : s.event = .attach l how a)
      (found : s.before.broker.link? l = some x) (unguarded : how = .establish ∨ how = .reattach)
      (result : s.before.broker.attachResult l x a how = .ok ()) : Revives s l .attached
  | suspended {x : Link} {d : Detach} (event : s.event = .detach l (some d))
      (found : s.before.broker.link? l = some x) (kept : d.closed = false) (flawless : d.error = none)
      (resumable : x.settings.resumeSupported = true) (lasting : s.before.broker.session.closing = false) :
      Revives s l .unattached

/-- No other event takes up a link. -/
theorem Step.not_revives {s : Step} {l : LinkId} (unattached : ∀ how a, s.event = .attach l how a → how = .plain)
    (undetached : ∀ d, s.event ≠ .detach l (some d)) (state : LinkState) : ¬ s.Revives l state := by
  intro h
  cases h with
  | attached event found unguarded =>
    cases unattached _ _ event
    rcases unguarded with h | h <;> cases h
  | suspended event => exact undetached _ event

/-- A link that has neither source nor target if it is detached. -/
def Link.Bare (x : Link) : Prop := x.state = .detached → x.source = none ∧ x.target = none

namespace Broker

variable {b : Broker} {l : LinkId} {x : Link}

/-- Handing a link another receiver changes nothing else. -/
theorem link?_setReceiver (b : Broker) (k l : LinkId) (next : Option Receiver) :
    (b.setReceiver k next).link? l = b.link? l ∨
      ∃ x receiver, b.link? l = some x ∧ (b.setReceiver k next).link? l = some { x with receiver } := by
  cases hk : b.link? k with
  | none =>
    left
    unfold setReceiver
    rw [hk]
  | some y =>
    have h := (Turns.start hk).setReceiver next
    by_cases hl : l = k
    · subst hl
      exact .inr ⟨y, _, hk, h.link?⟩
    · exact .inl (h.other hl)

/-- A detached link is attached only where nobody asks for its state or for its target. -/
theorem unguarded_of_ok (detached : x.state = .detached) (bare : x.target = none) {how : Attaching} {a : Attach}
    (result : b.attachResult l x a how = .ok ()) : how = .establish ∨ how = .reattach := by
  cases how with
  | establish => exact .inl rfl
  | reattach => exact .inr rfl
  | plain => simp [attachResult, attach, detached] at result
  | resume =>
    have result : (b.resume l x a).2 = .ok () := result
    unfold resume at result
    by_cases hc : a.target == some .coordinator <;> simp [hc, bare, failAttach] at result
  | recover => simp [attachResult, recover, bare, failAttach] at result

theorem detachOutcome_eq_suspended {session : Session} {d : Option Detach} (bare : x.target = none) :
    detachOutcome session x d = .suspended ↔ ∃ d', d = some d' ∧ d'.closed = false ∧ d'.error = none ∧
      x.settings.resumeSupported = true ∧ session.closing = false := by
  unfold detachOutcome
  rw [bare, Option.bind_none, expires]
  cases d with
  | none => cases session.closing <;> simp
  | some d =>
    obtain ⟨closed, error⟩ := d
    cases session.closing <;> cases closed <;> cases error <;> simp

end Broker

namespace Step

variable {s : Step} {l : LinkId} {x : Link} {state : LinkState}

theorem revives_attach_iff (found : s.before.broker.link? l = some x) {how : Attaching} {a : Attach}
    (event : s.event = .attach l how a) : s.Revives l state ↔ state = .attached ∧
      (how = .establish ∨ how = .reattach) ∧ s.before.broker.attachResult l x a how = .ok () := by
  constructor
  · intro h
    cases h with
    | attached event' found' unguarded result =>
      cases event.symm.trans event'
      cases found.symm.trans found'
      exact ⟨rfl, unguarded, result⟩
    | suspended event' => cases event.symm.trans event'
  · rintro ⟨rfl, unguarded, result⟩
    exact .attached event found unguarded result

theorem revives_detach_iff (found : s.before.broker.link? l = some x) (bare : x.target = none) {d : Option Detach}
    (event : s.event = .detach l d) : s.Revives l state ↔ state = .unattached ∧
      detachOutcome s.before.broker.session x d = .suspended := by
  rw [detachOutcome_eq_suspended bare]
  constructor
  · intro h
    cases h with
    | attached event' => cases event.symm.trans event'
    | suspended event' found' kept flawless resumable lasting =>
      cases event.symm.trans event'
      cases found.symm.trans found'
      exact ⟨rfl, _, rfl, kept, flawless, resumable, lasting⟩
  · rintro ⟨rfl, d', rfl, kept, flawless, resumable, lasting⟩
    exact .suspended event found kept flawless resumable lasting

end Step

namespace Step.Leaves

variable {s : Step} {l : LinkId} {x y : Link} (h : s.Leaves l x y)

include h

theorem name : y.name = x.name := by
  cases h with
  | failed event result name => exact name
  | _ => rfl

theorem bare (before : x.Bare) : y.Bare := by
  intro detached
  cases h with
  | rested apart => exact before detached
  | spurned event busy => exact before detached
  | attached => cases detached
  | suspended => cases detached
  | _ => exact ⟨rfl, rfl⟩

/-- **A step takes a detached link up again just if it is one of those that do.** -/
theorem revives_iff (found : s.before.broker.link? l = some x) (detached : x.state = .detached) (bare : x.Bare)
    {state : LinkState} (other : state ≠ .detached) : y.state = state ↔ s.Revives l state := by
  obtain ⟨-, untargeted⟩ := bare detached
  have stays : y.state = .detached → ¬ s.Revives l state → (y.state = state ↔ s.Revives l state) :=
    fun still none => iff_of_false (fun h => other (h.symm.trans still)) none
  cases h with
  | rested apart =>
    refine stays detached (not_revives (fun how a event => ?_) (fun d event => ?_) state) <;>
      simp [event, Event.turns] at apart
  | spurned event busy => exact stays detached (by simp [revives_attach_iff found event])
  | failed event result name => exact stays rfl (by simp [revives_attach_iff found event, result])
  | attached event result =>
    have unguarded := unguarded_of_ok detached untargeted result
    rw [revives_attach_iff found event]
    exact ⟨fun h => ⟨h.symm, unguarded, result⟩, fun h => h.1.symm⟩
  | detached event outcome => exact stays rfl (by simp [revives_detach_iff found untargeted event, outcome])
  | suspended event outcome =>
    rw [revives_detach_iff found untargeted event]
    exact ⟨fun h => ⟨h.symm, outcome⟩, fun h => h.1.symm⟩
  | destroyed event => exact stays rfl (not_revives (by simp [event]) (by simp [event]) state)

end Step.Leaves

/-! ## Courses -/

/-- Only links that are attached, or could be, have termini. -/
theorem bare_of_course {settings : HostSettings} {store : Store} {principal : Principal} {past : List Step} {w : World}
    (course : Course (.new settings store principal) past w) {l : LinkId} {x : Link}
    (found : w.broker.link? l = some x) : x.Bare := by
  induction course generalizing x with
  | start => cases found
  | @event past w course e ih =>
    cases hl : w.broker.link? l with
    | none =>
      intro detached
      rw [(w.made_take e hl found).1] at detached
      cases detached
    | some y =>
      obtain ⟨y', hy', leaves, -⟩ := w.leaves_take e hl
      rw [found] at hy'
      cases hy'
      exact leaves.bare (ih hl)
  | @handed past w course k r ih =>
    have found : (w.broker.setReceiver k r).link? l = some x := found
    rcases w.broker.link?_setReceiver k l r with h | ⟨y, receiver, hy, h⟩
    · exact ih (h.symm.trans found)
    · rw [h] at found
      cases found
      have hbare : y.Bare := ih hy
      exact hbare

/-- **A detached link refuses a delivery**, of which nothing is left but a notice. -/
theorem World.refused_take {w : World} {l : LinkId} {x : Link} (found : w.broker.link? l = some x)
    (detached : x.state = .detached) (d : Delivery) :
    (w.take (.deliver l d)).answer = .delivered (.error (.notAttached x.name .detached)) ∧
      (w.take (.deliver l d)).after =
        { w with broker := w.broker.note (.deliveryRefused x.name LinkState.detached.name) } := by
  have h : w.broker.receive l x d = (w.broker.note (.deliveryRefused x.name LinkState.detached.name),
      .error (.notAttached x.name .detached)) := by
    simp [receive, ensureAttached, detached]
  simp [take, step, found, h]

/-- **A detached link is never attached by chance.**  In every course of events from the beginning, whatever links,
settings and sessions there are: a detached link has no termini, and each event leaves it detached unless it is an
attach as a new link or as one attached already that goes through, or a detach neither closing nor with an error while
links can be resumed and the session is not closing; these take it up again.  As long as none of them occurs it stays
detached, and each delivery on it is refused and leaves everything as it is but for a notice. -/
theorem retired_of_course {settings : HostSettings} {store : Store} {principal : Principal} {past : List Step}
    {w : World} (course : Course (.new settings store principal) past w) {l : LinkId} {x : Link}
    (found : w.broker.link? l = some x) (detached : x.state = .detached) :
    x.source = none ∧ x.target = none ∧
      (∀ e, ∃ y, (w.take e).after.broker.link? l = some y ∧
        ∀ state, state ≠ .detached → (y.state = state ↔ (w.take e).Revives l state)) ∧
      ∀ past' w', Course w past' w' → (∀ s ∈ past', ∀ state, ¬ s.Revives l state) →
        (∃ y, w'.broker.link? l = some y ∧ y.state = .detached) ∧
          ∀ s ∈ past', ∀ d, s.event = .deliver l d →
            s.answer = .delivered (.error (.notAttached x.name .detached)) ∧
              s.after =
                { s.before with broker := s.before.broker.note (.deliveryRefused x.name LinkState.detached.name) } := by
  have bare := bare_of_course course found
  obtain ⟨unsourced, untargeted⟩ := bare detached
  refine ⟨unsourced, untargeted, fun e => ?_, fun past' w' course' quiet => ?_⟩
  · obtain ⟨y, hy, leaves, -⟩ := w.leaves_take e found
    exact ⟨y, hy, fun state other => leaves.revives_iff found detached bare other⟩
  -- the link keeps its name, and is bare as long as it is detached
  obtain ⟨⟨y, hy, still, -⟩, refused⟩ : (∃ y, w'.broker.link? l = some y ∧ y.state = .detached ∧ y.Bare ∧ y.name = x.name) ∧
      ∀ s ∈ past', ∀ d, s.event = .deliver l d →
        s.answer = .delivered (.error (.notAttached x.name .detached)) ∧ s.after =
          { s.before with broker := s.before.broker.note (.deliveryRefused x.name LinkState.detached.name) } := by
    induction course' with
    | start => exact ⟨⟨x, found, detached, bare, rfl⟩, fun _ hs => by cases hs⟩
    | @event past' v course' e ih =>
      rw [List.forall_mem_append, List.forall_mem_singleton] at quiet ⊢
      obtain ⟨⟨y, hy, still, bare', name⟩, refused⟩ := ih quiet.1
      obtain ⟨z, hz, leaves, -⟩ := v.leaves_take e hy
      refine ⟨⟨z, hz, ?_, leaves.bare bare', leaves.name.trans name⟩, refused, fun d event => ?_⟩
      · by_cases revived : z.state = .detached
        · exact revived
        · exact absurd ((leaves.revives_iff hy still bare' revived).1 rfl) (quiet.2 z.state)
      · cases event
        rw [← name]
        exact World.refused_take hy still d
    | @handed past' v course' k r ih =>
      obtain ⟨⟨y, hy, still, bare', name⟩, refused⟩ := ih quiet
      refine ⟨?_, refused⟩
      rcases v.broker.link?_setReceiver k l r with h | ⟨y', receiver, hy', h⟩
      · exact ⟨y, h.trans hy, still, bare', name⟩
      · rw [hy] at hy'
        cases hy'
        exact ⟨_, h, still, bare', name⟩
  exact ⟨⟨y, hy, still⟩, refused⟩

/-- A link that can be resumed is attached to a queue, and destroyed. -/
def retiring : List Event :=
  [.administer (.createQueue { name := "orders" }),
    .link "in" { resumeSupported := true } [0] true,
    .attach 0 .plain { target := some (.node { address := some "orders" }) },
    .destroy 0]

/-- Neither an attach nor a delivery after that does anything with it. -/
theorem retired_retiring :
    let w := (World.new {} ⟨true, ∅, []⟩ {}).after retiring
    let es : List Event := [.attach 0 .plain { target := some (.node { address := some "orders" }) },
      .deliver 0 (parcel 1 0 none none)]
    (∃ y, (w.after es).broker.link? 0 = some y ∧ y.state = .detached) ∧
      ∀ s ∈ w.history es, ∀ d, s.event = .deliver 0 d → s.answer = .delivered (.error (.notAttached "in" .detached)) := by
  intro w es
  have found : (w.broker.link? 0).map (fun x => (x.name, x.state)) = some ("in", .detached) := by decide +kernel
  obtain ⟨x, hx, heq⟩ := Option.map_eq_some_iff.1 found
  obtain ⟨name, detached⟩ := Prod.mk.inj heq
  have quiet : ∀ s ∈ w.history es, ∀ state, ¬ s.Revives 0 state := by
    intro s hs
    have hevent := World.event_of_history hs
    refine Step.not_revives (fun how a event => ?_) fun d event => ?_
    · rw [event] at hevent
      simp only [es, List.mem_cons, List.not_mem_nil, Event.attach.injEq, reduceCtorEq, or_false] at hevent
      exact hevent.2.1
    · simp [es, event] at hevent
  obtain ⟨-, -, -, later⟩ := retired_of_course (course_of_run _ retiring) hx detached
  obtain ⟨still, refused⟩ := later _ _ (course_of_run w es) quiet
  refine ⟨still, fun s hs d event => ?_⟩
  rw [(refused s hs d event).1, name]

/-- Detached is not for ever: once destroyed, the link is made one to be resumed by a detach, and attached by an attach
as a new link, after which it takes a delivery. -/
theorem detached_revived :
    let w := (World.new {} ⟨true, ∅, []⟩ {}).after retiring
    let established := (w.take
      (.attach 0 .establish { target := some (.node { address := some "orders" }) })).after
    (w.broker.link? 0).map (·.state) = some .detached ∧
      ((w.take (.detach 0 (some {}))).after.broker.link? 0).map (·.state) = some .unattached ∧
      (established.broker.link? 0).map (·.state) = some .attached ∧
      (established.take (.deliver 0 (parcel 1 0 none none))).takes 0 [1] = true := by
  decide +kernel

end MessageBroker
