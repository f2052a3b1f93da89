import MessageBroker.Proofs.Broker.Termini
import MessageBroker.Proofs.Broker.Works
import MessageBroker.Proofs.Run.Marks
/-!
# What an event makes of one link

Only attaching a link, detaching it and destroying it make another thing of it.  Everything else leaves it as it is, but
for its unsettled deliveries and the credit of its sender (`World.rests_take`).  Receivers are told apart by numbers, and
in a run no link ever has one whose number is still to be given (`numbered_of_run`).
-/
namespace MessageBroker

/-- Whether an event attaches a link, or ends it. -/
def Event.turns (l : LinkId) : Event → Bool
  | .attach k .. | .detach k _ | .destroy k => k == l
  | _ => false

/-- The link that an event makes. -/
def Event.made? : Event → Option Link
  | .link name settings formats receiverOpen => some (.new name settings formats receiverOpen)
  | _ => none

namespace Broker

variable {b b' b'' : Broker} {l : LinkId}

/-- A link is as it was, but for unsettled deliveries and credit. -/
structure Rests (l : LinkId) (b b' : Broker) : Prop where
  link : ∀ x, b.link? l = some x → ∃ unsettled credit, b'.link? l = some { x with unsettled, credit }
  /-- Credit is granted to the senders of attached links only. -/
  idle : ∀ x y, b.link? l = some x → b'.link? l = some y → x.state ≠ .attached → y.credit = x.credit
  receivers : b.receivers ≤ b'.receivers

theorem Rests.of_kept (h : b'.link? l = b.link? l) (receivers : b.receivers ≤ b'.receivers) : Rests l b b' := by
  refine ⟨fun x hx => ⟨x.unsettled, x.credit, h.trans hx⟩, fun x y hx hy _ => ?_, receivers⟩
  rw [h, hx] at hy
  cases hy
  rfl

theorem Rests.refl (l : LinkId) (b : Broker) : Rests l b b := .of_kept rfl (Nat.le_refl _)

theorem Rests.trans (h : Rests l b b') (h' : Rests l b' b'') : Rests l b b'' := by
  refine ⟨fun x hx => ?_, fun x z hx hz state => ?_, Nat.le_trans h.receivers h'.receivers⟩
  · obtain ⟨u, c, hx'⟩ := h.link x hx
    obtain ⟨u', c', hx''⟩ := h'.link _ hx'
    exact ⟨u', c', hx''⟩
  · obtain ⟨u, c, hx'⟩ := h.link x hx
    exact (h'.idle _ z hx' hz state).trans (h.idle x _ hx hx' state)

theorem Skips.rests (h : Skips b b') (l : LinkId) : Rests l b b' := by
  refine .of_kept ?_ h.receivers
  unfold link?
  rw [h.links]

theorem Turns.rests {k : LinkId} {x : Link} (h : Turns b k x b') (hk : l ≠ k) : Rests l b b' :=
  .of_kept (h.other hk) h.receivers

/-- A change of some link that is one of its unsettled deliveries or of its credit. -/
theorem rests_modifyLink (b : Broker) (l k : LinkId) {f : Link → Link}
    (hf : ∀ x, ∃ unsettled credit, f x = { x with unsettled, credit })
    (idle : ∀ x, b.link? k = some x → x.state ≠ .attached → (f x).credit = x.credit) : Rests l b (b.modifyLink k f) := by
  by_cases hk : k = l
  · subst hk
    refine ⟨fun x hx => ?_, fun x y hx hy state => ?_, Nat.le_refl _⟩
    · obtain ⟨u, c, hfx⟩ := hf x
      exact ⟨u, c, by rw [((Turns.start hx).modify f).link?, hfx]⟩
    · rw [((Turns.start hx).modify f).link?] at hy
      cases hy
      exact idle x hx state
  · refine .of_kept ?_ (Nat.le_refl _)
    unfold link? modifyLink
    simp [hk]

theorem workSteps_rests (l : LinkId) : WorkSteps (Rests l) where
  refl := .refl l
  trans := .trans
  books := fun _ _ _ _ _ _ _ _ => .of_kept rfl (Nat.le_refl _)
  place := fun b q entry => by
    unfold place
    split <;> exact .of_kept rfl (Nat.le_refl _)
  unsettled := fun b k f => rests_modifyLink b l k (fun x => ⟨f x.unsettled, x.credit, rfl⟩) fun _ _ _ => rfl

theorem rests_start {link : Link} {k : LinkId} (found : b.link? k = some link) (l : LinkId) :
    Rests l b (b.start k link).1 := by
  unfold start ensureAttached
  by_cases h : link.state = .attached
  · simp only [if_pos h]
    refine .trans (rests_modifyLink b l k (fun x => ⟨x.unsettled, _, rfl⟩) fun x hx state => ?_) ((skips_note _ _).rests l)
    rw [found] at hx
    cases hx
    exact absurd h state
  · simp only [if_neg h]
    exact (skips_note b _).rests l

theorem rests_receiveDisposition (b : Broker) (l k : LinkId) (link : Link) (tag : DeliveryTag) (settled : Bool) :
    Rests l b (b.receiveDisposition k link tag settled) := by
  unfold receiveDisposition
  split
  · exact .trans (rests_modifyLink b l k (fun x => ⟨x.unsettled.remove tag, x.credit, rfl⟩) fun _ _ _ => rfl)
      ((skips_note _ _).rests l)
  · exact .refl l b

theorem linkSteps_length : LinkSteps fun b b' => b'.links.length = b.links.length where
  refl := fun _ => rfl
  trans := fun h h' => h'.trans h
  administered := fun h => congrArg List.length h.links
  modifyLink := fun _ _ _ _ _ => List.length_modify ..
  receivers := fun _ _ => rfl
  dynamicNodes := fun _ _ => rfl
  links := fun _ _ _ _ _ => rfl

theorem workSteps_length : WorkSteps fun b b' => b'.links.length = b.links.length where
  refl := fun _ => rfl
  trans := fun h h' => h'.trans h
  books := fun _ _ _ _ _ _ _ _ => rfl
  place := fun b q entry => by
    unfold place
    split <;> rfl
  unsettled := fun _ _ _ => List.length_modify ..

/-- **An attach of any kind** is turned away at once, or ends as an attach does. -/
theorem attachEnds_attachAs {x : Link} (hl : b.link? l = some x) (how : Attaching) (a : Attach) :
    (how = .plain ∧ x.state ≠ .unattached ∧ b.attachAs l x a how = b ∧
      b.attachResult l x a how = .error (.illegalState (.cannotAttach x.name x.state))) ∨
    ∃ source, AttachEnds b l x source a (b.attachAs l x a how, b.attachResult l x a how) := by
  cases how with
  | establish => exact .inr ⟨_, attachEnds_establish hl a⟩
  | resume => exact .inr ⟨_, attachEnds_resume hl a⟩
  | reattach => exact .inr ⟨_, attachEnds_reattach hl a⟩
  | recover => exact .inr ⟨_, attachEnds_recover hl a⟩
  | plain =>
    by_cases hx : x.state = .unattached
    · exact .inr (attachEnds_attach hl a hx)
    · refine .inl ⟨rfl, hx, ?_, ?_⟩ <;> simp [attachAs, attachResult, attach, hx]

theorem rests_attachAs {k : LinkId} {x : Link} (hk : b.link? k = some x) (how : Attaching) (a : Attach) (hl : l ≠ k) :
    Rests l b (b.attachAs k x a how) := by
  rcases attachEnds_attachAs hk how a with ⟨-, -, h, -⟩ | ⟨source, h⟩
  · rw [h]
    exact .refl l b
  · obtain ⟨y, turns⟩ := h.turns
    exact turns.rests hl

theorem rests_withLink {f : Link → Broker} (k : LinkId) (h : ∀ x, b.link? k = some x → Rests l b (f x)) :
    Rests l b (b.withLink k f) := by
  unfold withLink
  split
  · exact .refl l b
  · exact h _ ‹_›

end Broker

open Broker

namespace World

/-- An attach of a link that is there. -/
theorem take_attach {w : World} {l : LinkId} {x : Link} (hl : w.broker.link? l = some x) (how : Attaching) (a : Attach) :
    (w.take (.attach l how a)).after.broker = w.broker.attachAs l x a how := by
  simp [take, step, withLink, hl]

/-- A link that is not there can be neither attached nor ended. -/
theorem take_missing (w : World) {e : Event} {l : LinkId} (hl : w.broker.link? l = none) (turns : e.turns l = true) :
    (w.take e).after.broker = w.broker := by
  cases e with
  | attach k how a =>
    obtain rfl := beq_iff_eq.1 turns
    simp [take, step, withLink, hl]
  | detach k d =>
    obtain rfl := beq_iff_eq.1 turns
    simp [take, step, detach, hl]
  | destroy k =>
    obtain rfl := beq_iff_eq.1 turns
    simp [take, step, destroy, teardown, hl]
  | _ => cases turns

end World

/-- **All other events leave a link as it is.** -/
theorem World.rests_take (w : World) {e : Event} {l : LinkId} (apart : e.turns l = false) :
    Rests l w.broker (w.take e).after.broker := by
  cases e with
  | administer q => exact (administered_administer w.broker q).skips.rests l
  | pop q =>
    refine Skips.rests ?_ l
    unfold take step pop
    simp only
    split <;> exact ⟨rfl, Nat.le_refl _⟩
  | failStore failing => exact .of_kept rfl (Nat.le_refl _)
  | session s => exact .of_kept rfl (Nat.le_refl _)
  | link name settings formats receiverOpen =>
    have hkept : ∀ x, w.broker.link? l = some x →
        (w.take (.link name settings formats receiverOpen)).after.broker.link? l = some x := fun x hx =>
      (List.getElem?_append_left (List.getElem?_eq_some_iff.1 hx).1).trans hx
    refine ⟨fun x hx => ⟨x.unsettled, x.credit, hkept x hx⟩, fun x y hx hy _ => ?_, Nat.le_refl _⟩
    rw [hkept x hx] at hy
    cases hy
    rfl
  | attach k how a =>
    have hk : l ≠ k := Ne.symm (beq_eq_false_iff_ne.1 apart)
    exact rests_withLink k fun x hx => rests_attachAs hx how a hk
  | start k => exact rests_withLink k fun x hx => rests_start hx l
  | disposition k tag settled => exact rests_withLink k fun x _ => rests_receiveDisposition w.broker l k x tag settled
  | detach k d =>
    have hk : l ≠ k := Ne.symm (beq_eq_false_iff_ne.1 apart)
    cases hx : w.broker.link? k with
    | none =>
      rw [w.take_missing (e := .detach k d) hx (beq_self_eq_true k)]
      exact .refl l w.broker
    | some x => exact (turns_detach hx d).1.rests hk
  | destroy k =>
    have hk : l ≠ k := Ne.symm (beq_eq_false_iff_ne.1 apart)
    cases hx : w.broker.link? k with
    | none =>
      rw [w.take_missing (e := .destroy k) hx (beq_self_eq_true k)]
      exact .refl l w.broker
    | some x => exact ((Turns.start hx).teardown .destroyed).rests hk
  | _ => exact (workSteps_rests l).take w rfl

theorem World.rests_after {l : LinkId} : ∀ (es : List Event) (w : World), (∀ e ∈ es, e.turns l = false) →
    Rests l w.broker (w.after es).broker
  | [], w, _ => .refl l w.broker
  | e :: es, w, apart =>
    (w.rests_take (apart e List.mem_cons_self)).trans
      (rests_after es (w.take e).after fun e' he => apart e' (List.mem_cons_of_mem e he))

/-- **What becomes of a link in a step**: `x` is what it was before. -/
inductive Step.Leaves (s : Step) (l : LinkId) (x : Link) : Link → Prop where
  | rested {unsettled : Unsettled} {credit : Nat} (apart : s.event.turns l = false)
      (idle : x.state ≠ .attached → credit = x.credit) : Leaves s l x { x with unsettled, credit }
  | spurned {a : Attach} (event : s.event = .attach l .plain a) (busy : x.state ≠ .unattached) : Leaves s l x x
  | failed {how : Attaching} {a : Attach} {e : LinkError} {z : Link} (event : s.event = .attach l how a)
      (result : s.before.broker.attachResult l x a how = .error e) (name : z.name = x.name) : Leaves s l x z.ended
  | attached {how : Attaching} {a : Attach} {source : Option Source} {own : Option String} {unsettled : Unsettled}
      {target final : Target} {r : Receiver} (event : s.event = .attach l how a)
      (result : s.before.broker.attachResult l x a how = .ok ()) (asked : attachTarget x a = .ok target)
      (fresh : s.before.broker.receivers ≤ r.serial) (counted : r.serial < s.after.broker.receivers)
      (fits : Fits s.after.broker.registry x.settings own target r final) :
      Leaves s l x { ({ x.asked source a with dynamicNode := own }).granted target final r with unsettled }
  | detached {d : Option Detach} (event : s.event = .detach l d)
      (outcome : detachOutcome s.before.broker.session x d ≠ .suspended) : Leaves s l x x.ended
  | suspended {d : Option Detach} (event : s.event = .detach l d)
      (outcome : detachOutcome s.before.broker.session x d = .suspended) : Leaves s l x x.suspended
  | destroyed (event : s.event = .destroy l) : Leaves s l x x.ended

/-- What is left of a link by an attach that goes through. -/
theorem Step.Leaves.of_ok {s : Step} {l : LinkId} {x y : Link} (h : s.Leaves l x y) {how : Attaching} {a : Attach}
    (event : s.event = .attach l how a) (result : s.before.broker.attachResult l x a how = .ok ()) :
    ∃ source own unsettled target final r, attachTarget x a = .ok target ∧ s.before.broker.receivers ≤ r.serial ∧
      Fits s.after.broker.registry x.settings own target r final ∧
      y = { ({ x.asked source a with dynamicNode := own }).granted target final r with unsettled } := by
  cases h with
  | rested apart => simp [event, Event.turns] at apart
  | spurned event' busy =>
    cases event.symm.trans event'
    simp [attachResult, attach, busy] at result
  | failed event' result' =>
    cases event.symm.trans event'
    cases result.symm.trans result'
  | @attached _ _ source own unsettled target final r event' _ asked fresh _ fits =>
    cases event.symm.trans event'
    exact ⟨source, own, unsettled, target, final, r, asked, fresh, fits, rfl⟩
  | detached event' => cases event.symm.trans event'
  | suspended event' => cases event.symm.trans event'
  | destroyed event' => cases event.symm.trans event'

namespace World

/-- **Every link is left by every step**, and so. -/
theorem leaves_take (w : World) (e : Event) {l : LinkId} {x : Link} (hl : w.broker.link? l = some x) :
    ∃ y, (w.take e).after.broker.link? l = some y ∧ (w.take e).Leaves l x y ∧
      w.broker.receivers ≤ (w.take e).after.broker.receivers := by
  cases apart : e.turns l with
  | false =>
    have h := w.rests_take apart
    obtain ⟨u, c, hy⟩ := h.link x hl
    exact ⟨_, hy, .rested apart (h.idle x _ hl hy), h.receivers⟩
  | true =>
    cases e with
    | attach k how a =>
      obtain rfl := beq_iff_eq.1 apart
      have hafter := take_attach hl how a
      rcases attachEnds_attachAs hl how a with ⟨rfl, busy, h, -⟩ | ⟨source, h⟩
      · rw [hafter, h]
        exact ⟨x, hl, .spurned rfl busy, Nat.le_refl _⟩
      · generalize w.broker.attachAs k x a how = b' at hafter h
        generalize hr : w.broker.attachResult k x a how = result at h
        subst hafter
        cases h with
        | failed turns name => exact ⟨_, turns.link?, .failed rfl hr name, turns.receivers⟩
        | attached asked fresh counted fits turns =>
          exact ⟨_, turns.link?, .attached rfl hr asked fresh counted fits, turns.receivers⟩
    | detach k d =>
      obtain rfl := beq_iff_eq.1 apart
      obtain ⟨h, -⟩ := turns_detach hl d
      refine ⟨_, h.link?, ?_, h.receivers⟩
      split
      · exact .suspended rfl ‹_›
      · exact .detached rfl ‹_›
    | destroy k =>
      obtain rfl := beq_iff_eq.1 apart
      have h := (Turns.start hl).teardown .destroyed
      exact ⟨_, h.link?, .destroyed rfl, h.receivers⟩
    | _ => cases apart

/-- No other event makes a link. -/
theorem length_links_take (w : World) {e : Event} (old : e.made? = none) :
    (w.take e).after.broker.links.length = w.broker.links.length := by
  cases e with
  | administer q => exact linkSteps_length.administer w.broker q
  | pop q =>
    unfold take step pop
    simp only
    split <;> rfl
  | failStore failing => rfl
  | session s => rfl
  | link name settings formats receiverOpen => cases old
  | attach l how a =>
    exact linkSteps_length.withLink (fun link => linkSteps_length.attachAs w.broker l link a how) l
  | start l => exact linkSteps_length.withLink (fun link => linkSteps_length.start w.broker l link) l
  | disposition l tag settled =>
    exact linkSteps_length.withLink (fun link => linkSteps_length.receiveDisposition w.broker l link tag settled) l
  | detach l d => exact linkSteps_length.detach w.broker l d
  | destroy l => exact linkSteps_length.teardown w.broker l .destroyed
  | _ => exact workSteps_length.take w rfl

/-- **A link that was not there before is one that the event made.** -/
theorem made_eq (w : World) (e : Event) {l : LinkId} {y : Link} (hl : w.broker.link? l = none)
    (hy : (w.take e).after.broker.link? l = some y) : e.made? = some y := by
  have hge := List.getElem?_eq_none_iff.1 hl
  cases hmade : e.made? with
  | none =>
    have hlt := (List.getElem?_eq_some_iff.1 hy).1
    rw [w.length_links_take hmade] at hlt
    exact absurd hlt (Nat.not_lt.2 hge)
  | some x =>
    cases e with
    | link name settings formats receiverOpen =>
      have hy : (w.broker.links ++ [Link.new name settings formats receiverOpen])[l]? = some y := hy
      rw [List.getElem?_append_right hge] at hy
      rw [← hmade, List.mem_singleton.1 (List.mem_of_getElem? hy)]
      rfl
    | _ => cases hmade

theorem made_take (w : World) (e : Event) {l : LinkId} {y : Link} (hl : w.broker.link? l = none)
    (hy : (w.take e).after.broker.link? l = some y) : y.state = .unattached ∧ y.receiver = none := by
  have hmade := w.made_eq e hl hy
  cases e with
  | link name settings formats receiverOpen =>
    cases hmade
    exact ⟨rfl, rfl⟩
  | _ => cases hmade

end World

/-! ## Numbers of receivers -/

/-- No link has a receiver whose number is still to be given. -/
def Broker.Numbered (b : Broker) : Prop :=
  ∀ l x r, b.link? l = some x → x.receiver = some r → r.serial < b.receivers

/-- A receiver that is made later is another one than any that a link has. -/
theorem Broker.Numbered.other {b : Broker} (h : b.Numbered) {l : LinkId} {x : Link} (hx : b.link? l = some x)
    {r : Receiver} (fresh : b.receivers ≤ r.serial) : sameReceiver x.receiver (some r) = false := by
  cases hr : x.receiver with
  | none => rfl
  | some old => exact beq_eq_false_iff_ne.2 (Nat.ne_of_lt (Nat.lt_of_lt_of_le (h l x old hx hr) fresh))

theorem Step.Leaves.numbered {s : Step} {l : LinkId} {x y : Link} (h : s.Leaves l x y)
    (before : ∀ r, x.receiver = some r → r.serial < s.before.broker.receivers)
    (counted : s.before.broker.receivers ≤ s.after.broker.receivers) {r : Receiver} (hr : y.receiver = some r) :
    r.serial < s.after.broker.receivers := by
  have hkept : x.receiver = some r → r.serial < s.after.broker.receivers := fun hr =>
    Nat.lt_of_lt_of_le (before r hr) counted
  cases h with
  | rested => exact hkept hr
  | spurned => exact hkept hr
  | @attached how a source own unsettled target final r' event result asked fresh counted fits =>
    have hr : (if sameReceiver x.receiver (some r') then x.receiver else some r') = some r := hr
    by_cases same : sameReceiver x.receiver (some r') = true
    · rw [if_pos same] at hr
      exact hkept hr
    · rw [if_neg same] at hr
      cases hr
      exact counted
  | failed => cases hr
  | detached => cases hr
  | suspended => cases hr
  | destroyed => cases hr

theorem World.numbered_take (w : World) (e : Event) (h : w.broker.Numbered) : (w.take e).after.broker.Numbered := by
  intro l y r hy hr
  cases hl : w.broker.link? l with
  | none =>
    rw [(w.made_take e hl hy).2] at hr
    cases hr
  | some x =>
    obtain ⟨y', hy', leaves, counted⟩ := w.leaves_take e hl
    rw [hy] at hy'
    cases hy'
    exact leaves.numbered (fun r hr => h l x r hl hr) counted hr

theorem numbered_of_run (settings : HostSettings) (store : Store) (principal : Principal) (es : List Event) :
    ((World.new settings store principal).after es).broker.Numbered := by
  refine World.history_induction (P := fun _ w => w.broker.Numbered) (fun _ w e h => w.numbered_take e h) es [] _ ?_
  intro l x r hx
  cases hx

end MessageBroker
