import MessageBroker.Proofs.Broker.Recovering
import MessageBroker.Proofs.Run.Tags
import MessageBroker.Proofs.Run.Turns
/-!
# Links that are suspended and recovered

A link that was attached, is suspended by a detach and then attached again without termini of its own has the target and
the capabilities that it had, and its messages go where they went, as long as addresses mean what they meant
(`recovered_of_run`).  What is lost is only that a relay was asked to discard what no queue takes (`relay_recovered`).
-/
namespace MessageBroker

open Broker

namespace Broker

/-- **Publishing, transactions and deliveries change the meaning of no address.** -/
theorem workSteps_guides : WorkSteps fun b b' => b.registry.Guides b'.registry := by
  refine workSteps_registry (fun r => (Registry.Serves.refl r).guides) .trans fun r d f => ?_
  refine Registry.guides_modify (fun x => ?_) fun x => ?_ <;>
    (unfold Destination.mapQueue; split <;> simp_all [Destination.exchange?])

/-- **Nor does a detach that suspends a link.** -/
theorem serves_of_suspended {b : Broker} {l : LinkId} {d : Option Detach} (suspended : (b.detach l d).2 = .suspended) :
    b.registry.Serves (b.detach l d).1.registry := by
  unfold detach at suspended ⊢
  cases hl : b.link? l with
  | none => simp [hl] at suspended
  | some x =>
    simp only [hl] at suspended ⊢
    generalize detachOutcome _ x d = outcome at suspended ⊢
    cases outcome with
    | closed => cases suspended
    | destroyed => cases suspended
    | suspended =>
      simp only [suspend]
      split
      · exact .refl _
      · exact serves_setReceiver (b.modifyLink l fun x => { x with state := .detaching }) l none

/-- **Messages are taken as before** when a link was suspended. -/
theorem alike_of_suspended {b : Broker} {l : LinkId} {d : Option Detach} (suspended : (b.detach l d).2 = .suspended) :
    b.Alike (b.detach l d).1 :=
  .of_serves (serves_of_suspended suspended) (linkSteps_stable.detach b l d) (linkSteps_sameFate.detach b l d)

end Broker

namespace World

/-- **A link that was attached** has the receiver that was found for its target, and the target that was granted. -/
theorem attached_take {w : World} {l : LinkId} {x : Link} {how : Attaching} {a : Attach} (numbered : w.broker.Numbered)
    (found : w.broker.link? l = some x) (attached : w.broker.attachResult l x a how = .ok ()) :
    let after := (w.take (.attach l how a)).after.broker
    ∃ y requested final r, after.link? l = some y ∧ Fits after.registry y.settings y.dynamicNode requested r final ∧
      y.state = .attached ∧ y.receiver = some r ∧ y.target = some (final.granted requested r) ∧
      y.capabilities = grantedCapabilities requested r ∧ y.settleMode = (a.settleMode <|> y.settings.settleMode) := by
  intro after
  obtain ⟨y, hy, leaves, -⟩ := w.leaves_take (.attach l how a) found
  obtain ⟨source, own, unsettled, requested, final, r, -, fresh, fits, rfl⟩ := leaves.of_ok rfl attached
  refine ⟨_, requested, final, r, hy, fits, rfl, ?_, rfl, rfl, rfl⟩
  -- the receiver is new, so it is not the one that the link had
  have hother : sameReceiver x.receiver (some r) = false := numbered.other found fresh
  show (if sameReceiver x.receiver (some r) = true then x.receiver else some r) = some r
  rw [hother]
  rfl

/-- An attach of a suspended link without a target of its own goes by the one that was kept. -/
theorem attach_untargeted {w : World} {l : LinkId} {x : Link} (found : w.broker.link? l = some x)
    (idle : x.state = .unattached) {target : Target} (kept : x.target = some target) {how : Attaching}
    (again : how = .plain ∨ how = .recover ∨ how = .reattach) {a : Attach} (untargeted : a.target = none)
    (unsourced : a.source = none) :
    w.broker.attachResult l x a how = (w.broker.attachReceived l x none a).2 ∧
      (w.take (.attach l how a)).after.broker = (w.broker.attachReceived l x none a).1 := by
  rcases again with rfl | rfl | rfl <;>
    simp [take, step, withLink, found, attachResult, attachAs, attach, recover, reattach, idle, kept, untargeted,
      unsourced]

end World

/-- **How a link is interrupted** that was attached in a run: in `w` it has just been attached, and in `w'` it is about to
be suspended; in `w''` it is still suspended, and addresses mean what they meant in `w`. -/
structure Interruption (settings : HostSettings) (store : Store) (principal : Principal) (l : LinkId) (a : Attach)
    (w w' w'' : World) : Prop where
  attached : ∃ es how x, ((World.new settings store principal).after es).broker.link? l = some x ∧
    ((World.new settings store principal).after es).broker.attachResult l x a how = .ok () ∧
    w = (((World.new settings store principal).after es).take (.attach l how a)).after
  used : ∃ es, (∀ e ∈ es, e.turns l = false) ∧ w' = w.after es
  suspended : ∃ d es, (w'.broker.detach l d).2 = .suspended ∧ (∀ e ∈ es, e.turns l = false) ∧
    w'' = (w'.take (.detach l d)).after.after es
  guides : w.broker.registry.Guides w''.broker.registry

/-- **A suspended link is recovered as it was.**  Whatever a link was attached to in a run, and however: once it was
suspended by a detach, an attach without source and target and with the same settle mode goes through, while addresses
mean what they meant when the link was attached.  Then the link has the termini, the capabilities and the node that it
had before the detach, and the same receiver but for its number.  The attach itself changes nothing about how messages
are taken, and in brokers that take them alike every message is routed to the same queues and comes to the same outcome
as before, unless a relay discarded it.  Such a message was accepted before, and is rejected afterwards. -/
theorem recovered_of_run {settings : HostSettings} {store : Store} {principal : Principal} {l : LinkId} {a : Attach}
    {w w' w'' : World} (interruption : Interruption settings store principal l a w w' w'') {how : Attaching}
    {a' : Attach} (again : how = .plain ∨ how = .recover ∨ how = .reattach) (untargeted : a'.target = none)
    (unsourced : a'.source = none) (mode : a'.settleMode = a.settleMode) :
    ∃ x y r serial unsettled credit, w'.broker.link? l = some x ∧ x.state = .attached ∧ x.receiver = some r ∧
      w''.broker.link? l = some y ∧ w''.broker.attachResult l y a' how = .ok () ∧
      (w''.take (.attach l how a')).after.broker.link? l =
        some { x with receiver := some (r.recovered serial), unsettled, credit } ∧
      w''.broker.Alike (w''.take (.attach l how a')).after.broker ∧
      ∀ b b' : Broker, b.Alike b' → ∀ message,
        b'.entriesFor (r.recovered serial) message = b.entriesFor r message ∧
        ∀ source t,
          (¬ b.Wasted r message →
            (b'.outcomeOf source (r.recovered serial) message t).2 = (b.outcomeOf source r message t).2) ∧
          (b.Wasted r message → (b.outcomeOf source r message t).2 = .ok .accepted ∧
            (b'.outcomeOf source (r.recovered serial) message t).2 =
              .ok (.rejected (some (.unknownDestination (message.address.getD ""))))) := by
  obtain ⟨⟨es, how₀, x₀, found, attached, hw⟩, ⟨es₁, apart₁, hw'⟩, ⟨d, es₂, suspended, apart₂, hw''⟩, guides⟩ :=
    interruption
  have hattached := World.attached_take (numbered_of_run settings store principal es) found attached
  rw [← hw] at hattached
  obtain ⟨x₁, requested, final, r, h₁, fits, hstate, hreceiver, htarget, hcapabilities, hmode⟩ := hattached
  -- until it is suspended the link rests, and so it does afterwards
  have hused : Rests l w.broker w'.broker := hw' ▸ World.rests_after es₁ w apart₁
  have hleft : Rests l (w'.broker.detach l d).1 w''.broker :=
    hw'' ▸ World.rests_after es₂ (w'.take (.detach l d)).after apart₂
  obtain ⟨u, c, h₂⟩ := hused.link x₁ h₁
  obtain ⟨turns, houtcome⟩ := turns_detach h₂ d
  rw [← houtcome, if_pos suspended] at turns
  obtain ⟨u', c', h₄⟩ := hleft.link _ turns.link?
  have hfits := fits.of_guides guides
  obtain ⟨hresult, hafter⟩ := World.attach_untargeted h₄ rfl htarget again untargeted unsourced
  obtain ⟨hok, hserves, u'', hdone⟩ := attachReceived_of_fits h₄ untargeted rfl htarget hfits
  refine ⟨_, _, r, w''.broker.receivers, u'', c', h₂, hstate, hreceiver, h₄, hresult.trans hok, ?_, ?_,
    fun b b' alike m => ?_⟩
  · rw [hafter, hdone, mode]
    dsimp only [Link.suspended]
    rw [← hmode, ← hcapabilities, hstate]
  · rw [hafter]
    exact .of_serves hserves (linkSteps_stable.attachReceived _ l _ none a')
      (linkSteps_sameFate.attachReceived _ l _ none a')
  · refine ⟨alike.entriesFor_recovered r _ m, fun source t => ?_⟩
    exact alike.outcomeOf_recovered r _ m fits.plain source t

/-- An attach to an exchange under a key of its own, by a sender that wants what no queue takes to be discarded. -/
def toBlue : Attach :=
  { target := some (.node
      { address := some "amq.direct/blue", capabilities := some [Target.topic, Target.discardUnroutable] }) }

/-- The link takes a delivery, is suspended, and is the one that it was when it is attached again: every message goes
where it went. -/
theorem recovered_toBlue :
    let w := (World.new {} ⟨true, ∅, []⟩ {}).after
      [.link "in" { resumeSupported := true } [0] true, .attach 0 .plain toBlue]
    let w' := w.after [.deliver 0 (parcel 1 0 none none)]
    let w'' := (w'.take (.detach 0 (some {}))).after
    let w''' := (w''.take (.attach 0 .plain {})).after
    ∃ x y r r', w'.broker.link? 0 = some x ∧ w'''.broker.link? 0 = some y ∧ y.state = .attached ∧
      y.target = x.target ∧ y.capabilities = x.capabilities ∧ x.receiver = some r ∧ y.receiver = some r' ∧
      ∀ message, w'''.broker.entriesFor r' message = w'.broker.entriesFor r message := by
  intro w w' w'' w'''
  let v := (World.new {} ⟨true, ∅, []⟩ {}).after [.link "in" { resumeSupported := true } [0] true]
  have found : ((v.broker.link? 0).map fun x => (v.broker.attachResult 0 x toBlue .plain).isOk) = some true := by
    decide +kernel
  obtain ⟨x₀, hx₀, hok⟩ := Option.map_eq_some_iff.1 found
  have hattached : v.broker.attachResult 0 x₀ toBlue .plain = .ok () := by
    cases hr : v.broker.attachResult 0 x₀ toBlue .plain with
    | ok u => rfl
    | error e =>
      rw [hr] at hok
      cases hok
  have suspended : (w'.broker.detach 0 (some {})).2 = .suspended := by decide +kernel
  have interruption : Interruption {} ⟨true, ∅, []⟩ {} 0 toBlue w w' w'' :=
    { attached := ⟨_, .plain, x₀, hx₀, hattached, rfl⟩
      used := ⟨[.deliver 0 (parcel 1 0 none none)], by simp [Event.turns], rfl⟩
      suspended := ⟨some {}, [], suspended, by simp, rfl⟩
      guides := (workSteps_guides.take w rfl).trans (serves_of_suspended suspended).guides }
  obtain ⟨x, y, r, serial, u, c, hx, attached, receives, -, -, hy, alike, recovered⟩ :=
    recovered_of_run interruption (.inl (Eq.refl Attaching.plain)) (show ({} : Attach).target = none from rfl) rfl rfl
  have halike : w'.broker.Alike w'''.broker := (alike_of_suspended suspended).trans alike
  exact ⟨x, _, r, _, hx, hy, attached, rfl, rfl, receives, rfl, fun message => (recovered _ _ halike message).1⟩

/-- A relay is not recovered as it was: asked to discard what no queue takes, it accepts such a message before the link is
suspended, and rejects one afterwards. -/
theorem relay_recovered :
    let w := (World.new {} ⟨true, ∅, []⟩ {}).after
      [.link "in" { resumeSupported := true } [0] true,
        .attach 0 .plain
          { source := some { outcomes := some [.accepted, .rejected] }
            target := some (.node { capabilities := some [Target.discardUnroutable] }) },
        .deliver 0 (parcel 1 0 none none), .detach 0 (some {}), .attach 0 .plain {}, .deliver 0 (parcel 2 1 none none)]
    w.broker.outbox.map (·.2.state) =
      [some (.final .accepted), some (.final (.rejected (some (.unknownDestination ""))))] := by
  decide +kernel

end MessageBroker
