import MessageBroker.Proofs.Broker.Dooming
import MessageBroker.Proofs.Broker.Lasting
import MessageBroker.Proofs.Broker.Termini
/-!
# What a suspended link finds again

A link is recovered by the target that it was granted, with the capabilities that stand in it.  Where addresses mean what
they meant, that leads to the same receiver and grants the same again (`Fits.again`), but for one thing: a relay that
discards what no queue takes does not say so, and is recovered as one that does not.  Otherwise messages go where they
went, and come to the same outcome (`Alike.outcomeOf_recovered`).
-/
namespace MessageBroker

open Broker

/-- A receiver as it is found again, with a number of its own: a relay no longer discards what no queue takes. -/
def Receiver.recovered (r : Receiver) (serial : Nat) : Receiver :=
  { r with
    serial
    kind := match r.kind with
      | .relay _ => .relay false
      | kind => kind }

/-- A receiver that discards what no queue takes, and does not say so. -/
def Receiver.discards (r : Receiver) : Bool :=
  match r.kind with
  | .relay discards => discards
  | _ => false

namespace Receiver

variable (r : Receiver) (serial : Nat)

theorem capabilities_recovered : (r.recovered serial).capabilities = r.capabilities := by
  unfold capabilities recovered
  cases r.kind <;> rfl

/-- What a receiver of the broker's own offers is no kind of topic, and whether it discards is told for a single
destination only. -/
theorem offers_of_plain {r : Receiver} (plain : r.Plain) :
    (r.capabilities.filter fun c => c == Target.topic || c == Target.temporaryTopic) = [] ∧
      r.capabilities.contains Target.discardUnroutable =
        match r.kind with
        | .node _ _ discards => discards
        | _ => false := by
  unfold capabilities
  cases hk : r.kind with
  | node d key discards =>
    cases discards <;>
      simp [Target.delayedDelivery, Target.discardUnroutable, Target.topic, Target.temporaryTopic]
  | relay discards =>
    simp [Target.delayedDelivery, Target.discardUnroutable, Target.topic, Target.temporaryTopic]
  | scripted script => exact absurd hk (plain script)

end Receiver

namespace Broker

variable {requested final : Target} {r : Receiver}

theorem capabilities_granted : (final.granted requested r).capabilities.getD [] = grantedCapabilities requested r := by
  unfold Target.granted
  simp only
  split
  · exact (List.isEmpty_iff.1 ‹_›).symm
  · rfl

/-- **The same is granted again** of the target that was granted. -/
theorem grantedCapabilities_again (requested final : Target) (plain : r.Plain) (serial : Nat) :
    grantedCapabilities (final.granted requested r) (r.recovered serial) = grantedCapabilities requested r := by
  unfold grantedCapabilities
  rw [capabilities_granted, r.capabilities_recovered]
  unfold grantedCapabilities
  rw [List.filter_append, List.filter_filter, (Receiver.offers_of_plain plain).1]
  simp

theorem granted_again (requested final : Target) (plain : r.Plain) (serial : Nat) :
    (final.granted requested r).granted (final.granted requested r) (r.recovered serial) =
      final.granted requested r := by
  have h := grantedCapabilities_again requested final plain serial
  unfold Target.granted at h ⊢
  simp only at h ⊢
  rw [h]

theorem hasCapability_granted (requested final : Target) (plain : r.Plain) :
    (final.granted requested r).hasCapability Target.discardUnroutable =
      match r.kind with
      | .node _ _ discards => discards
      | _ => false := by
  have h : (final.granted requested r).hasCapability Target.discardUnroutable =
      ((final.granted requested r).capabilities.getD []).contains Target.discardUnroutable := by
    unfold Target.hasCapability
    cases (final.granted requested r).capabilities <;> rfl
  -- kinds of topics are no such capability
  have htopics : Target.discardUnroutable ∉ (requested.capabilities.getD []).filter
      fun c => c == Target.topic || c == Target.temporaryTopic := by
    simp [Target.discardUnroutable, Target.topic, Target.temporaryTopic]
  rw [h, capabilities_granted, grantedCapabilities, ← (Receiver.offers_of_plain plain).2]
  simp [List.contains_eq_mem, htopics]

variable {g g' : Registry} {settings : LinkSettings} {own : Option String}

theorem Fits.plain (h : Fits g settings own requested r final) : r.Plain := by
  intro s hs
  cases h <;> cases hs

/-- **The granted target leads to the same receiver again**, but for a relay that discards. -/
theorem Fits.again (h : Fits g settings own requested r final) (serial : Nat) :
    Fits g settings own (final.granted requested r) (r.recovered serial) (final.granted requested r) := by
  have hdiscards := hasCapability_granted requested final h.plain
  cases h with
  | dynamic asked owned found named told => exact .dynamic asked owned found named hdiscards
  | relay unasked anywhere told => exact .relay unasked anywhere hdiscards
  | node unasked named somewhere found told => exact .node unasked named somewhere found hdiscards

/-- **The receiver of a target that was granted is found**, and the target stays as it is. -/
theorem receiverFor_of_fits {b : Broker} {link : Link} {target : Target}
    (h : Fits b.registry link.settings link.dynamicNode target r final) (l : LinkId) :
    b.receiverFor l link target =
      ({ b with receivers := b.receivers + 1 }, .ok ({ r with serial := b.receivers }, final)) := by
  unfold receiverFor
  cases h with
  | @dynamic serial node address resolved discards asked owned found named told =>
    subst named told
    simp [asked, dynamicNode, owned, found, nodeReceiver, newReceiver]
  | relay unasked anywhere told =>
    subst told
    simp only [unasked, Bool.false_eq_true, if_false, newReceiver]
    split
    · rfl
    · rfl
    · rename_i address somewhere named
      rw [named] at anywhere
      exact absurd anywhere somewhere
  | @node serial address resolved discards unasked named somewhere found told =>
    subst told
    simp [unasked, named, found, nodeReceiver, newReceiver]

/-- An attach whose target has a receiver is completed with it, under the next number. -/
theorem attachReceived_eq {b : Broker} {l : LinkId} {x : Link} {a : Attach} {target : Target} (hl : b.link? l = some x)
    (asked : attachTarget x a = .ok target) (h : Fits b.registry x.settings x.dynamicNode target r final)
    (source : Option Source) :
    ∃ b', b.attachReceived l x source a =
        (b'.completeAttach l x a target { r with serial := b.receivers } final, .ok ()) ∧
      b'.registry = b.registry ∧ Turns b l { x with
        source := source <|> x.source
        state := .attaching
        settleMode := a.settleMode <|> x.settings.settleMode } b' := by
  let b₁ := b.modifyLink l fun x =>
    { x with source := source <|> x.source, state := .attaching, settleMode := a.settleMode <|> x.settings.settleMode }
  have turns : Turns b l _ { b₁ with receivers := b.receivers + 1 } :=
    ((Turns.start hl).modify fun x => { x with
      source := source <|> x.source, state := .attaching, settleMode := a.settleMode <|> x.settings.settleMode }).skips
        ⟨rfl, Nat.le_succ _⟩
  refine ⟨{ b₁ with receivers := b.receivers + 1 }, ?_, rfl, turns⟩
  unfold attachReceived
  simp only [asked]
  rw [receiverFor_of_fits (b := b₁) h l]
  rfl

/-- **A link whose target was granted is attached again**, under the same target and with the same capabilities, and no
address leads elsewhere for it. -/
theorem attachReceived_of_fits {b : Broker} {l : LinkId} {x : Link} {a : Attach} (hl : b.link? l = some x)
    (untargeted : a.target = none) (idle : x.receiver = none) (kept : x.target = some (final.granted requested r))
    (h : Fits b.registry x.settings x.dynamicNode requested r final) :
    (b.attachReceived l x none a).2 = .ok () ∧ b.registry.Serves (b.attachReceived l x none a).1.registry ∧
      ∃ unsettled, (b.attachReceived l x none a).1.link? l = some { x with
        state := .attached
        settleMode := a.settleMode <|> x.settings.settleMode
        capabilities := grantedCapabilities requested r
        receiver := some (r.recovered b.receivers)
        unsettled } := by
  let kept' := final.granted requested r
  have asked : attachTarget x a = .ok kept' := by
    unfold attachTarget
    rw [untargeted, kept]
  obtain ⟨b', hattach, hregistry, turns⟩ := attachReceived_eq hl asked (h.again b.receivers) none
  obtain ⟨u, done⟩ := turns.completeAttach x a kept' (r.recovered b.receivers) kept'
  have serves := serves_completeAttach b' l x a kept' (r.recovered b.receivers) kept'
  rw [hregistry] at serves
  rw [hattach]
  refine ⟨rfl, serves, u, done.link?.trans ?_⟩
  have hcapabilities := grantedCapabilities_again requested final h.plain b.receivers
  have hsame := granted_again requested final h.plain b.receivers
  obtain ⟨name, settings, formats, receiverOpen, state, source, target, capabilities, receiver, unsettled, mode, credit,
    own⟩ := x
  cases idle
  cases kept
  cases source <;> simp [Link.granted, kept', hcapabilities, hsame, sameReceiver]

/-! ## Outcomes -/

/-- **Brokers that take messages alike**: with registries that serve the same, stores that take the same, and the same
transactions open. -/
structure Alike (b b' : Broker) : Prop where
  registry : b.registry.Serves b'.registry
  persistent : b'.store.persistent = b.store.persistent
  agrees : b.store.Agrees b'.store
  isOpen : ∀ i, (b'.active? i).isSome = (b.active? i).isSome

namespace Alike

variable {b b' b'' : Broker} (h : b.Alike b')

/-- What leaves the store and the transactions alone, and leads no address elsewhere. -/
theorem of_serves (serves : b.registry.Serves b'.registry) (stable : Stable b b') (fate : SameFate b b') : b.Alike b' where
  registry := serves
  persistent := by rw [stable.store]
  agrees := fun more r => by rw [stable.store]
  isOpen := fun i => by
    have h := congrArg Option.isSome (fate i)
    simpa only [doomed?, Option.isSome_map] using h

include h

theorem trans (h' : b'.Alike b'') : b.Alike b'' :=
  ⟨h.registry.trans h'.registry, h'.persistent.trans h.persistent, h.agrees.trans h'.agrees,
    fun i => (h'.isOpen i).trans (h.isOpen i)⟩

/-- Whatever was noted meanwhile. -/
theorem noteAll (ns ns' : List Notice) : (b.noteAll ns).Alike (b'.noteAll ns') :=
  ⟨h.registry, h.persistent, h.agrees, h.isOpen⟩

theorem recordFor (q : DestinationId) (message : Message) : b'.recordFor q message = b.recordFor q message := by
  unfold Broker.recordFor
  cases hx : b.registry.get? q with
  | none =>
    have hnone := h.registry.map_get? (f := Destination.name) (fun _ _ hs => hs.name) q
    rw [hx, Option.map_none, Option.map_eq_none_iff] at hnone
    rw [hnone]
  | some x =>
    obtain ⟨x', hx', hs⟩ := h.registry.same q x hx
    simp only [hx', hs.durable, hs.name]

/-- Whether a transaction takes no more messages. -/
theorem resolved (i : TransactionId) : ((b'.transaction? i).map (·.resolved)).getD true =
    ((b.transaction? i).map (·.resolved)).getD true := by
  have hopen : ∀ b : Broker, ((b.transaction? i).map (·.resolved)).getD true = !(b.active? i).isSome := by
    intro b
    unfold active?
    cases b.transaction? i with
    | none => rfl
    | some t => cases ht : t.resolved <;> simp [ht]
  rw [hopen, hopen, h.isOpen]

/-- **A routing result is answered alike.** -/
theorem send (result : RoutingResult) (t : Transaction) : (b'.send result t).2 = (b.send result t).2 := by
  unfold Broker.send
  cases t with
  | inside i =>
    simp only [h.resolved]
    split <;> rfl
  | autoCommit =>
    have hrecords : result.queues.filterMap (b'.recordFor · result.message) =
        result.queues.filterMap (b.recordFor · result.message) := by simp only [h.recordFor]
    simp only [hrecords, persist_eq, h.agrees.refused?]
    cases b.store.refused? (result.queues.filterMap (b.recordFor · result.message)) <;> rfl

theorem enqueueRouted (result : RoutingResult) (t : Transaction) (discards : Bool) (address : String) :
    (b'.enqueueRouted result t discards address).2 = (b.enqueueRouted result t discards address).2 := by
  have hsend := h.send result t
  unfold Broker.enqueueRouted
  split
  · rfl
  · generalize b'.send result t = o' at hsend ⊢
    generalize b.send result t = o at hsend ⊢
    obtain ⟨c', answer'⟩ := o'
    obtain ⟨c, answer⟩ := o
    cases hsend
    cases answer' <;> rfl

/-- **A message is routed alike.** -/
theorem routeTo (resolved : Resolved) (message : Message) : ∃ c c' result,
    b.routeTo resolved message = (c, result) ∧ b'.routeTo resolved message = (c', result) ∧ c.Alike c' := by
  unfold Broker.routeTo
  rw [h.registry.exchange?]
  cases (b.registry.get? resolved.destination).bind Destination.exchange? with
  | none => exact ⟨b, b', _, rfl, by simp only [h.registry.routeToQueue], h⟩
  | some e =>
    unfold Broker.route
    simp only [h.registry.route]
    exact ⟨_, _, _, rfl, rfl, h.noteAll _ _⟩

theorem result_routeTo (resolved : Resolved) (message : Message) :
    (b'.routeTo resolved message).2 = (b.routeTo resolved message).2 := by
  obtain ⟨c, c', result, hb, hb', -⟩ := h.routeTo resolved message
  rw [hb, hb']

theorem sendToNode (resolved : Resolved) (message : Message) (t : Transaction) (discards : Bool) (address : String) :
    (b'.sendToNode resolved message t discards address).2 = (b.sendToNode resolved message t discards address).2 := by
  obtain ⟨c, c', result, hb, hb', halike⟩ := h.routeTo resolved message
  unfold Broker.sendToNode
  rw [hb, hb']
  exact halike.enqueueRouted result t discards address

end Alike

/-- A message that a relay takes although no queue does. -/
def Wasted (b : Broker) (r : Receiver) (message : Message) : Prop :=
  r.discards = true ∧ b.entriesFor r message = [] ∧ (message.persistent = true → b.store.persistent = true)

/-- Where no queue takes a message, it comes to what the sender asked for such messages. -/
theorem sendToNode_of_no_routes {b : Broker} {resolved : Resolved} {message : Message}
    (h : (b.routeTo resolved message).2.queues = []) (t : Transaction) (discards : Bool) (address : String) :
    (b.sendToNode resolved message t discards address).2 = .ok (unroutable discards address) := by
  unfold sendToNode enqueueRouted RoutingResult.hasRoutes
  simp [h]

theorem sendToNode_of_routes {b : Broker} {resolved : Resolved} {message : Message}
    (h : (b.routeTo resolved message).2.queues ≠ []) (t : Transaction) (discards discards' : Bool) (address : String) :
    b.sendToNode resolved message t discards address = b.sendToNode resolved message t discards' address := by
  unfold sendToNode enqueueRouted RoutingResult.hasRoutes
  simp [h]

/-- **What a relay does with a message** that may be stored: it says what the sender asked for if no queue takes it, and
sends it where its address leads otherwise. -/
theorem sendToReceiver_relay {b : Broker} {r : Receiver} {message : Message} {discards : Bool}
    (relays : r.kind = .relay discards) (storable : message.persistent = true → b.store.persistent = true)
    (t : Transaction) :
    (b.entriesFor r message = [] ∧
      (b.sendToReceiver r message t).2 = .ok (unroutable discards (message.address.getD ""))) ∨
    ∃ resolved, message.address.bind b.registry.resolve = some resolved ∧ b.entriesFor r message ≠ [] ∧
      (b.routeTo resolved message).2.queues ≠ [] ∧
      b.sendToReceiver r message t = b.sendToNode resolved message t discards (message.address.getD "") := by
  have hstore : (message.persistent && !b.store.persistent) = false := by
    cases hm : message.persistent with
    | false => rfl
    | true => simp [storable hm]
  unfold entriesFor resultFor sendToReceiver
  rw [relays, hstore]
  cases haddress : message.address with
  | none => exact .inl ⟨rfl, rfl⟩
  | some address =>
    simp only [Option.bind_some, Bool.false_eq_true, if_false, Option.getD_some]
    cases hres : b.registry.resolve address with
    | none => exact .inl ⟨rfl, rfl⟩
    | some resolved =>
      simp only [Option.map_some, Option.getD_some]
      by_cases hq : (b.routeTo resolved message).2.queues = []
      · exact .inl ⟨by simp [RoutingResult.placements, hq], sendToNode_of_no_routes hq t discards address⟩
      · exact .inr ⟨resolved, rfl, by simp [RoutingResult.placements, hq], hq, rfl⟩

namespace Alike

variable {b b' : Broker} (h : b.Alike b') (r : Receiver) (serial : Nat) (message : Message)

include h

/-- **A receiver that is found again routes every message where it went.** -/
theorem entriesFor_recovered : b'.entriesFor (r.recovered serial) message = b.entriesFor r message := by
  unfold entriesFor resultFor Receiver.recovered
  rw [h.persistent]
  cases r.kind with
  | node d key discards => simp only [h.result_routeTo]
  | relay discards => simp only [funext h.registry.resolve, h.result_routeTo]
  | scripted s => rfl

/-- **Every message comes to the outcome that it came to**, unless a relay discarded it: it is rejected now. -/
theorem outcomeOf_recovered (plain : r.Plain) (source : Source) (t : Transaction) :
    (¬ b.Wasted r message →
      (b'.outcomeOf source (r.recovered serial) message t).2 = (b.outcomeOf source r message t).2) ∧
    (b.Wasted r message → (b.outcomeOf source r message t).2 = .ok .accepted ∧
      (b'.outcomeOf source (r.recovered serial) message t).2 =
        .ok (.rejected (some (.unknownDestination (message.address.getD ""))))) := by
  unfold outcomeOf
  rw [h.persistent]
  cases hstore : message.persistent && !b.store.persistent with
  | true =>
    simp only [Bool.and_eq_true, Bool.not_eq_true'] at hstore
    refine ⟨fun _ => by simp only [if_true]; split <;> rfl, fun wasted => ?_⟩
    rw [wasted.2.2 hstore.1] at hstore
    cases hstore.2
  | false =>
    have storable : message.persistent = true → b.store.persistent = true := fun hm => by simpa [hm] using hstore
    simp only [Bool.false_eq_true, if_false]
    cases hk : r.kind with
    | scripted script => exact absurd hk (plain script)
    | node d key discards =>
      have hsame : (b'.sendToReceiver (r.recovered serial) message t).2 = (b.sendToReceiver r message t).2 := by
        simp only [sendToReceiver, Receiver.recovered, hk]
        exact h.sendToNode ⟨d, key⟩ message t discards r.address
      refine ⟨fun _ => hsame, fun wasted => ?_⟩
      simp [Wasted, Receiver.discards, hk] at wasted
    | relay discards =>
      have relays : (r.recovered serial).kind = .relay false := by
        unfold Receiver.recovered
        rw [hk]
      have hentries := h.entriesFor_recovered r serial message
      have hbefore := sendToReceiver_relay (t := t) hk storable
      have hafter := sendToReceiver_relay (t := t) relays fun hm => h.persistent.trans (storable hm)
      rw [hentries, funext h.registry.resolve] at hafter
      rcases hbefore with ⟨hnone, hbefore⟩ | ⟨resolved, hres, hsome, hroutes, hbefore⟩
      · -- no queue takes the message, before or after
        rcases hafter with ⟨-, hafter⟩ | ⟨-, -, hsome, -⟩
        · rw [hbefore, hafter]
          cases discards with
          | false =>
            refine ⟨fun _ => rfl, fun wasted => ?_⟩
            simp [Wasted, Receiver.discards, hk] at wasted
          | true =>
            have wasted : b.Wasted r message := ⟨by simp [Receiver.discards, hk], hnone, storable⟩
            exact ⟨fun kept => absurd wasted kept, fun _ => ⟨rfl, rfl⟩⟩
        · exact absurd hnone hsome
      · rcases hafter with ⟨hnone, -⟩ | ⟨resolved', hres', -, hroutes', hafter⟩
        · exact absurd hnone hsome
        · rw [hres] at hres'
          cases hres'
          refine ⟨fun _ => ?_, fun wasted => absurd wasted.2.1 hsome⟩
          rw [hafter, hbefore, h.sendToNode, sendToNode_of_routes hroutes]

end Alike
end Broker
end MessageBroker
