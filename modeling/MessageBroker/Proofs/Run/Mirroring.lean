import Mathlib.Data.List.Nodup
import MessageBroker.Proofs.Broker.Registrations
import MessageBroker.Proofs.Run.Becomes
import MessageBroker.Proofs.Run.Recovery
import MessageBroker.Proofs.Run.Retired
/-!
# Registrations mirror receivers

Destinations know which links publish to them.  As long as nobody tells them otherwise, and no two links have the same
name, just those links are registered at a destination that have it for their receiver's node, each under the address of
that receiver, and a destination that was deleted is no exception (`mirrored_of_goes`).
-/
namespace MessageBroker

open Broker

namespace Broker

/-- No two links have the same name. -/
def Distinct (b : Broker) : Prop := (b.links.map (·.name)).Nodup

instance (b : Broker) : Decidable b.Distinct := inferInstanceAs (Decidable (b.links.map (·.name)).Nodup)

/-- **At every destination, the links that publish there are registered**, and no others. -/
structure Mirrored (b : Broker) : Prop where
  once : ∀ d, ((b.registry.publishers d).map (·.name)).Nodup
  mem_iff : ∀ d p, p ∈ b.registry.publishers d ↔ ∃ l x, b.link? l = some x ∧ x.registration d = some p

/-- **What a step makes of the registrations.**  Either they stay, or one link has another receiver: its one registration
is taken away where it was, and one is put where its new receiver is a node. -/
inductive Moved (b b' : Broker) : Prop where
  | stayed (old : ∀ l x, b.link? l = some x → ∃ y, b'.link? l = some y ∧ y.name = x.name ∧ y.receiver = x.receiver)
      (new : ∀ l y, b.link? l = none → b'.link? l = some y → y.receiver = none)
      (publishers : ∀ d, b'.registry.publishers d = b.registry.publishers d)
  | moved {l : LinkId} {x y : Link} (before : b.link? l = some x) (after : b'.link? l = some y) (name : y.name = x.name)
      (receiver : sameReceiver x.receiver y.receiver = false) (others : ∀ k, k ≠ l → b'.link? k = b.link? k)
      (taken : ∀ d, (b.registry.publishers d).filter (·.name == x.name) = (x.registration d).toList)
      (publishers : ∀ d, b'.registry.publishers d =
        (b.registry.publishers d).filter (·.name != x.name) ++ (y.registration d).toList)

variable {b b' : Broker}

theorem Distinct.eq_of_name (h : b.Distinct) {k l : LinkId} {x y : Link} (hx : b.link? k = some x)
    (hy : b.link? l = some y) (name : x.name = y.name) : k = l := by
  have hname : ∀ {i z}, b.link? i = some z → (b.links.map (·.name))[i]? = some z.name := fun hz => by
    rw [List.getElem?_map, show b.links[_]? = some _ from hz]
    rfl
  have hlt := (List.getElem?_eq_some_iff.1 (hname hx)).1
  exact (List.getElem?_inj hlt h).1 (by rw [hname hx, hname hy, name])

/-- Links that are added later do not make those before alike. -/
theorem Distinct.of_kept (h : b'.Distinct)
    (kept : ∀ l x, b.link? l = some x → ∃ y, b'.link? l = some y ∧ y.name = x.name) : b.Distinct := by
  have hprefix : b.links.map (·.name) <+: b'.links.map (·.name) := by
    refine List.prefix_iff_getElem?.2 fun i hi => ?_
    have hi : i < b.links.length := by rwa [List.length_map] at hi
    obtain ⟨y, hy, name⟩ := kept i _ (List.getElem?_eq_getElem hi)
    rw [List.getElem?_map, show b'.links[i]? = some y from hy, List.getElem_map, ← name]
    rfl
  exact List.Nodup.sublist hprefix.sublist h

theorem name_of_registration {x : Link} {d : DestinationId} {p : PublishingLink} (h : x.registration d = some p) :
    p.name = x.name := by
  obtain ⟨r, -, h⟩ := Option.bind_eq_some_iff.1 h
  split at h
  · cases h
    rfl
  · cases h

theorem registration_congr {x y : Link} (name : y.name = x.name) (receiver : y.receiver = x.receiver)
    (d : DestinationId) : y.registration d = x.registration d := by
  unfold Link.registration
  rw [name, receiver]

/-- A registration under the name of a link is that link's own. -/
theorem Mirrored.own (h : b.Mirrored) (distinct : b.Distinct) {l : LinkId} {x : Link} (hx : b.link? l = some x)
    {d : DestinationId} {p : PublishingLink} (hp : p ∈ b.registry.publishers d) (name : p.name = x.name) :
    x.registration d = some p := by
  obtain ⟨k, z, hz, hregistered⟩ := (h.mem_iff d p).1 hp
  obtain rfl := distinct.eq_of_name hz hx ((name_of_registration hregistered).symm.trans name)
  rw [hx] at hz
  cases hz
  exact hregistered

/-- What is registered under the name of a link is that link's one registration, or nothing. -/
theorem Mirrored.filter_name (h : b.Mirrored) (distinct : b.Distinct) {l : LinkId} {x : Link} (hx : b.link? l = some x)
    (d : DestinationId) : (b.registry.publishers d).filter (·.name == x.name) = (x.registration d).toList := by
  cases hr : x.registration d with
  | none =>
    refine List.filter_eq_nil_iff.2 fun p hp name => ?_
    rw [h.own distinct hx hp (beq_iff_eq.1 name)] at hr
    cases hr
  | some p =>
    have hnodup : ((b.registry.publishers d).filter (·.name == x.name)).Nodup := (List.Nodup.of_map _ (h.once d)).filter _
    refine List.perm_singleton.1 ((List.perm_ext_iff_of_nodup hnodup (List.nodup_singleton p)).2 fun q => ?_)
    rw [List.mem_filter, beq_iff_eq, List.mem_singleton]
    constructor
    · rintro ⟨hq, name⟩
      exact Option.some.inj ((h.own distinct hx hq name).symm.trans hr)
    · rintro rfl
      exact ⟨(h.mem_iff d q).2 ⟨l, x, hx, hr⟩, name_of_registration hr⟩

/-- **Registrations go on mirroring receivers.** -/
theorem Moved.mirrored (h : Moved b b') (distinct : b.Distinct) (before : b.Mirrored) : b'.Mirrored := by
  cases h with
  | stayed old new publishers =>
    refine ⟨fun d => by rw [publishers]; exact before.once d, fun d p => ?_⟩
    rw [publishers, before.mem_iff]
    constructor
    · rintro ⟨l, x, hx, hp⟩
      obtain ⟨y, hy, name, receiver⟩ := old l x hx
      exact ⟨l, y, hy, by rw [registration_congr name receiver, hp]⟩
    · rintro ⟨l, y, hy, hp⟩
      cases hx : b.link? l with
      | none =>
        rw [Link.registration, new l y hx hy] at hp
        cases hp
      | some x =>
        obtain ⟨y', hy', name, receiver⟩ := old l x hx
        rw [hy] at hy'
        cases hy'
        exact ⟨l, x, hx, by rw [← registration_congr name receiver, hp]⟩
  | @moved l x y hx hy name receiver others taken publishers =>
    refine ⟨fun d => ?_, fun d p => ?_⟩
    · rw [publishers, List.map_append]
      refine List.nodup_append.2 ⟨(before.once d).sublist (List.filter_sublist.map _), ?_, ?_⟩
      · cases y.registration d <;> simp
      · rintro n hold n' hnew rfl
        obtain ⟨p, hp, rfl⟩ := List.mem_map.1 hold
        obtain ⟨p', hp', heq⟩ := List.mem_map.1 hnew
        rw [name_of_registration (Option.mem_toList.1 hp'), name] at heq
        exact bne_iff_ne.1 (List.mem_filter.1 hp).2 heq.symm
    · rw [publishers, List.mem_append, List.mem_filter, bne_iff_ne, before.mem_iff, Option.mem_toList]
      constructor
      · rintro (⟨⟨k, z, hz, hp⟩, hother⟩ | hp)
        · -- a registration under another name is another link's
          have hk : k ≠ l := by
            rintro rfl
            rw [hx] at hz
            cases hz
            exact hother (name_of_registration hp)
          exact ⟨k, z, by rw [others k hk, hz], hp⟩
        · exact ⟨l, y, hy, hp⟩
      · rintro ⟨k, z, hz, hp⟩
        by_cases hk : k = l
        · subst hk
          rw [hy] at hz
          cases hz
          exact .inr hp
        · rw [others k hk] at hz
          refine .inl ⟨⟨k, z, hz, hp⟩, fun hname => hk ?_⟩
          exact distinct.eq_of_name hz hx ((name_of_registration hp).symm.trans hname)

/-- **An operation that hands a link a receiver moves its registration**, if it is another one. -/
theorem Hands.moved {l : LinkId} {x : Link} {next : Option Receiver} (h : Hands b l x next b') (hx : b.link? l = some x)
    (distinct : b.Distinct) (mirrored : b.Mirrored) : Moved b b' := by
  obtain ⟨y, turns, name, receiver⟩ := h.link
  cases same : sameReceiver x.receiver next with
  | true =>
    obtain ⟨b₁, x₁, ready, -, posts⟩ := h.handed
    rw [setReceiver_of_same ready.turns.link? (by rwa [ready.receiver])] at posts
    refine .stayed (fun k z hz => ?_) (fun k z hz hz' => ?_) (ready.posts.trans posts).publishers
    · by_cases hk : k = l
      · subst hk
        rw [hx] at hz
        cases hz
        exact ⟨y, turns.link?, name, by rw [receiver, same]; rfl⟩
      · exact ⟨z, by rw [turns.other hk, hz], rfl, rfl⟩
    · have hk : k ≠ l := by
        rintro rfl
        rw [hx] at hz
        cases hz
      rw [turns.other hk, hz] at hz'
      cases hz'
  | false =>
    have hreceiver : y.receiver = next := by rw [receiver, same]; rfl
    refine .moved hx turns.link? name (by rwa [hreceiver]) (fun k hk => turns.other hk)
      (mirrored.filter_name distinct hx) fun d => ?_
    exact h.publishers turns.link? same fun p hp hname => by rw [mirrored.own distinct hx hp hname]; rfl

/-- What is published, and all that is done with messages, leaves the registrations alone. -/
theorem hands_attachAs {l : LinkId} {x : Link} (hx : b.link? l = some x) (consistent : b.registry.Consistent)
    (how : Attaching) (a : Attach) :
    (∃ next, Hands b l x next (b.attachAs l x a how)) ∨ b.attachAs l x a how = b := by
  cases how with
  | establish => exact .inl (hands_establish hx consistent a)
  | resume => exact .inl (hands_resume hx consistent a)
  | reattach => exact .inl (hands_reattach hx consistent a)
  | recover => exact .inl (hands_recover hx consistent a)
  | plain =>
    by_cases unattached : x.state = .unattached
    · exact .inl (hands_attach hx consistent a unattached)
    · exact .inr (by simp [attachAs, attach, unattached])

theorem setReceiver_of_none {l : LinkId} (hl : b.link? l = none) (next : Option Receiver) : b.setReceiver l next = b := by
  unfold setReceiver
  rw [hl]

/-- A link may also be handed a receiver of any kind. -/
theorem hands_setReceiver {l : LinkId} {x : Link} (hx : b.link? l = some x) {n : Nat} (counted : b.receivers ≤ n)
    {next : Option Receiver}
    (known : ∀ r d, next = some r → r.node? = some d → (b.registry.get? d).isSome = true) :
    Hands b l x next (({ b with receivers := n } : Broker).setReceiver l next) := by
  have turns : Turns b l x { b with receivers := n } := (Turns.start hx).skips ⟨rfl, counted⟩
  exact ⟨⟨_, turns.setReceiver next, rfl, rfl⟩, _, _, ⟨turns, rfl, rfl, .refl _⟩, known, .refl _⟩

theorem registry_start (b : Broker) (l : LinkId) (link : Link) : (b.start l link).1.registry = b.registry := by
  unfold start ensureAttached
  by_cases attached : link.state = .attached <;> simp only [attached, if_true, if_false] <;> rfl

/-- What is not about links and destinations moves nothing. -/
theorem Moved.of_eq (links : b'.links = b.links) (registry : b'.registry = b.registry) : Moved b b' := by
  have hlink : ∀ l, b'.link? l = b.link? l := fun l => by
    unfold link?
    rw [links]
  refine .stayed (fun l x hx => ⟨x, (hlink l).trans hx, rfl, rfl⟩) (fun l y hx hy => ?_) fun d => by rw [registry]
  rw [hlink, hx] at hy
  cases hy

end Broker

namespace World

/-- **An event that turns no link is a request or changes queues only**, so far as the registry goes. -/
theorem registry_take {R : Registry → Registry → Prop} (refl : ∀ r, R r r)
    (trans : ∀ {r r' r''}, R r r' → R r' r'' → R r r'') (queue : ∀ r d f, R r (r.modify d (·.mapQueue f)))
    (request : ∀ (b : Broker) q, R b.registry (b.administer q).registry) (w : World) {e : Event}
    (apart : ∀ l, e.turns l = false) : R w.broker.registry (w.take e).after.broker.registry := by
  cases e with
  | administer q => exact request w.broker q
  | pop q =>
    unfold take step pop
    simp only
    split
    · exact queue w.broker.registry q _
    · exact refl _
  | failStore failing => exact refl _
  | session s => exact refl _
  | link name settings formats receiverOpen => exact refl _
  | start l =>
    unfold take step withLink
    simp only
    split
    · exact refl _
    · rw [registry_start]
      exact refl _
  | disposition l tag settled =>
    unfold take step withLink receiveDisposition
    simp only
    split
    · exact refl _
    · split <;> exact refl _
  | attach l how a => exact absurd (apart l) (by simp [Event.turns])
  | detach l d => exact absurd (apart l) (by simp [Event.turns])
  | destroy l => exact absurd (apart l) (by simp [Event.turns])
  | _ => exact (workSteps_registry refl trans queue).take w rfl

/-- **Events that do not turn a link change no registration.** -/
theorem posts_take (w : World) {e : Event} (apart : ∀ l, e.turns l = false) :
    w.broker.registry.Posts (w.take e).after.broker.registry :=
  registry_take .refl .trans (fun _ d f => .modify _ d (Registry.links_mapQueue · f))
    (fun b q => (administered_administer b q).posts) w apart

/-- **What an event makes of the registrations.** -/
theorem moved_take (w : World) (e : Event) (consistent : w.broker.registry.Consistent) (distinct : w.broker.Distinct)
    (mirrored : w.broker.Mirrored) : Moved w.broker (w.take e).after.broker := by
  by_cases apart : ∀ l, e.turns l = false
  · refine .stayed (fun l x hx => ?_) (fun l y hx hy => (w.made_take e hx hy).2) (w.posts_take apart).publishers
    obtain ⟨u, c, hy⟩ := (w.rests_take (apart l)).link x hx
    exact ⟨_, hy, rfl, rfl⟩
  obtain ⟨l, turns⟩ : ∃ l, e.turns l = true := by simpa using apart
  cases hx : w.broker.link? l with
  | none =>
    rw [w.take_missing hx turns]
    exact .of_eq rfl rfl
  | some x =>
    cases e with
    | attach k how a =>
      obtain rfl := beq_iff_eq.1 turns
      rw [take_attach hx how a]
      rcases hands_attachAs hx consistent how a with ⟨next, h⟩ | h
      · exact h.moved hx distinct mirrored
      · rw [h]
        exact .of_eq rfl rfl
    | detach k d =>
      obtain rfl := beq_iff_eq.1 turns
      exact (hands_detach hx d).moved hx distinct mirrored
    | destroy k =>
      obtain rfl := beq_iff_eq.1 turns
      exact (hands_destroy hx).moved hx distinct mirrored
    | _ => cases turns

/-- **What can happen next**: an event, or a link is handed a receiver, one of those made so far or a new one, whose node
is a destination that is known. -/
inductive Goes (w : World) : World → Prop where
  | event (e : Event) : Goes w (w.take e).after
  | handed (l : LinkId) (next : Option Receiver) (n : Nat) (counted : w.broker.receivers ≤ n)
      (made : ∀ r, next = some r → r.serial < n)
      (known : ∀ r d, next = some r → r.node? = some d → (w.broker.registry.get? d).isSome = true) :
      Goes w { w with broker := ({ w.broker with receivers := n } : Broker).setReceiver l next }

theorem goes_after : ∀ (es : List Event) (w : World), Relation.ReflTransGen Goes w (w.after es)
  | [], _ => .refl
  | e :: es, w => .head (.event e) (goes_after es (w.take e).after)

end World

namespace World.Goes

variable {w w' : World}

/-- Links stay, under their names. -/
theorem kept (h : w.Goes w') {l : LinkId} {x : Link} (hx : w.broker.link? l = some x) :
    ∃ y, w'.broker.link? l = some y ∧ y.name = x.name := by
  cases h with
  | event e =>
    obtain ⟨y, hy, leaves, -⟩ := w.leaves_take e hx
    exact ⟨y, hy, leaves.name⟩
  | handed k next n =>
    rcases link?_setReceiver { w.broker with receivers := n } k l next with h | ⟨y, receiver, hy, h⟩
    · exact ⟨x, h.trans hx, rfl⟩
    · rw [show Broker.link? { w.broker with receivers := n } l = some x from hx] at hy
      cases hy
      exact ⟨_, h, rfl⟩

theorem consistent (h : w.Goes w') (before : w.broker.registry.Consistent) : w'.broker.registry.Consistent := by
  cases h with
  | event e => exact (w.becomes_take e).consistent before
  | handed l next n => exact (becomes_setReceiver { w.broker with receivers := n } l next).consistent before

theorem numbered (h : w.Goes w') (before : w.broker.Numbered) : w'.broker.Numbered := by
  cases h with
  | event e => exact w.numbered_take e before
  | handed l next n counted made known =>
    have hold : ∀ k z r, w.broker.link? k = some z → z.receiver = some r → r.serial < n := fun k z r hz hr =>
      Nat.lt_of_lt_of_le (before k z r hz hr) counted
    cases hx : w.broker.link? l with
    | none =>
      have hafter := setReceiver_of_none (b := { w.broker with receivers := n }) hx next
      simp only [hafter]
      exact hold
    | some x =>
      have turns := (Turns.start (b := { w.broker with receivers := n }) hx).setReceiver next
      intro k z r hz hr
      refine Nat.lt_of_lt_of_le ?_ turns.receivers
      by_cases hk : k = l
      · subst hk
        rw [turns.link?] at hz
        cases hz
        have hr : (if sameReceiver x.receiver next then x.receiver else next) = some r := hr
        split at hr
        · exact hold k x r hx hr
        · exact made r hr
      · rw [turns.other hk] at hz
        exact hold k z r hz hr

theorem moved (h : w.Goes w') (consistent : w.broker.registry.Consistent) (distinct : w.broker.Distinct)
    (mirrored : w.broker.Mirrored) : Moved w.broker w'.broker := by
  cases h with
  | event e => exact w.moved_take e consistent distinct mirrored
  | handed l next n counted made known =>
    cases hx : w.broker.link? l with
    | none =>
      have hafter := setReceiver_of_none (b := { w.broker with receivers := n }) hx next
      simp only [hafter]
      exact .of_eq rfl rfl
    | some x => exact (hands_setReceiver hx counted known).moved hx distinct mirrored

end World.Goes

/-- **Which receiver a link has after it was attached, detached or destroyed**: `x` is what it was before. -/
inductive Step.Directs (s : Step) (l : LinkId) (x y : Link) : Prop where
  /-- It was not to be attached, and is as it was. -/
  | refused {a : Attach} (event : s.event = .attach l .plain a) (busy : x.state ≠ .unattached) (same : y = x)
  | left (unattached : ∀ how a, s.event = .attach l how a → ∃ e, s.before.broker.attachResult l x a how = .error e)
      (receiver : y.receiver = none)
  /-- It has a new receiver, with the address of the target that it is attached to. -/
  | attached {how : Attaching} {a : Attach} {r : Receiver} {target : Target} (event : s.event = .attach l how a)
      (result : s.before.broker.attachResult l x a how = .ok ()) (receiver : y.receiver = some r)
      (new : sameReceiver x.receiver y.receiver = false) (granted : y.target = some target)
      (address : target.address.getD "" = r.address)

theorem World.directs_take {w : World} (numbered : w.broker.Numbered) {l : LinkId} {x : Link}
    (hx : w.broker.link? l = some x) {e : Event} (turns : e.turns l = true) :
    ∃ y, (w.take e).after.broker.link? l = some y ∧ (w.take e).Directs l x y := by
  obtain ⟨y, hy, leaves, -⟩ := w.leaves_take e hx
  refine ⟨y, hy, ?_⟩
  cases leaves with
  | rested apart => cases turns.symm.trans apart
  | spurned event busy => exact .refused event busy rfl
  | failed event result =>
    refine .left (fun how' a' event' => ?_) rfl
    cases event.symm.trans event'
    exact ⟨_, result⟩
  | @attached how a source own unsettled target final r event result asked fresh counted fits =>
    have hother := numbered.other hx fresh
    have hreceiver : (if sameReceiver x.receiver (some r) then x.receiver else some r) = some r := by rw [hother]; rfl
    exact .attached event result hreceiver (by rwa [← hreceiver] at hother) rfl fits.address
  | detached event => exact .left (fun how a event' => by cases event.symm.trans event') rfl
  | suspended event => exact .left (fun how a event' => by cases event.symm.trans event') rfl
  | destroyed event => exact .left (fun how a event' => by cases event.symm.trans event') rfl

/-- **Registrations mirror receivers.**  However a world came about from a new one, by events and by links that were handed
receivers: if no two of its links have the same name, then at every destination ever made, deleted ones included, just
those links are registered whose receiver is a node on that very destination, each once and with its receiver's address.
Whatever happens next, either no registration changes, or one link has another receiver and its one registration is taken
away, everywhere, and put where its new receiver leads.  An attach gives the link a new receiver, with the address of the
target; an attach that fails, a detach and destroying the link leave it none. -/
theorem mirrored_of_goes {settings : HostSettings} {store : Store} {principal : Principal} {w : World}
    (goes : Relation.ReflTransGen World.Goes (.new settings store principal) w) (distinct : w.broker.Distinct) :
    w.broker.Mirrored ∧ (∀ w', w.Goes w' → Moved w.broker w'.broker) ∧
      ∀ l x e, w.broker.link? l = some x → e.turns l = true →
        ∃ y, (w.take e).after.broker.link? l = some y ∧ (w.take e).Directs l x y := by
  obtain ⟨consistent, numbered, mirrored⟩ :
      w.broker.registry.Consistent ∧ w.broker.Numbered ∧ (w.broker.Distinct → w.broker.Mirrored) := by
    clear distinct
    induction goes with
    | refl =>
      have hnone : ∀ d, (World.new settings store principal).broker.registry.publishers d = [] :=
        Registry.publishers_new settings
      refine ⟨.new settings, fun l x r hx => (by cases hx), fun _ => ⟨fun d => by rw [hnone]; exact .nil, fun d p => ?_⟩⟩
      rw [hnone]
      refine iff_of_false List.not_mem_nil ?_
      rintro ⟨l, x, hx, -⟩
      cases hx
    | tail _ h ih =>
      obtain ⟨consistent, numbered, mirrored⟩ := ih
      refine ⟨h.consistent consistent, h.numbered numbered, fun distinct => ?_⟩
      have distinct := distinct.of_kept fun l x hx => h.kept hx
      exact (h.moved consistent distinct (mirrored distinct)).mirrored distinct (mirrored distinct)
  have mirrored := mirrored distinct
  exact ⟨mirrored, fun w' h => h.moved consistent distinct mirrored, fun l x e hx => World.directs_take numbered hx⟩

/-- A queue is deleted that a link publishes to, and another one is made under its name, to which another link is attached;
a third link is handed a receiver there. -/
def replaced : List Event :=
  [.administer (.createQueue { name := "orders" }),
    .link "in" {} [0] true, .link "out" {} [0] true, .link "aside" {} [0] true,
    .attach 0 .plain { target := some (.node { address := some "orders" }) },
    .administer (.delete "orders" false),
    .administer (.createQueue { name := "orders" }),
    .attach 1 .plain { target := some (.node { address := some "orders" }) }]

/-- The first link is still registered at the queue that was deleted, until it is destroyed. -/
theorem mirrored_replaced :
    let w := (World.new {} ⟨true, ∅, []⟩ {}).after replaced
    let r : Receiver := ⟨2, "by hand", 10, .node 3 none false⟩
    let w' := { w with broker := ({ w.broker with receivers := 3 } : Broker).setReceiver 2 (some r) }
    w'.broker.Mirrored ∧ w'.broker.registry.publishers 2 = [⟨"in", some "orders"⟩] ∧
      w'.broker.registry.publishers 3 = [⟨"out", some "orders"⟩, ⟨"aside", some "by hand"⟩] ∧
      Moved w'.broker (w'.take (.destroy 0)).after.broker ∧
      (w'.take (.destroy 0)).after.broker.registry.publishers 2 = [] := by
  intro w r w'
  have handed : w.Goes w' := by
    refine .handed 2 (some r) 3 (by decide +kernel) (fun r' hr => ?_) fun r' d hr hd => ?_
    · cases hr
      decide
    · cases hr
      cases hd
      decide +kernel
  have goes : Relation.ReflTransGen World.Goes (.new {} ⟨true, ∅, []⟩ {}) w' :=
    (World.goes_after replaced (.new {} ⟨true, ∅, []⟩ {})).tail handed
  obtain ⟨mirrored, moved, -⟩ := mirrored_of_goes goes (by decide +kernel)
  exact ⟨mirrored, by decide +kernel, by decide +kernel, moved _ (.event _), by decide +kernel⟩

end MessageBroker
