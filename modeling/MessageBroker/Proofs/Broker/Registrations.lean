import MessageBroker.Proofs.Broker.Lasting
import MessageBroker.Proofs.Broker.Termini
import MessageBroker.Proofs.Broker.Upkeep
/-!
# Which links publish to a destination

Requests, messages and all else that is done with links leave the registrations at destinations alone
(`Registry.Posts`); only handing a link another receiver takes its registration away and puts another one
(`publishers_setReceiver`).  Attaching, detaching and destroying a link hands it one receiver, or none (`Hands`).
-/
namespace MessageBroker

/-- The registration that a link has at a destination, if its receiver is a node there. -/
def Link.registration (x : Link) (d : DestinationId) : Option PublishingLink :=
  x.receiver.bind fun r => if r.node? = some d then some ⟨x.name, some r.address⟩ else none

namespace Registry

/-- The links registered as publishing at a destination, deleted or not. -/
def publishers (r : Registry) (d : DestinationId) : List PublishingLink := ((r.get? d).map (·.links)).getD []

/-- **Destinations stay known, and the same links publish there.** -/
structure Posts (r r' : Registry) : Prop where
  known : ∀ d, (r.get? d).isSome = true → (r'.get? d).isSome = true
  publishers : ∀ d, r'.publishers d = r.publishers d

theorem links_mapBindings (x : Destination) (f : BindingTable → BindingTable) : (x.mapBindings f).links = x.links := by
  obtain ⟨_, _, _, _, _, body⟩ := x
  cases body <;> rfl

theorem links_mapQueue (x : Destination) (f : Queue → Queue) : (x.mapQueue f).links = x.links := by
  obtain ⟨_, _, _, _, _, body⟩ := x
  cases body <;> rfl

theorem links_forget (d : DestinationId) (name : String) (i : DestinationId) (x : Destination) :
    (forget d name i x).links = x.links := by
  unfold forget
  simp only [links_mapBindings]
  split <;> rfl

theorem links_bury (x : Destination) : (bury x).links = x.links := by
  unfold bury
  split <;> rfl

variable {r r' r'' : Registry}

theorem publishers_some {d : DestinationId} {x : Destination} (h : r.get? d = some x) : r.publishers d = x.links := by
  unfold publishers
  rw [h]
  rfl

theorem publishers_new (settings : HostSettings) : ∀ d, (Registry.new settings).publishers d = []
  | 0 => rfl
  | 1 => rfl
  | _ + 2 => rfl

namespace Posts

theorem refl (r : Registry) : r.Posts r := ⟨fun _ => id, fun _ => rfl⟩

theorem trans (h : r.Posts r') (h' : r'.Posts r'') : r.Posts r'' :=
  ⟨fun d hd => h'.known d (h.known d hd), fun d => (h'.publishers d).trans (h.publishers d)⟩

theorem of_map (g : DestinationId → Destination → Destination) (hget : ∀ d, r'.get? d = (r.get? d).map (g d))
    (hg : ∀ d x, (g d x).links = x.links) : r.Posts r' := by
  refine ⟨fun d hd => ?_, fun d => ?_⟩
  · rwa [hget, Option.isSome_map]
  · unfold Registry.publishers
    rw [hget, Option.map_map]
    exact congrArg (Option.getD · []) (congrArg (Option.map · (r.get? d)) (funext (hg d)))

theorem modify (r : Registry) (d : DestinationId) {f : Destination → Destination} (hf : ∀ x, (f x).links = x.links) :
    r.Posts (r.modify d f) := by
  refine .of_map _ (fun i => get?_modify r d i f) fun i x => ?_
  split
  · exact hf x
  · rfl

theorem publish (r : Registry) (c : Change) (d : DestinationId) : r.Posts (r.publish c d) :=
  .of_map (fun _ x => x) (fun i => by rw [get?_publish, Option.map_id']) fun _ _ => rfl

theorem dynamicNodes (r : Registry) (nodes : List DestinationId) : r.Posts { r with dynamicNodes := nodes } :=
  ⟨fun _ => id, fun _ => rfl⟩

theorem add (r : Registry) {x : Destination} (blank : Blank x) : r.Posts (r.add x).1 := by
  refine ⟨fun d hd => ?_, fun d => ?_⟩
  · rw [get?_add]
    split
    · rfl
    · exact hd
  · unfold Registry.publishers
    rw [get?_add]
    split
    · rename_i hd
      rw [hd, show r.get? r.destinations.length = none from List.getElem?_eq_none (Nat.le_refl _)]
      exact blank.unpublished
    · rfl

end Posts

/-- **No request changes which links publish where**, and what it deletes keeps its registrations. -/
theorem Granted.posts (hg : r.Granted r') : r.Posts r' := by
  cases hg with
  | unchanged => exact .refl r
  | created x blank free suits => exact .add r blank
  | alternateSet name d x f found at_d suits => exact .modify r d fun _ => rfl
  | bound e x y b replace at_e live target target_live other parsed => exact .modify r e (links_mapBindings · _)
  | unbound e t key x at_e => exact .modify r e (links_mapBindings · _)
  | deleted name d x found at_d ordinary =>
    have h1 : r.Posts (r.mapRegistered (forget d name)) := by
      refine .of_map _ (get?_mapRegistered r _) fun i y => ?_
      split
      · exact links_forget d name i y
      · rfl
    have h2 : (r.mapRegistered (forget d name)).Posts ((r.mapRegistered (forget d name)).depart d x.name) := by
      refine .of_map _ (get?_depart _ d x.name) fun i y => ?_
      split
      · exact links_bury y
      · rfl
    exact (h1.trans h2).trans (.publish _ .deleted d)

/-- An address leads to a destination that is known. -/
theorem Consistent.known_of_resolve (h : r.Consistent) {address : String} {resolved : Resolved}
    (found : r.resolve address = some resolved) : (r.get? resolved.destination).isSome = true := by
  have hlookup : ∀ {name d}, r.lookup name = some d → (r.get? d).isSome = true := fun hd => by
    obtain ⟨x, hx, -⟩ := (h.lookup_iff _ _).1 hd
    rw [(registered?_eq_some.1 hx).2]
    rfl
  unfold resolve at found
  split at found
  · cases found
    exact hlookup ‹_›
  · obtain ⟨⟨exchange, key⟩, -, found⟩ := Option.bind_eq_some_iff.1 found
    obtain ⟨e, he, found⟩ := Option.bind_eq_some_iff.1 found
    cases found
    exact hlookup (Option.filter_eq_some_iff.1 he).1

end Registry

namespace Broker

open Registry

variable {b b' b₁ : Broker} {l : LinkId} {x x₁ : Link} {next : Option Receiver}

/-- A receiver that was found for a target is a node on a destination that is known. -/
theorem Fits.known {g : Registry} {settings : LinkSettings} {own : Option String} {target final : Target} {r : Receiver}
    (h : Fits g settings own target r final) (consistent : g.Consistent) {d : DestinationId} (hd : r.node? = some d) :
    (g.get? d).isSome = true := by
  cases h with
  | dynamic asked owned found =>
    cases hd
    exact consistent.known_of_resolve found
  | relay => cases hd
  | node unasked named somewhere found =>
    cases hd
    exact consistent.known_of_resolve found

/-- The receiver has the address that the target has in the end. -/
theorem Fits.address {g : Registry} {settings : LinkSettings} {own : Option String} {target final : Target} {r : Receiver}
    (h : Fits g settings own target r final) : final.address.getD "" = r.address := by
  cases h with
  | dynamic => rfl
  | relay unasked anywhere => exact anywhere
  | node unasked named => rw [named]; rfl

/-! ## What leaves registrations alone -/

theorem Administered.posts (h : Administered b b') : b.registry.Posts b'.registry := by
  cases h with
  | refused ns => exact .refl _
  | granted granted copies ns => exact granted.posts
  | deleted granted es copies ns => exact granted.posts

theorem posts_createDynamic (b : Broker) (name : String) : b.registry.Posts (b.createDynamic name).1.registry := by
  have h := (administered_createQueue b { name := b.registry.nextDynamicName name }).posts
  unfold createDynamic
  split <;> (rename_i heq; rw [heq] at h)
  · exact h
  · exact h.trans (.dynamicNodes _ _)

theorem posts_dropDynamicNode (b : Broker) (l : LinkId) : b.registry.Posts (b.dropDynamicNode l).registry := by
  unfold dropDynamicNode
  split
  · exact .refl _
  split
  · exact .refl _
  rename_i node _
  have h := (administered_delete (b.modifyLink l fun x => { x with dynamicNode := none }) node false).posts
  simp only
  unfold deleteDynamic
  cases heq : (b.modifyLink l fun x => { x with dynamicNode := none }).delete node false with
  | mk b' result =>
    rw [heq] at h
    cases result <;> exact h

theorem posts_receiverFor (b : Broker) (l : LinkId) (link : Link) (target : Target) :
    b.registry.Posts (b.receiverFor l link target).1.registry := by
  unfold receiverFor dynamicNode
  simp only
  split
  · cases link.dynamicNode.bind b.registry.resolve with
    | some resolved => exact .refl _
    | none =>
      have h := posts_createDynamic b link.name
      cases heq : b.createDynamic link.name with
      | mk b' result =>
        rw [heq] at h
        cases result <;> exact h
  · split
    · exact .refl _
    · exact .refl _
    · split <;> exact .refl _

/-! ## Handing over -/

theorem publishers_unregister (b : Broker) (name : String) (r : Receiver) (d : DestinationId) :
    (b.unregister name r).registry.publishers d =
      if r.node? = some d then (b.registry.publishers d).filter (·.name != name) else b.registry.publishers d := by
  unfold unregister
  cases hnode : r.node? with
  | none => simp
  | some e =>
    unfold linkRemoved
    by_cases he : e = d
    · subst he
      cases hx : b.registry.get? e <;> simp [publishers, hx, get?_modify_self, Destination.linkRemoved]
    · cases hx : b.registry.get? e <;> simp [publishers, hx, get?_modify_of_ne b.registry he, he]

/-- A link that is not registered yet is put after all that are. -/
theorem publishers_register {b : Broker} {name : String} {r : Receiver} {d : DestinationId}
    (known : r.node? = some d → (b.registry.get? d).isSome = true)
    (absent : ∀ p ∈ b.registry.publishers d, p.name ≠ name) :
    (b.register name r).registry.publishers d =
      b.registry.publishers d ++ if r.node? = some d then [⟨name, some r.address⟩] else [] := by
  unfold register
  cases hnode : r.node? with
  | none => simp
  | some e =>
    unfold linkAdded
    by_cases he : e = d
    · subst he
      obtain ⟨x, hx⟩ := Option.isSome_iff_exists.1 (known hnode)
      rw [publishers_some hx] at absent
      have hnew : x.links.any (·.name == name) = false := by simpa using absent
      simp [publishers, hx, get?_modify_self, Destination.linkAdded, hnew]
    · cases hx : b.registry.get? e <;> simp [publishers, hx, get?_modify_of_ne b.registry he, he]

theorem setReceiver_of_same (hl : b.link? l = some x) (same : sameReceiver x.receiver next = true) :
    b.setReceiver l next = b := by
  unfold setReceiver
  simp [hl, same]

/-- **Handing a link another receiver** takes its registration away and puts another one, provided that only a link that
publishes somewhere is registered there. -/
theorem publishers_setReceiver (hl : b.link? l = some x) (other : sameReceiver x.receiver next = false)
    {d : DestinationId} (known : ∀ r, next = some r → r.node? = some d → (b.registry.get? d).isSome = true)
    (own : ∀ p ∈ b.registry.publishers d, p.name = x.name → (x.registration d).isSome = true) :
    (b.setReceiver l next).registry.publishers d =
      (b.registry.publishers d).filter (·.name != x.name) ++ (({ x with receiver := next } : Link).registration d).toList := by
  -- where the link is not registered there is nothing to take away
  have hapart : x.registration d = none →
      b.registry.publishers d = (b.registry.publishers d).filter (·.name != x.name) := fun apart =>
    (List.filter_eq_self.2 fun p hp => bne_iff_ne.2 fun name => by simpa [apart] using own p hp name).symm
  have hleft : ∀ old, x.receiver = some old →
      (b.unregister x.name old).registry.publishers d = (b.registry.publishers d).filter (·.name != x.name) := by
    intro old hold
    rw [publishers_unregister]
    split
    · rfl
    · rename_i apart
      exact hapart (by simp [Link.registration, hold, apart])
  -- and once it is taken away the link can be put wherever it goes
  have hput : ∀ (b' : Broker) r, next = some r → b'.registry.publishers d =
      (b.registry.publishers d).filter (·.name != x.name) →
      ((b.registry.get? d).isSome = true → (b'.registry.get? d).isSome = true) →
      (b'.register x.name r).registry.publishers d = (b.registry.publishers d).filter (·.name != x.name) ++
        (({ x with receiver := some r } : Link).registration d).toList := by
    intro b' r hr hb' hknown
    rw [publishers_register (fun hd => hknown (known r hr hd)) fun p hp => ?_, hb']
    · refine congrArg _ ?_
      simp only [Link.registration, Option.bind_some]
      split <;> rfl
    · rw [hb'] at hp
      exact bne_iff_ne.1 (List.mem_filter.1 hp).2
  unfold setReceiver
  simp only [hl, other, Bool.false_eq_true, if_false]
  cases hold : x.receiver with
  | none =>
    cases next with
    | none => simp [sameReceiver, hold] at other
    | some r => exact hput b r rfl (hapart (by simp [Link.registration, hold])) id
  | some old =>
    cases next with
    | none => exact (hleft old hold).trans (List.append_nil _).symm
    | some r =>
      refine hput _ r rfl (hleft old hold) fun hd => ?_
      obtain ⟨y, hy⟩ := Option.isSome_iff_exists.1 hd
      obtain ⟨y', hy', -⟩ := (serves_unregister b x.name old).same d y hy
      rw [hy']
      rfl

/-- A link has its name and its receiver yet, and so far all registrations are as they were. -/
structure Readies (b : Broker) (l : LinkId) (x x₁ : Link) (b₁ : Broker) : Prop where
  turns : Turns b l x₁ b₁
  name : x₁.name = x.name
  receiver : x₁.receiver = x.receiver
  posts : b.registry.Posts b₁.registry

/-- **An operation hands a link a receiver**, or none, once; nothing else that it does is about receivers and
registrations. -/
structure Hands (b : Broker) (l : LinkId) (x : Link) (next : Option Receiver) (b' : Broker) : Prop where
  link : ∃ y, Turns b l y b' ∧ y.name = x.name ∧
    y.receiver = if sameReceiver x.receiver next then x.receiver else next
  handed : ∃ b₁ x₁, Readies b l x x₁ b₁ ∧
    (∀ r d, next = some r → r.node? = some d → (b₁.registry.get? d).isSome = true) ∧
    (b₁.setReceiver l next).registry.Posts b'.registry

theorem Readies.start (hl : b.link? l = some x) : Readies b l x x b := ⟨.start hl, rfl, rfl, .refl _⟩

namespace Readies

theorem modify (h : Readies b l x x₁ b₁) {f : Link → Link} (name : (f x₁).name = x₁.name)
    (receiver : (f x₁).receiver = x₁.receiver) : Readies b l x (f x₁) (b₁.modifyLink l f) :=
  ⟨h.turns.modify f, name.trans h.name, receiver.trans h.receiver, h.posts⟩

theorem note (h : Readies b l x x₁ b₁) (n : Notice) : Readies b l x x₁ (b₁.note n) :=
  ⟨h.turns.note n, h.name, h.receiver, h.posts⟩

/-- What is left of a link that gives its receiver up. -/
theorem receiver_none (x : Link) : none = if sameReceiver x.receiver none then x.receiver else none := by
  cases h : x.receiver <;> simp [sameReceiver]

theorem teardown (h : Readies b l x x₁ b₁) (how : LinkEnd) : Hands b l x none (b₁.teardown l how) := by
  refine ⟨⟨_, h.turns.teardown how, h.name, receiver_none x⟩, b₁, x₁, h, fun r d hr => (by cases hr), ?_⟩
  unfold Broker.teardown
  rw [h.turns.link?]
  exact posts_dropDynamicNode _ l

theorem suspend (h : Readies b l x x₁ b₁) : Hands b l x none (b₁.suspend l) := by
  refine ⟨⟨_, h.turns.suspend, h.name, receiver_none x⟩, b₁, x₁, h, fun r d hr => (by cases hr), ?_⟩
  unfold Broker.suspend
  rw [h.turns.link?]
  exact .refl _

theorem failAttach (h : Readies b l x x₁ b₁) (link : Link) {e : LinkError} (fatal : e.isFatal = true) :
    Hands b l x none (b₁.failAttach l link e).1 := by
  unfold Broker.failAttach
  simp only [fatal, if_true]
  exact (h.note _).teardown .destroyed

theorem completeAttach (h : Readies b l x x₁ b₁) (link : Link) (a : Attach) (requested : Target) {r : Receiver}
    (final : Target) (known : ∀ d, r.node? = some d → (b₁.registry.get? d).isSome = true) :
    Hands b l x (some r) (b₁.completeAttach l link a requested r final) := by
  have h1 := h.modify (f := fun x => { x with capabilities := grantedCapabilities requested r }) rfl rfl
  have hsame := registry_reconcile (b₁.modifyLink l fun x => { x with capabilities := grantedCapabilities requested r })
    l link a
  obtain ⟨u, turns⟩ := h1.turns.reconcile link a
  obtain ⟨u', hdone⟩ := h.turns.completeAttach link a requested r final
  refine ⟨⟨_, hdone, h.name, ?_⟩, _, _, ⟨turns, h.name, h.receiver, by rw [hsame]; exact h.posts⟩,
    fun r' d hr hd => ?_, .refl _⟩
  · show (if sameReceiver x₁.receiver (some r) then x₁.receiver else some r) = _
    rw [h.receiver]
  · cases hr
    rw [hsame]
    exact known d hd

end Readies

theorem hands_attachReceived (hl : b.link? l = some x) (consistent : b.registry.Consistent) (source : Option Source)
    (a : Attach) : ∃ next, Hands b l x next (b.attachReceived l x source a).1 := by
  have h := (Readies.start hl).modify (f := fun x => { x with
    source := source <|> x.source, state := .attaching, settleMode := a.settleMode <|> x.settings.settleMode }) rfl rfl
  unfold attachReceived
  simp only
  cases asked : attachTarget x a with
  | error e => exact ⟨none, h.failAttach x rfl⟩
  | ok target =>
    have hfinds := finds_receiver h.turns x rfl target
    have hposts := posts_receiverFor (b.modifyLink l fun x => { x with
      source := source <|> x.source, state := .attaching, settleMode := a.settleMode <|> x.settings.settleMode }) l x target
    have hupholds := (linkSteps_upholds.receiverFor (b.modifyLink l fun x => { x with
      source := source <|> x.source, state := .attaching, settleMode := a.settleMode <|> x.settings.settleMode })
      l x target).1
    simp only
    generalize receiverFor _ l x target = o at hfinds hposts hupholds ⊢
    cases hfinds with
    | @missed b' e turns =>
      have ready : Readies b l x _ b' := ⟨turns, rfl, rfl, hposts⟩
      exact ⟨none, ready.failAttach x rfl⟩
    | @found b' own r final turns fresh counted fits =>
      have ready : Readies b l x _ b' := ⟨turns, rfl, rfl, hposts⟩
      exact ⟨some r, ready.completeAttach x a target final fun d => fits.known (hupholds.consistent consistent)⟩

theorem hands_detach (hl : b.link? l = some x) (request : Option Detach) :
    Hands b l x none (b.detach l request).1 := by
  have h := (Readies.start hl).modify (f := fun x => { x with state := .detaching }) rfl rfl
  unfold detach
  simp only [hl]
  split
  · exact h.teardown .closed
  · exact h.teardown .destroyed
  · exact h.suspend

theorem hands_destroy (hl : b.link? l = some x) : Hands b l x none (b.destroy l) := (Readies.start hl).teardown .destroyed

section Attaching

variable (hl : b.link? l = some x) (consistent : b.registry.Consistent) (a : Attach)

include hl consistent

theorem hands_establish : ∃ next, Hands b l x next (b.establish l x a).1 := by
  unfold establish
  split
  · exact ⟨none, (Readies.start hl).failAttach x rfl⟩
  · exact hands_attachReceived hl consistent _ a

theorem hands_resume : ∃ next, Hands b l x next (b.resume l x a).1 := by
  unfold resume
  split
  · exact ⟨none, (Readies.start hl).failAttach x rfl⟩
  split
  · exact ⟨none, (Readies.start hl).failAttach x rfl⟩
  split
  · exact ⟨none, (Readies.start hl).failAttach x rfl⟩
  · exact hands_attachReceived hl consistent _ a

theorem hands_reattach : ∃ next, Hands b l x next (b.reattach l x a).1 := by
  unfold reattach
  split
  · exact ⟨none, (Readies.start hl).failAttach x rfl⟩
  · exact hands_attachReceived hl consistent _ a

theorem hands_recover : ∃ next, Hands b l x next (b.recover l x a).1 := by
  unfold recover
  split
  · exact ⟨none, (Readies.start hl).failAttach x rfl⟩
  · exact hands_attachReceived hl consistent _ a

/-- An attach that is not turned away at once hands the link a receiver, or none. -/
theorem hands_attach (unattached : x.state = .unattached) : ∃ next, Hands b l x next (b.attach l x a).1 := by
  unfold attach
  rw [if_neg (by simp [unattached])]
  split
  · exact hands_recover hl consistent a
  split
  · exact hands_establish hl consistent a
  · exact hands_resume hl consistent a

end Attaching

/-- **What an operation that hands a link another receiver makes of the registrations at a destination.** -/
theorem Hands.publishers (h : Hands b l x next b') {y : Link} (hy : b'.link? l = some y)
    (other : sameReceiver x.receiver next = false) {d : DestinationId}
    (own : ∀ p ∈ b.registry.publishers d, p.name = x.name → (x.registration d).isSome = true) :
    b'.registry.publishers d = (b.registry.publishers d).filter (·.name != x.name) ++ (y.registration d).toList := by
  obtain ⟨z, turns, name, receiver⟩ := h.link
  rw [turns.link?] at hy
  cases hy
  obtain ⟨b₁, x₁, ready, known, posts⟩ := h.handed
  have hregistration : ∀ v v' : Link, v.name = v'.name → v.receiver = v'.receiver →
      v.registration d = v'.registration d := fun v v' hname hreceiver => by
    unfold Link.registration
    rw [hname, hreceiver]
  have hset := publishers_setReceiver (d := d) ready.turns.link? (by rwa [ready.receiver]) (fun r hr => known r d hr)
    fun p hp hname => by
      rw [ready.posts.publishers] at hp
      rw [hregistration x₁ x ready.name ready.receiver]
      exact own p hp (hname.trans ready.name)
  rw [posts.publishers, hset, ready.posts.publishers, ready.name]
  refine congrArg _ (congrArg _ (hregistration _ y name.symm ?_))
  rw [receiver, other]
  rfl

end Broker
end MessageBroker
