import MessageBroker.Proofs.Broker.Settling
import MessageBroker.Proofs.Registry.Nodes
import MessageBroker.Proofs.Routing.Serving
/-!
# What becomes of one link

Attaching, detaching and destroying is each about one link.  What such an operation makes of it is told as a whole
(`Turns`), and all other links stay as they are.  An attach that fails, like a detach that is not answered `suspended`,
leaves nothing of the link but its name, its settings and its receiver's end (`ended`); one that goes through leaves it
attached under the target that was granted (`AttachEnds`).
-/
namespace MessageBroker

/-- A link that is torn down. -/
def Link.ended (x : Link) : Link := Broker.clearLink { x with receiver := none, dynamicNode := none }

/-- A link that is suspended. -/
def Link.suspended (x : Link) : Link := { x with receiver := none, credit := 0, state := .unattached }

/-- A link of which an attach comes in: with the source and the settle mode that it asks for. -/
def Link.asked (x : Link) (source : Option Source) (a : Attach) : Link :=
  { x with source := source <|> x.source, settleMode := a.settleMode <|> x.settings.settleMode }

/-- A target with the capabilities that it is granted. -/
def Target.granted (final requested : Target) (r : Receiver) : Target :=
  let capabilities := Broker.grantedCapabilities requested r
  { final with capabilities := if capabilities.isEmpty then none else some capabilities }

/-- A link that is attached to a receiver, with what it is granted of a requested target. -/
def Link.granted (x : Link) (requested final : Target) (r : Receiver) : Link :=
  { x with
    capabilities := Broker.grantedCapabilities requested r
    target := some (final.granted requested r)
    receiver := if Broker.sameReceiver x.receiver (some r) then x.receiver else some r
    state := .attached }

namespace Broker

/-- What was done since `b` has made `x` of a link, and has left every other one alone. -/
structure Turns (b : Broker) (l : LinkId) (x : Link) (b' : Broker) : Prop where
  found : l < b.links.length
  links : b'.links = b.links.set l x
  receivers : b.receivers ≤ b'.receivers

variable {b b' b'' : Broker} {l : LinkId} {x : Link}

/-- Every link is left alone. -/
structure Skips (b b' : Broker) : Prop where
  links : b'.links = b.links
  receivers : b.receivers ≤ b'.receivers

theorem Skips.trans (h : Skips b b') (h' : Skips b' b'') : Skips b b'' :=
  ⟨h'.links.trans h.links, Nat.le_trans h.receivers h'.receivers⟩

theorem skips_note (b : Broker) (n : Notice) : Skips b (b.note n) := ⟨rfl, Nat.le_refl _⟩

theorem skips_newReceiver (b : Broker) (address : String) (credit : Nat) (kind : Receiver.Kind) :
    Skips b (b.newReceiver address credit kind).1 := ⟨rfl, Nat.le_succ _⟩

theorem Administered.skips (h : Administered b b') : Skips b b' := by
  cases h <;> exact ⟨rfl, Nat.le_refl _⟩

theorem skips_createDynamic (b : Broker) (name : String) : Skips b (b.createDynamic name).1 := by
  have h := (administered_createQueue b { name := b.registry.nextDynamicName name }).skips
  unfold createDynamic
  split <;> (rename_i heq; rw [heq] at h; exact ⟨h.links, h.receivers⟩)

theorem skips_deleteDynamic (b : Broker) (name : String) : Skips b (b.deleteDynamic name).1 := by
  have h := (administered_delete b name false).skips
  unfold deleteDynamic
  split <;> (rename_i heq; rwa [heq] at h)

theorem skips_register (b : Broker) (name : String) (r : Receiver) : Skips b (b.register name r) := by
  unfold register linkAdded
  split
  · exact ⟨rfl, Nat.le_refl _⟩
  · split <;> exact ⟨rfl, Nat.le_refl _⟩

theorem skips_unregister (b : Broker) (name : String) (r : Receiver) : Skips b (b.unregister name r) := by
  unfold unregister linkRemoved
  split
  · exact ⟨rfl, Nat.le_refl _⟩
  · split <;> exact ⟨rfl, Nat.le_refl _⟩

namespace Turns

theorem start (hl : b.link? l = some x) : Turns b l x b := by
  obtain ⟨hlt, hx⟩ := List.getElem?_eq_some_iff.1 hl
  exact ⟨hlt, by rw [← hx, List.set_getElem_self], Nat.le_refl _⟩

theorem link? (h : Turns b l x b') : b'.link? l = some x := by
  unfold Broker.link?
  rw [h.links, List.getElem?_set_self h.found]

theorem other (h : Turns b l x b') {k : LinkId} (hk : k ≠ l) : b'.link? k = b.link? k := by
  unfold Broker.link?
  rw [h.links, List.getElem?_set_ne hk.symm]

theorem skips (h : Turns b l x b') (h' : Skips b' b'') : Turns b l x b'' :=
  ⟨h.found, h'.links.trans h.links, Nat.le_trans h.receivers h'.receivers⟩

theorem note (h : Turns b l x b') (n : Notice) : Turns b l x (b'.note n) := h.skips (skips_note b' n)

theorem modify (h : Turns b l x b') (f : Link → Link) : Turns b l (f x) (b'.modifyLink l f) := by
  refine ⟨h.found, List.ext_getElem? fun i => ?_, h.receivers⟩
  unfold modifyLink
  simp only [List.getElem?_modify, h.links]
  by_cases hi : l = i
  · subst hi
    rw [List.getElem?_set_self h.found, List.getElem?_set_self h.found]
    simp
  · rw [List.getElem?_set_ne hi, List.getElem?_set_ne hi]
    simp [hi]

/-- Which receiver a link has after it is handed one. -/
theorem setReceiver (h : Turns b l x b') (next : Option Receiver) :
    Turns b l { x with receiver := if sameReceiver x.receiver next then x.receiver else next } (b'.setReceiver l next) := by
  unfold Broker.setReceiver
  rw [h.link?]
  simp only
  split
  · exact h
  · refine ((h.skips ?_).note _).modify fun x => { x with receiver := next }
    cases x.receiver with
    | none =>
      cases next with
      | none => exact ⟨rfl, Nat.le_refl _⟩
      | some r => exact skips_register b' x.name r
    | some old =>
      cases next with
      | none => exact skips_unregister b' x.name old
      | some r => exact (skips_unregister b' x.name old).trans (skips_register _ x.name r)

/-- A link that gives its receiver up. -/
theorem setReceiver_none (h : Turns b l x b') : Turns b l { x with receiver := none } (b'.setReceiver l none) := by
  have h' := h.setReceiver none
  cases hr : x.receiver with
  | none => simpa [sameReceiver, hr] using h'
  | some r => simpa [sameReceiver, hr] using h'

theorem dropDynamicNode (h : Turns b l x b') : Turns b l { x with dynamicNode := none } (b'.dropDynamicNode l) := by
  unfold Broker.dropDynamicNode
  rw [h.link?]
  cases hnode : x.dynamicNode with
  | none =>
    have hx : { x with dynamicNode := none } = x := by rw [← hnode]
    simpa only [hnode, hx] using h
  | some node =>
    have h1 := h.modify fun x => { x with dynamicNode := none }
    have h2 := h1.skips (skips_deleteDynamic _ node)
    simp only [hnode]
    split <;> (rename_i heq; rw [heq] at h2; exact h2.note _)

/-- **A link that is torn down** is left with nothing that belongs to being attached. -/
theorem teardown (h : Turns b l x b') (how : LinkEnd) : Turns b l x.ended (b'.teardown l how) := by
  unfold Broker.teardown
  rw [h.link?]
  exact (h.setReceiver_none.dropDynamicNode.modify clearLink).note _

/-- **A link that is suspended** keeps its termini. -/
theorem suspend (h : Turns b l x b') : Turns b l x.suspended (b'.suspend l) := by
  unfold Broker.suspend
  rw [h.link?]
  exact (h.setReceiver_none.modify fun x => { x with credit := 0, state := .unattached }).note _

end Turns

/-- A detach suspends a link, or tears it down. -/
theorem turns_detach (hl : b.link? l = some x) (request : Option Detach) :
    Turns b l (if detachOutcome b.session x request = .suspended then x.suspended else x.ended) (b.detach l request).1 ∧
      (b.detach l request).2 = detachOutcome b.session x request := by
  have h := (Turns.start hl).modify fun x => { x with state := .detaching }
  have hsession : (b.modifyLink l fun x => { x with state := .detaching }).session = b.session := rfl
  unfold detach
  simp only [hl, hsession]
  cases detachOutcome b.session x request with
  | closed => exact ⟨h.teardown .closed, rfl⟩
  | destroyed => exact ⟨h.teardown .destroyed, rfl⟩
  | suspended => exact ⟨h.suspend, rfl⟩

/-! ## The receiver for a target -/

/-- **A receiver that leads where a target does**, for a link that has this node of its own, and the target with the
address that it has in the end. -/
inductive Fits (g : Registry) (settings : LinkSettings) (own : Option String) (target : Target) :
    Receiver → Target → Prop where
  | dynamic {serial : Nat} {node address : String} {resolved : Resolved} {discards : Bool}
      (asked : target.dynamic = true) (owned : own = some node) (found : g.resolve node = some resolved)
      (named : g.nameOf resolved.destination = address)
      (told : target.hasCapability Target.discardUnroutable = discards) :
      Fits g settings own target
        ⟨serial, address, settings.defaultCredit, .node resolved.destination resolved.key discards⟩
        { target with address := some address }
  | relay {serial : Nat} {discards : Bool} (unasked : target.dynamic = false) (anywhere : target.address.getD "" = "")
      (told : target.hasCapability Target.discardUnroutable = discards) :
      Fits g settings own target ⟨serial, "", settings.defaultCredit, .relay discards⟩ target
  | node {serial : Nat} {address : String} {resolved : Resolved} {discards : Bool} (unasked : target.dynamic = false)
      (named : target.address = some address) (somewhere : address ≠ "") (found : g.resolve address = some resolved)
      (told : target.hasCapability Target.discardUnroutable = discards) :
      Fits g settings own target
        ⟨serial, address, settings.defaultCredit, .node resolved.destination resolved.key discards⟩ target

theorem Fits.of_guides {g g' : Registry} {settings : LinkSettings} {own : Option String} {target final : Target}
    {r : Receiver} (h : Fits g settings own target r final) (guides : g.Guides g') :
    Fits g' settings own target r final := by
  cases h with
  | @dynamic serial node address resolved discards asked owned found named told =>
    exact .dynamic asked owned ((guides.resolve node).trans found) ((guides.nameOf _).trans named) told
  | relay unasked anywhere told => exact .relay unasked anywhere told
  | @node serial address resolved discards unasked named somewhere found told =>
    exact .node unasked named somewhere ((guides.resolve address).trans found) told

/-- **A node can always be made for a link.** -/
theorem createDynamic_eq (b : Broker) (name : String) : ∃ b',
    b.createDynamic name = (b', .ok ⟨b.registry.destinations.length, none⟩) ∧
      (b.registry.withNode name).Serves b'.registry ∧
      b'.registry.nameOf b.registry.destinations.length = b.registry.nextDynamicName name ∧
      b'.registry.resolve (b.registry.nextDynamicName name) = some ⟨b.registry.destinations.length, none⟩ := by
  let fresh := b.registry.nextDynamicName name
  let queue : Destination := .newQueue fresh false b.registry.settings.queueCapacity none
  have hfree : b.registry.lookup fresh = none := b.registry.lookup_freshName _
  have hmade : b.registry.createQueue { name := fresh } = .ok (b.registry.add queue) := by
    unfold Registry.createQueue
    simp only [hfree]
    rfl
  have hget : (b.registry.add queue).1.get? b.registry.destinations.length = some queue := by
    rw [Registry.get?_add, if_pos rfl]
  have hlookup : (b.registry.add queue).1.lookup fresh = some b.registry.destinations.length := by
    rw [Registry.lookup_add]
    exact if_pos rfl
  have hadded : (b.registry.add queue).2 = b.registry.destinations.length := rfl
  unfold createDynamic createQueue
  simp only [fresh] at hmade
  simp only [hmade, created, hadded, hget]
  refine ⟨_, rfl, Registry.serves_dynamicNodes _ _, ?_, ?_⟩
  · have hname : (b.registry.add queue).1.nameOf b.registry.destinations.length = fresh := by
      unfold Registry.nameOf
      rw [hget]
      rfl
    exact hname
  · have hresolve : (b.registry.add queue).1.resolve fresh = some ⟨b.registry.destinations.length, none⟩ := by
      unfold Registry.resolve
      rw [hlookup]
    exact hresolve

/-- **How a receiver is looked for**: where there is none, the link is as it was, and so is the registry `g`. -/
inductive Finds (b : Broker) (l : LinkId) (x : Link) (link : Link) (g : Registry) (target : Target) :
    Broker × Except ProtocolError (Receiver × Target) → Prop where
  | missed {b' : Broker} {e : ProtocolError} (turns : Turns b l x b') (same : b'.registry = g) :
      Finds b l x link g target (b', .error e)
  | found {b' : Broker} {own : Option String} {r : Receiver} {final : Target}
      (turns : Turns b l { x with dynamicNode := own } b') (fresh : b.receivers ≤ r.serial)
      (counted : r.serial < b'.receivers) (fits : Fits b'.registry link.settings own target r final)
      (tends : g.Tends link.name link.dynamicNode b'.registry own) : Finds b l x link g target (b', .ok (r, final))

theorem finds_receiver (h : Turns b l x b') (link : Link) (same : link.dynamicNode = x.dynamicNode) (target : Target) :
    Finds b l x link b'.registry target (b'.receiverFor l link target) := by
  -- a link that has its node keeps it
  have hkept : Turns b l { x with dynamicNode := link.dynamicNode } b' := by rwa [same]
  unfold receiverFor
  simp only
  split
  · rename_i asked
    unfold dynamicNode
    cases hnode : link.dynamicNode.bind b'.registry.resolve with
    | some resolved =>
      obtain ⟨node, owned, found⟩ := Option.bind_eq_some_iff.1 hnode
      exact .found (hkept.skips (skips_newReceiver b' _ _ _)) h.receivers (Nat.lt_succ_self _)
        (.dynamic asked owned found rfl rfl) (.kept (.refl _))
    | none =>
      have h1 := skips_createDynamic b' link.name
      obtain ⟨b'', heq, serves, named, found⟩ := b'.createDynamic_eq link.name
      rw [heq] at h1
      have h2 := (h.skips h1).modify fun x => { x with dynamicNode := some (b'.registry.nextDynamicName link.name) }
      simp only [heq, named]
      exact .found (h2.skips (skips_newReceiver _ _ _ _)) h2.receivers (Nat.lt_succ_self _)
        (.dynamic asked rfl found rfl rfl) (.made hnode serves)
  · rename_i asked
    have unasked : target.dynamic = false := Bool.eq_false_iff.2 asked
    have hcounted := fun address credit kind => hkept.skips (skips_newReceiver b' address credit kind)
    split
    · rename_i anywhere
      exact .found (hcounted _ _ _) h.receivers (Nat.lt_succ_self _) (.relay unasked (by rw [anywhere]; rfl) rfl)
        (.kept (.refl _))
    · rename_i anywhere
      exact .found (hcounted _ _ _) h.receivers (Nat.lt_succ_self _) (.relay unasked (by rw [anywhere]; rfl) rfl)
        (.kept (.refl _))
    · rename_i address somewhere named
      cases found : b'.registry.resolve address with
      | none => exact .missed h rfl
      | some resolved =>
        exact .found (hcounted _ _ _) h.receivers (Nat.lt_succ_self _)
          (.node unasked named somewhere found rfl) (.kept (.refl _))

/-! ## Attaching -/

theorem serves_register (b : Broker) (name : String) (r : Receiver) :
    b.registry.Serves (b.register name r).registry := by
  unfold register linkAdded
  split
  · exact .refl _
  split
  · exact .refl _
  · rename_i d _ _ x hx
    obtain ⟨links, heq⟩ : ∃ links, (x.linkAdded ⟨name, some r.address⟩).2 = { x with links } := by
      unfold Destination.linkAdded
      split
      · exact ⟨x.links, rfl⟩
      · exact ⟨_, rfl⟩
    simp only [heq]
    exact .modify_links hx links

theorem serves_unregister (b : Broker) (name : String) (r : Receiver) :
    b.registry.Serves (b.unregister name r).registry := by
  unfold unregister linkRemoved
  split
  · exact .refl _
  split
  · exact .refl _
  · rename_i x hx
    exact .modify_links hx _

/-- **Handing a link another receiver** leads no address and no message to another place. -/
theorem serves_setReceiver (b : Broker) (l : LinkId) (next : Option Receiver) :
    b.registry.Serves (b.setReceiver l next).registry := by
  unfold setReceiver
  split
  · exact .refl _
  rename_i link _
  split
  · exact .refl _
  simp only [modifyLink, note]
  cases link.receiver with
  | none =>
    cases next with
    | none => exact .refl _
    | some r => exact serves_register b link.name r
  | some old =>
    cases next with
    | none => exact serves_unregister b link.name old
    | some r => exact (serves_unregister b link.name old).trans (serves_register _ link.name r)

theorem registry_reconcile (b : Broker) (l : LinkId) (link : Link) (a : Attach) :
    (b.reconcile l link a).registry = b.registry := by
  unfold reconcile
  split
  · rfl
  · simp only
    split <;> rfl

theorem serves_completeAttach (b : Broker) (l : LinkId) (link : Link) (a : Attach) (requested : Target) (r : Receiver)
    (final : Target) : b.registry.Serves (b.completeAttach l link a requested r final).registry := by
  unfold completeAttach
  simp only [note, modifyLink]
  have h := serves_setReceiver (reconcile (b.modifyLink l fun x =>
    { x with capabilities := grantedCapabilities requested r }) l link a) l (some r)
  rwa [registry_reconcile] at h

theorem Turns.reconcile (h : Turns b l x b') (link : Link) (a : Attach) :
    ∃ u, Turns b l { x with unsettled := u } (b'.reconcile l link a) := by
  unfold Broker.reconcile
  split
  · exact ⟨x.unsettled, h⟩
  · have h1 := h.modify fun x => { x with unsettled := link.unsettled.retain (a.unsettled.getD []) }
    refine ⟨link.unsettled.retain (a.unsettled.getD []), ?_⟩
    simp only
    split
    · exact h1
    · exact h1.note _

/-- **A link is attached to the receiver that was found**, and granted what it may have of its target. -/
theorem Turns.completeAttach (h : Turns b l x b') (link : Link) (a : Attach) (requested : Target) (r : Receiver)
    (final : Target) :
    ∃ u, Turns b l { x.granted requested final r with unsettled := u } (b'.completeAttach l link a requested r final) := by
  have h1 := h.modify fun x => { x with capabilities := grantedCapabilities requested r }
  obtain ⟨u, h2⟩ := h1.reconcile link a
  refine ⟨u, ?_⟩
  unfold Broker.completeAttach
  exact ((h2.setReceiver (some r)).modify fun x =>
    { x with target := some (final.granted requested r), state := .attached }).note _

/-- **A link that is torn down drops its node.** -/
theorem Turns.tends_teardown (h : Turns b l x b') (link : String) (how : LinkEnd) :
    b'.registry.Tends link x.dynamicNode (b'.teardown l how).registry none := by
  have serves := serves_setReceiver b' l none
  have upholds : Upholds b' (b'.setReceiver l none) := linkSteps_upholds.setReceiver b' l fun r hr => nomatch hr
  refine .dropped serves upholds.consistent ?_
  unfold Broker.teardown Broker.dropDynamicNode
  rw [h.link?, h.setReceiver_none.link?]
  cases hnode : x.dynamicNode with
  | none => exact .refl _
  | some node =>
    unfold deleteDynamic delete Registry.dropNode
    simp only [modifyLink]
    cases (b'.setReceiver l none).registry.delete node false with
    | error e => exact .refl _
    | ok z => exact .refl _

/-- A link that is suspended keeps its node. -/
theorem Turns.serves_suspend (h : Turns b l x b') : b'.registry.Serves (b'.suspend l).registry := by
  unfold Broker.suspend
  rw [h.link?]
  exact serves_setReceiver b' l none

theorem tends_detach (hl : b.link? l = some x) (request : Option Detach) :
    ∃ y, (b.detach l request).1.link? l = some y ∧
      b.registry.Tends x.name x.dynamicNode (b.detach l request).1.registry y.dynamicNode ∧
      b.registry.since (b.detach l request).1.registry = [] := by
  have h := (Turns.start hl).modify fun x => { x with state := .detaching }
  have htorn : ∀ how, b.registry.Tends x.name x.dynamicNode
      ((b.modifyLink l fun x => { x with state := .detaching }).teardown l how).registry none :=
    h.tends_teardown x.name
  unfold detach
  simp only [hl]
  split
  · exact ⟨_, (h.teardown .closed).link?, htorn .closed, (htorn .closed).since_of_none⟩
  · exact ⟨_, (h.teardown .destroyed).link?, htorn .destroyed, (htorn .destroyed).since_of_none⟩
  · exact ⟨_, h.suspend.link?, .kept h.serves_suspend, Registry.since_of_length h.serves_suspend.length⟩

/-- **How an attach ends** that is not turned away at once: it fails and tears the link down, or goes through. -/
inductive AttachEnds (b : Broker) (l : LinkId) (link : Link) (source : Option Source) (a : Attach) :
    Broker × Except LinkError Unit → Prop where
  | failed {b' : Broker} {e : LinkError} {x : Link} (turns : Turns b l x.ended b') (name : x.name = link.name)
      (tends : b.registry.Tends link.name link.dynamicNode b'.registry none) :
      AttachEnds b l link source a (b', .error e)
  | attached {b' : Broker} {own : Option String} {u : Unsettled} {target final : Target} {r : Receiver}
      (asked : attachTarget link a = .ok target) (fresh : b.receivers ≤ r.serial) (counted : r.serial < b'.receivers)
      (fits : Fits b'.registry link.settings own target r final)
      (turns : Turns b l
        { ({ link.asked source a with dynamicNode := own }).granted target final r with unsettled := u } b')
      (tends : b.registry.Tends link.name link.dynamicNode b'.registry own) :
      AttachEnds b l link source a (b', .ok ())

theorem attachEnds_failAttach (h : Turns b l x b') (link : Link) (source : Option Source) (a : Attach)
    (name : x.name = link.name) (own : x.dynamicNode = link.dynamicNode) (same : b'.registry = b.registry)
    {e : LinkError} (fatal : e.isFatal = true) : AttachEnds b l link source a (b'.failAttach l link e) := by
  have tends := (h.note (.attachFailed link.name e.message)).tends_teardown link.name .destroyed
  rw [own] at tends
  unfold failAttach
  simp only [fatal, if_true]
  refine .failed ((h.note _).teardown .destroyed) name ?_
  rw [← same]
  exact tends

theorem attachEnds_attachReceived {link : Link} (hl : b.link? l = some link) (source : Option Source) (a : Attach) :
    AttachEnds b l link source a (b.attachReceived l link source a) := by
  have h := (Turns.start hl).modify fun x => { x with
    source := source <|> x.source, state := .attaching, settleMode := a.settleMode <|> x.settings.settleMode }
  unfold attachReceived
  simp only
  cases asked : attachTarget link a with
  | error e => exact attachEnds_failAttach h link source a rfl rfl rfl rfl
  | ok target =>
    have hfinds := finds_receiver h link rfl target
    simp only
    generalize receiverFor _ l link target = o at hfinds ⊢
    cases hfinds with
    | missed turns same => exact attachEnds_failAttach turns link source a rfl rfl same rfl
    | @found b' own r final turns fresh counted fits tends =>
      obtain ⟨u, hdone⟩ := turns.completeAttach link a target r final
      obtain ⟨u', hlater⟩ := (Turns.start turns.link?).completeAttach link a target r final
      have hserves := serves_completeAttach b' l link a target r final
      exact .attached asked fresh (Nat.lt_of_lt_of_le counted hlater.receivers) (fits.of_guides hserves.guides) hdone
        (tends.serves hserves)

theorem AttachEnds.turns {link : Link} {source : Option Source} {a : Attach} {o : Broker × Except LinkError Unit}
    (h : AttachEnds b l link source a o) : ∃ x, Turns b l x o.1 := by
  cases h with
  | failed turns => exact ⟨_, turns⟩
  | attached asked fresh counted fits turns => exact ⟨_, turns⟩

/-- What is made of the link's node, and the name that the link has recorded in the end. -/
theorem AttachEnds.tends {link : Link} {source : Option Source} {a : Attach} {o : Broker × Except LinkError Unit}
    (h : AttachEnds b l link source a o) :
    ∃ y, o.1.link? l = some y ∧ b.registry.Tends link.name link.dynamicNode o.1.registry y.dynamicNode := by
  cases h with
  | failed turns name tends => exact ⟨_, turns.link?, tends⟩
  | attached asked fresh counted fits turns tends => exact ⟨_, turns.link?, tends⟩

section Attaching

variable {link : Link} (hl : b.link? l = some link) (a : Attach)

include hl

theorem attachEnds_establish : AttachEnds b l link (some (a.source.getD {})) a (b.establish l link a) := by
  unfold establish
  split
  · exact attachEnds_failAttach (.start hl) link _ a rfl rfl rfl rfl
  · exact attachEnds_attachReceived hl _ a

theorem attachEnds_resume : AttachEnds b l link a.source a (b.resume l link a) := by
  unfold resume
  split
  · exact attachEnds_failAttach (.start hl) link _ a rfl rfl rfl rfl
  split
  · exact attachEnds_failAttach (.start hl) link _ a rfl rfl rfl rfl
  split
  · exact attachEnds_failAttach (.start hl) link _ a rfl rfl rfl rfl
  · exact attachEnds_attachReceived hl _ a

theorem attachEnds_reattach : AttachEnds b l link a.source a (b.reattach l link a) := by
  unfold reattach
  split
  · exact attachEnds_failAttach (.start hl) link _ a rfl rfl rfl rfl
  · exact attachEnds_attachReceived hl _ a

theorem attachEnds_recover : AttachEnds b l link a.source a (b.recover l link a) := by
  unfold recover
  split
  · exact attachEnds_failAttach (.start hl) link _ a rfl rfl rfl rfl
  · exact attachEnds_attachReceived hl _ a

theorem attachEnds_attach (unattached : link.state = .unattached) :
    ∃ source, AttachEnds b l link source a (b.attach l link a) := by
  unfold attach
  rw [if_neg (by simp [unattached])]
  split
  · exact ⟨_, attachEnds_recover hl a⟩
  split
  · exact ⟨_, attachEnds_establish hl a⟩
  · exact ⟨_, attachEnds_resume hl a⟩

end Attaching
end Broker
end MessageBroker
