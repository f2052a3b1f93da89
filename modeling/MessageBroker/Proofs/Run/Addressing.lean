import MessageBroker.Proofs.Broker.Recovering
import MessageBroker.Proofs.Run.Evolving
import MessageBroker.Proofs.Run.Owning
/-!
# Exchanges under their addresses

An address that is no destination's name is taken apart at its first slash, into the name of an exchange and a routing
key.  So an exchange whose name has no slash can be addressed with every key, unless a destination bears the address for
its name, and what is sent there goes the way that the exchange routes it under that key (`leads_of_evolves`).  A slash in
the name of an exchange makes the address one of another exchange, or of none.
-/
namespace MessageBroker

theorem length_join (front rest : String) : (front ++ "/" ++ rest).length = front.length + 1 + rest.length := by
  rw [String.length_append, String.length_append]
  rfl

/-- **An address comes apart at its first slash.** -/
theorem splitAddress_join {front : String} (plain : '/' ∉ front.toList) (rest : String) :
    splitAddress (front ++ "/" ++ rest) = some (front, rest) := by
  have hfront : ∀ c ∈ front.toList, (c != '/') = true := fun c hc => bne_iff_ne.2 fun h => plain (h ▸ hc)
  have hchars : (front ++ "/" ++ rest).toList = front.toList ++ '/' :: rest.toList := by
    simp [String.toList_append]
  unfold splitAddress
  simp only [hchars, List.dropWhile_append_of_pos hfront, List.takeWhile_append_of_pos hfront]
  simp

namespace Registry

variable {r : Registry} {e : DestinationId} {x : Destination}

/-- Where an address leads that is no destination's name. -/
theorem resolve_join {front rest : String} (plain : '/' ∉ front.toList) (free : r.lookup (front ++ "/" ++ rest) = none) :
    r.resolve (front ++ "/" ++ rest) = (r.lookupExchange front).map (⟨·, some rest⟩) := by
  unfold resolve
  rw [free, splitAddress_join plain]
  simp only [Option.bind_eq_bind, Option.bind_some]
  cases r.lookupExchange front <;> rfl

theorem exchange?_of_kind (h : x.kind = .exchange) : x.exchange?.isSome = true := by
  unfold Destination.kind at h
  unfold Destination.exchange?
  split at h
  · cases h
  · rfl

/-- A registered exchange is found by its name. -/
theorem Consistent.lookupExchange (h : r.Consistent) (registered : r.registered? e = some x)
    (exchange : x.kind = .exchange) : r.lookupExchange x.name = some e := by
  unfold Registry.lookupExchange
  rw [(h.lookup_iff x.name e).2 ⟨x, registered, rfl⟩, Option.filter_some, (registered?_eq_some.1 registered).2]
  simp [exchange?_of_kind exchange]

/-- What is found under a name has that name. -/
theorem Consistent.name_of_lookupExchange (h : r.Consistent) {name : String} (found : r.lookupExchange name = some e)
    (registered : r.registered? e = some x) : x.name = name := by
  obtain ⟨hlookup, -⟩ := Option.filter_eq_some_iff.1 found
  obtain ⟨y, hy, hname⟩ := (h.lookup_iff name e).1 hlookup
  rw [registered] at hy
  cases hy
  exact hname

end Registry

namespace Broker

open Registry

variable {b : Broker} {l : LinkId} {x : Link} {a : Attach} {target : Target} {address : String} {resolved : Resolved}

/-- Sends a message the way that an exchange routes it under a key. -/
def sendThrough (b : Broker) (e : DestinationId) (key : String) (message : Message) (t : Transaction)
    (discard : Bool) (address : String) : Broker × Except ProtocolError Outcome :=
  let (b, result) := b.route e message key []
  b.enqueueRouted result t discard address

theorem sendToNode_eq_sendThrough {e : DestinationId} {y : Destination} (found : b.registry.get? e = some y)
    (exchange : y.kind = .exchange) (key : String) (message : Message) (t : Transaction) (discard : Bool)
    (address : String) :
    b.sendToNode ⟨e, some key⟩ message t discard address = b.sendThrough e key message t discard address := by
  obtain ⟨ex, hex⟩ := Option.isSome_iff_exists.1 (exchange?_of_kind exchange)
  unfold sendToNode sendThrough routeTo
  simp [found, hex]

theorem eq_of_not_failed {c : Prop} [Decidable c] {e : LinkError} {o : Broker × Except LinkError Unit}
    (h : (if c then b.failAttach l x e else o).2 = .ok ()) : (if c then b.failAttach l x e else o) = o := by
  split at h
  · cases h
  · rw [if_neg ‹_›]

theorem establish_of_ok (h : (b.establish l x a).2 = .ok ()) :
    ∃ source, b.establish l x a = b.attachReceived l x source a := by
  unfold establish at h ⊢
  exact ⟨_, eq_of_not_failed h⟩

theorem recover_of_ok (h : (b.recover l x a).2 = .ok ()) :
    ∃ source, b.recover l x a = b.attachReceived l x source a := by
  unfold recover at h ⊢
  exact ⟨_, eq_of_not_failed h⟩

theorem resume_of_ok (h : (b.resume l x a).2 = .ok ()) : ∃ source, b.resume l x a = b.attachReceived l x source a := by
  unfold resume at h ⊢
  have h1 := eq_of_not_failed h
  rw [h1] at h ⊢
  have h2 := eq_of_not_failed h
  rw [h2] at h ⊢
  exact ⟨_, eq_of_not_failed h⟩

/-- An attach that goes through is one that was received. -/
theorem attachAs_of_ok {how : Attaching} (result : b.attachResult l x a how = .ok ()) :
    ∃ source, b.attachAs l x a how = (b.attachReceived l x source a).1 := by
  have hfst : ∀ {o : Broker × Except LinkError Unit}, (∃ source, o = b.attachReceived l x source a) →
      ∃ source, o.1 = (b.attachReceived l x source a).1 := fun ⟨source, h⟩ => ⟨source, congrArg Prod.fst h⟩
  cases how with
  | establish => exact hfst (establish_of_ok result)
  | resume => exact hfst (resume_of_ok result)
  | reattach =>
    unfold attachResult reattach at result
    unfold attachAs reattach
    exact hfst ⟨_, eq_of_not_failed result⟩
  | recover => exact hfst (recover_of_ok result)
  | plain =>
    simp only [attachResult, attachAs, attach] at result ⊢
    split at result
    · cases result
    rename_i unattached
    rw [if_neg unattached]
    split at result
    · rw [if_pos ‹_›]
      exact hfst (recover_of_ok result)
    rename_i targeted
    rw [if_neg targeted]
    split at result
    · rw [if_pos ‹_›]
      exact hfst (establish_of_ok result)
    · rw [if_neg ‹_›]
      exact hfst (resume_of_ok result)

/-- **A link is attached to the node that its target's address leads to.** -/
theorem attachReceived_of_resolve (hl : b.link? l = some x) (numbered : b.Numbered)
    (asked : attachTarget x a = .ok target) (unasked : target.dynamic = false) (named : target.address = some address)
    (somewhere : address ≠ "") (found : b.registry.resolve address = some resolved) (source : Option Source) :
    (b.attachReceived l x source a).2 = .ok () ∧
      ∃ y, (b.attachReceived l x source a).1.link? l = some y ∧ y.state = .attached ∧
        y.receiver = some ⟨b.receivers, address, x.settings.defaultCredit,
          .node resolved.destination resolved.key (target.hasCapability Target.discardUnroutable)⟩ := by
  let r : Receiver := ⟨b.receivers, address, x.settings.defaultCredit,
    .node resolved.destination resolved.key (target.hasCapability Target.discardUnroutable)⟩
  have fits : Fits b.registry x.settings x.dynamicNode target r target := .node unasked named somewhere found rfl
  obtain ⟨b', hattach, -, turns⟩ := attachReceived_eq hl asked fits source
  obtain ⟨u, done⟩ := turns.completeAttach x a target r target
  rw [hattach]
  refine ⟨rfl, _, done.link?, rfl, ?_⟩
  have hother : sameReceiver x.receiver (some r) = false := numbered.other hl (Nat.le_refl _)
  show (if sameReceiver x.receiver (some r) = true then x.receiver else some r) = some r
  rw [hother]
  rfl

end Broker

open Broker

/-- **An address leads to an exchange under a key.** -/
structure World.Leads (w : World) (address : String) (e : DestinationId) (key : String) : Prop where
  resolved : w.broker.registry.resolve address = some ⟨e, some key⟩
  /-- No attach to the address is refused but for the state of the link, and one that goes through gives the link a
  receiver for the exchange and the key. -/
  attached : ∀ l x a target, w.broker.link? l = some x → attachTarget x a = .ok target → target.dynamic = false →
    target.address = some address →
    (∀ source, (w.broker.attachReceived l x source a).2 = .ok ()) ∧
    ∀ how, w.broker.attachResult l x a how = .ok () → ∃ y r, (w.take (.attach l how a)).after.broker.link? l = some y ∧
      y.state = .attached ∧ y.receiver = some r ∧ r.address = address ∧
      r.kind = .node e (some key) (target.hasCapability Target.discardUnroutable)
  /-- From then on, whatever happens, what such a receiver takes goes where the exchange routes it under the key. -/
  sent : ∀ w', Relation.ReflTransGen World.Evolves w w' → ∀ (r : Receiver) discards,
    r.kind = .node e (some key) discards → ∀ message t,
      w'.broker.sendToReceiver r message t = w'.broker.sendThrough e key message t discards r.address
  /-- So does a message with the address that a relay takes. -/
  relayed : ∀ (r : Receiver) discards (message : Message), r.kind = .relay discards → message.address = some address →
    ∀ t, w.broker.sendToReceiver r message t = w.broker.sendThrough e key message t discards address

theorem World.leads_of_resolve {w : World} {address : String} {e : DestinationId} {key : String} {y : Destination}
    (numbered : w.broker.Numbered) (found : w.broker.registry.get? e = some y) (exchange : y.kind = .exchange)
    (somewhere : address ≠ "") (resolved : w.broker.registry.resolve address = some ⟨e, some key⟩) :
    w.Leads address e key := by
  refine ⟨resolved, fun l x a target hl asked unasked named => ?_, fun w' evolves r discards hr message t => ?_,
    fun r discards message hr haddress t => ?_⟩
  · have received := attachReceived_of_resolve hl numbered asked unasked named somewhere resolved
    refine ⟨fun source => (received source).1, fun how result => ?_⟩
    obtain ⟨source, heq⟩ := attachAs_of_ok result
    obtain ⟨-, z, hz, state, receiver⟩ := received source
    exact ⟨z, _, by rw [take_attach hl, heq]; exact hz, state, receiver, rfl, rfl⟩
  · obtain ⟨y', hy', -, kind, -⟩ := Registry.Becomes.ages (World.becomes_of_evolves evolves) e y found
    unfold sendToReceiver
    rw [hr]
    exact sendToNode_eq_sendThrough hy' (kind.trans exchange) key message t discards r.address
  · unfold sendToReceiver
    simp only [hr, haddress, resolved]
    exact sendToNode_eq_sendThrough found exchange key message t discards address

/-- **Every exchange whose name has no slash can be addressed with every key.**  However a world came about from a new one,
if no destination bears the name of a registered exchange with a slash and a key after it, then that address leads to the
exchange under that key: links are attached to it, and their messages and those that a relay takes for the address go
where the exchange routes them under the key.  If the exchange has a slash in its own name, then the address leads to the
exchange named by what stands before the first slash, under all that stands after it for a key, and if there is none it
leads nowhere; in no case does it lead to the exchange that was meant. -/
theorem leads_of_evolves {settings : HostSettings} {store : Store} {principal : Principal} {w : World}
    (evolves : Relation.ReflTransGen World.Evolves (.new settings store principal) w) {e : DestinationId}
    {x : Destination} (registered : w.broker.registry.registered? e = some x) (exchange : x.kind = .exchange)
    {key : String} (free : w.broker.registry.lookup (x.name ++ "/" ++ key) = none) :
    ('/' ∉ x.name.toList → w.Leads (x.name ++ "/" ++ key) e key) ∧
    ∀ front rest, x.name = front ++ "/" ++ rest → '/' ∉ front.toList →
      w.broker.registry.resolve (x.name ++ "/" ++ key) =
        (w.broker.registry.lookupExchange front).map (⟨·, some (rest ++ "/" ++ key)⟩) ∧
      ∀ key', w.broker.registry.resolve (x.name ++ "/" ++ key) ≠ some ⟨e, key'⟩ := by
  have consistent := World.consistent_of_evolves evolves
  refine ⟨fun plain => ?_, fun front rest hname plain => ?_⟩
  · have resolved : w.broker.registry.resolve (x.name ++ "/" ++ key) = some ⟨e, some key⟩ := by
      rw [Registry.resolve_join plain free, consistent.lookupExchange registered exchange]
      rfl
    have somewhere : x.name ++ "/" ++ key ≠ "" := by
      intro h
      have hlength := congrArg String.length h
      rw [length_join, String.length_empty] at hlength
      omega
    exact World.leads_of_resolve (World.numbered_of_evolves evolves) (Registry.registered?_eq_some.1 registered).2
      exchange somewhere resolved
  · have hjoin : x.name ++ "/" ++ key = front ++ "/" ++ (rest ++ "/" ++ key) := by
      rw [hname]
      simp only [String.append_assoc]
    rw [hjoin] at free ⊢
    have hresolve := Registry.resolve_join plain free
    refine ⟨hresolve, fun key' h => ?_⟩
    rw [hresolve] at h
    obtain ⟨d, hd, hresolved⟩ := Option.map_eq_some_iff.1 h
    cases hresolved
    -- what is found under the shorter name is another exchange
    have hfront := consistent.name_of_lookupExchange hd registered
    have hlength := congrArg String.length (hname.symm.trans hfront)
    rw [length_join] at hlength
    omega

/-- Two exchanges, of which the name of one is an address of the other. -/
def nested : List Event :=
  [.administer (.createExchange { name := "eu" }), .administer (.createExchange { name := "eu/orders" })]

/-- The exchange without a slash can be addressed with a key that has one, and so it is by the address of the other. -/
theorem leads_nested :
    let w := (World.new {} ⟨true, ∅, []⟩ {}).after nested
    w.Leads "eu/orders/new" 2 "orders/new" ∧ ∀ key, w.broker.registry.resolve "eu/orders/new" ≠ some ⟨3, key⟩ := by
  intro w
  have evolves := World.evolves_after nested (.new {} ⟨true, ∅, []⟩ {})
  have hname : ∀ e ∈ [2, 3], (w.broker.registry.registered? e).map (fun x => (x.name, x.kind)) =
      some (if e = 2 then "eu" else "eu/orders", .exchange) := by decide +kernel
  have free : w.broker.registry.lookup "eu/orders/new" = none := by decide +kernel
  obtain ⟨x, hx, hxname⟩ := Option.map_eq_some_iff.1 (hname 2 (by simp))
  obtain ⟨y, hy, hyname⟩ := Option.map_eq_some_iff.1 (hname 3 (by simp))
  obtain ⟨hxname, hxkind⟩ := Prod.mk.inj hxname
  obtain ⟨hyname, hykind⟩ := Prod.mk.inj hyname
  have hxfree : w.broker.registry.lookup (x.name ++ "/" ++ "orders/new") = none := by rw [hxname]; exact free
  have hyfree : w.broker.registry.lookup (y.name ++ "/" ++ "new") = none := by rw [hyname]; exact free
  have hplain := (leads_of_evolves evolves hx hxkind hxfree).1
  have hslash := (leads_of_evolves evolves hy hykind hyfree).2
  rw [hxname] at hplain
  rw [hyname] at hslash
  exact ⟨hplain (by decide), (hslash "eu" "orders" rfl (by decide)).2⟩

/-- **An exchange with a slash in its name is not reached by its address**, even where no other exchange is meant. -/
theorem misled_of_slash :
    ¬ ∀ (settings : HostSettings) (store : Store) (principal : Principal) (w : World),
      Relation.ReflTransGen World.Evolves (.new settings store principal) w →
        ∀ e x key, w.broker.registry.registered? e = some x → x.kind = .exchange →
          w.broker.registry.lookup (x.name ++ "/" ++ key) = none →
            w.broker.registry.resolve (x.name ++ "/" ++ key) = some ⟨e, some key⟩ := by
  intro h
  let events : List Event := [.administer (.createExchange { name := "eu/orders" })]
  let w := (World.new {} ⟨true, ∅, []⟩ {}).after events
  have hname : (w.broker.registry.registered? 2).map (fun x => (x.name, x.kind)) = some ("eu/orders", .exchange) := by
    decide +kernel
  obtain ⟨x, hx, hxname⟩ := Option.map_eq_some_iff.1 hname
  obtain ⟨name, kind⟩ := Prod.mk.inj hxname
  have hresolve := h {} ⟨true, ∅, []⟩ {} w (World.evolves_after events _) 2 x "new" hx kind
    (by rw [name]; decide +kernel)
  rw [name] at hresolve
  revert hresolve
  decide +kernel

end MessageBroker
