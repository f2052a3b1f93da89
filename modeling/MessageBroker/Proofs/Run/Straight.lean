import MessageBroker.Proofs.Routing.Explored
import MessageBroker.Proofs.Run.Refusals
/-!
# Sending straight to a queue, and through an exchange

A message that is sent to a queue goes there if the queue has room.  Sent to an exchange from which the only way on is
to that queue, it goes there too, and what a queue refuses goes to its alternate.  So the two agree where the queue
takes the message, and where nothing takes what it refuses (`straight_or_through`).  Where an alternate takes it they
differ: straight, alternates are not asked (`straight_refused`).
-/
namespace MessageBroker

open Routing

/-- The queue that a message lands at, if it is one. -/
def Routing.Landing.queues : Landing → List DestinationId
  | .queue q => [q]
  | _ => []

namespace Registry

/-- **The only way on from an exchange under a key is to a queue**: it is a live direct exchange without an alternate,
and the only binding that it has under the key leads there and filters nothing. -/
structure Feeds (r : Registry) (e : DestinationId) (key : String) (q : DestinationId) : Prop where
  only : ∃ y ex b, r.live? e = some y ∧ y.body = .exchange ex ∧ ex.type = .direct ∧ y.alternate = none ∧
    ex.bindings.forKey key = [b] ∧ b.destination = q ∧ b.selector = none

variable {r : Registry} {e q : DestinationId} {key : String}

/-- Whether the one binding of an exchange under a key leads to a queue. -/
def leadsOnly (q : DestinationId) (key : String) (y : Destination) : Bool :=
  y.alternate.isNone && match y.body with
    | .queue _ => false
    | .exchange ex => ex.type = .direct &&
      ((ex.bindings.forKey key).map fun b => (b.destination, b.selector.isNone)) = [(q, true)]

theorem feeds_of_any (h : (r.live? e).any (leadsOnly q key) = true) : r.Feeds e key q := by
  obtain ⟨y, live, hy⟩ := (Option.any_eq_true _ _).1 h
  unfold leadsOnly at hy
  cases body : y.body with
  | queue c => simp [body] at hy
  | exchange ex =>
    simp only [body, Bool.and_eq_true, decide_eq_true_eq, Option.isNone_iff_eq_none] at hy
    obtain ⟨last, type, only⟩ := hy
    obtain ⟨b, hb, hbq⟩ := List.map_eq_singleton_iff.1 only
    obtain ⟨hq, unfiltered⟩ := Prod.mk.inj hbq
    exact ⟨y, ex, b, live, body, type, last, hb, hq, Option.isNone_iff_eq_none.1 unfiltered⟩

theorem Feeds.exchange? (h : r.Feeds e key q) : ((r.get? e).bind Destination.exchange?).isSome = true := by
  obtain ⟨y, ex, b, live, body, -⟩ := h.only
  simp [(live?_eq_some.1 live).1, Destination.exchange?, body]

/-- **A walk from such an exchange** sends to the queue, and does nothing else. -/
theorem Feeds.queues_walkFrom (h : r.Feeds e key q) (modulus : Nat) (headers : Headers) :
    ∃ enter key' p, p.queues = [] ∧
      (walkFrom r modulus headers e key).2.queues = (sendTo ⟨r, headers, modulus⟩ enter q key' 0 p).2.queues := by
  obtain ⟨y, ex, b, live, body, type, last, only, rfl, unfiltered⟩ := h.only
  refine ⟨walk ⟨r, headers, modulus⟩ (r.settings.maxHops + 1), b.arguments.replacementKey.getD key,
    Progress.start.mark e key .underWay, rfl, ?_⟩
  have accepts : b.accepts headers = true := by simp [Binding.accepts, unfiltered]
  have candidates : ex.candidates key = [b] := by simp [Exchange.candidates, type, only]
  have new : Progress.start.visit? e key = none := rfl
  unfold walkFrom walk
  simp only [live, body, candidates, sendAlong, accepts, last, Nat.not_lt_zero, new, if_true, if_false, ite_self]
  rfl

/-- Unless the message lands at another exchange, what is found is where it lands. -/
theorem Feeds.queues_route (h : r.Feeds e key q) (message : Message) (properties : InstanceProperties)
    (lands : ∀ f further, (landingOf r q).1 ≠ .exchange f further) :
    (r.route e message key properties).1.queues = (landingOf r q).1.queues := by
  obtain ⟨y, ex, b, live, -⟩ := h.only
  obtain ⟨enter, key', p, hp, hq⟩ := h.queues_walkFrom counterModulus message.headers
  unfold route
  simp only [live, hq]
  unfold sendTo
  simp only
  cases hl : (landingOf r q).1 with
  | nowhere => exact hp
  | queue q' => simp [Progress.reach, Progress.note, hp, Landing.queues]
  | exchange f further => exact absurd hl (lands f further)

/-- A queue with room takes the message itself. -/
theorem Feeds.queues_route_of_room (h : r.Feeds e key q) (takes : r.Takes q) (message : Message)
    (properties : InstanceProperties) : (r.route e message key properties).1.queues = [q] := by
  have lands : (landingOf r q).1 = .queue q := congrArg Prod.fst (landingOf_takes takes)
  rw [h.queues_route message properties (by rw [lands]; exact fun _ _ hne => by cases hne), lands]
  rfl

/-- Straight to a queue, only its room is asked for. -/
theorem queues_routeToQueue {x : Destination} {c : Queue} (live : r.live? q = some x) (body : x.body = .queue c)
    (message : Message) (properties : InstanceProperties) :
    (r.routeToQueue q message properties).queues = if c.hasRoom then [q] else [] := by
  obtain ⟨hx, hlive⟩ := live?_eq_some.1 live
  simp [routeToQueue, hx, Destination.accepts, hlive, body]

end Registry

namespace Broker

open Registry

variable {b : Broker} {e q : DestinationId} {key : String}

/-- Two sends come to the same: the same kind of outcome or the same error, and a broker that holds the same, but for
what it notes. -/
def SentAlike (z z' : Broker × Except ProtocolError Outcome) : Prop :=
  Unmoved z.1 z'.1 ∧ z.2.map Outcome.kind = z'.2.map Outcome.kind

/-! ## Notes make no difference -/

theorem place_noteAll (b : Broker) (ns : List Notice) (q : DestinationId) (entry : QueueEntry) :
    (b.noteAll ns).place q entry = (b.place q entry).noteAll ns := by
  unfold place noteAll
  simp only
  split <;> rfl

theorem hold_noteAll (b : Broker) (ns : List Notice) (id : TransactionId) (q : DestinationId) (entry : QueueEntry) :
    (b.noteAll ns).hold id q entry = (b.hold id q entry).noteAll ns := by
  unfold hold modifyTransaction noteAll
  split <;> rfl

/-- What was noted before makes no difference to sending a routing result. -/
theorem send_noteAll (b : Broker) (ns : List Notice) (result : RoutingResult) (t : Transaction) :
    (b.noteAll ns).send result t = ((b.send result t).1.noteAll ns, (b.send result t).2) := by
  unfold send
  cases t with
  | autoCommit =>
    have hpersist : ∀ records, (b.noteAll ns).persist records =
        ((b.persist records).1.noteAll ns, (b.persist records).2) := fun records => by
      rw [persist_eq, persist_eq]
      rfl
    have hrecords : (b.noteAll ns).recordFor = b.recordFor := rfl
    simp only [hpersist, hrecords]
    generalize b.persist _ = o
    obtain ⟨b', result'⟩ := o
    cases result' with
    | error fault => rfl
    | ok _ => exact Prod.ext (List.foldl_hom (·.noteAll ns) fun b q => place_noteAll b ns q _) rfl
  | inside id =>
    have htransaction : (b.noteAll ns).transaction? id = b.transaction? id := rfl
    simp only [htransaction]
    split
    · rfl
    · exact Prod.ext (List.foldl_hom (·.noteAll ns) fun b q => hold_noteAll b ns id q _) rfl

/-- Nor does the address that is told when no queue takes the message. -/
theorem sentAlike_enqueueRouted (b : Broker) (ns : List Notice) (result : RoutingResult) (t : Transaction)
    (discard : Bool) (address address' : String) :
    SentAlike (b.enqueueRouted result t discard address) ((b.noteAll ns).enqueueRouted result t discard address') := by
  unfold enqueueRouted
  split
  · exact ⟨rfl, by cases discard <;> rfl⟩
  · rw [send_noteAll]
    generalize b.send result t = o
    obtain ⟨b', answer⟩ := o
    cases answer <;> exact ⟨rfl, rfl⟩

/-! ## The two ways -/

section

variable {x : Destination} {c : Queue} {key' : Option String} {message : Message}

theorem routeTo_queue (live : b.registry.live? q = some x) (body : x.body = .queue c) :
    b.routeTo ⟨q, key'⟩ message = (b, b.registry.routeToQueue q message []) := by
  unfold routeTo
  simp [(live?_eq_some.1 live).1, Destination.exchange?, body]

theorem routeTo_exchange (feeds : b.registry.Feeds e key q) :
    b.routeTo ⟨e, some key⟩ message = b.route e message key [] := by
  obtain ⟨ex, hex⟩ := Option.isSome_iff_exists.1 feeds.exchange?
  unfold routeTo
  simp [hex]

/-- Whatever is found through the exchange, it is sent as it would be straight from here. -/
theorem sentAlike_of_queues (live : b.registry.live? q = some x) (body : x.body = .queue c)
    (feeds : b.registry.Feeds e key q)
    (same : (b.routeTo ⟨q, key'⟩ message).2.queues = (b.routeTo ⟨e, some key⟩ message).2.queues) (t : Transaction)
    (discard : Bool) (address address' : String) :
    SentAlike (b.sendToNode ⟨q, key'⟩ message t discard address)
      (b.sendToNode ⟨e, some key⟩ message t discard address') := by
  have hresult : ∀ key properties, (b.registry.route e message key properties).1 =
      ⟨message, properties, (b.registry.route e message key properties).1.queues⟩ := fun key properties => by
    unfold Registry.route
    split <;> rfl
  have hstraight : b.registry.routeToQueue q message [] =
      ⟨message, [], (b.registry.routeToQueue q message []).queues⟩ := rfl
  rw [routeTo_queue live body, routeTo_exchange feeds] at same
  unfold sendToNode
  rw [routeTo_queue live body, routeTo_exchange feeds]
  simp only [route] at same ⊢
  rw [hresult, ← same, hstraight]
  exact sentAlike_enqueueRouted b _ _ t discard address address'

/-- **A queue that is sent to straight and one that is sent to through an exchange** get the message alike if they take
it, or if nothing takes what the queue refuses, and only then.  What the queue refuses, no alternate gets if it was sent
straight; through the exchange it is placed where it lands among the alternates. -/
theorem straight_or_through (live : b.registry.live? q = some x) (body : x.body = .queue c)
    (feeds : b.registry.Feeds e key q) (key' : Option String) (message : Message) (t : Transaction) (discard : Bool)
    (address address' : String) :
    let found (d : DestinationId) (k : Option String) := (b.routeTo ⟨d, k⟩ message).2.queues
    let straight := b.sendToNode ⟨q, key'⟩ message t discard address
    let through := b.sendToNode ⟨e, some key⟩ message t discard address'
    (found q key' = found e (some key) ∧ SentAlike straight through ↔ c.hasRoom = true ∨ found e (some key) = []) ∧
      (c.hasRoom = true → found e (some key) = [q]) ∧
      (c.hasRoom = false → straight = (b, .ok (unroutable discard address))) ∧
      ((∀ f further, (landingOf b.registry q).1 ≠ .exchange f further) →
        found e (some key) = (landingOf b.registry q).1.queues) := by
  intro found straight through
  have hthrough : found e (some key) = (b.registry.route e message key []).1.queues := by
    simp only [found, routeTo_exchange feeds]
    rfl
  have hstraight : found q key' = if c.hasRoom then [q] else [] := by
    simp only [found, routeTo_queue live body]
    exact queues_routeToQueue live body message []
  have hroom : c.hasRoom = true → found e (some key) = [q] := fun room => by
    rw [hthrough]
    exact feeds.queues_route_of_room ⟨x, c, live, body, room⟩ message []
  refine ⟨⟨fun ⟨same, _⟩ => ?_, fun h => ?_⟩, hroom, fun full => ?_, fun lands => ?_⟩
  · cases room : c.hasRoom with
    | true => exact .inl rfl
    | false => exact .inr (by rw [← same, hstraight, room]; rfl)
  · have same : found q key' = found e (some key) := by
      cases room : c.hasRoom with
      | true => rw [hroom room, hstraight, room]; rfl
      | false =>
        rw [room] at h
        rw [h.resolve_left (by decide), hstraight, room]
        rfl
    exact ⟨same, sentAlike_of_queues live body feeds same t discard address address'⟩
  · have hnone : (b.registry.routeToQueue q message []).hasRoutes = false := by
      simp [RoutingResult.hasRoutes, queues_routeToQueue live body message [], full]
    simp only [straight, sendToNode, routeTo_queue live body, enqueueRouted, hnone]
    rfl
  · rw [hthrough]
    exact feeds.queues_route message [] lands

end

/-- A full queue has an alternate with room, and is all that an exchange leads to. -/
def overflowing : List Event :=
  [.administer (.createQueue { name := "overflow" }),
    .administer (.createQueue { name := "small", alternate := some "overflow", capacity := some 0 }),
    .administer (.createExchange { name := "ex" }),
    .administer (.bind "ex" "small" "k" .empty false)]

/-- Through the exchange the alternate gets the message, and straight nothing does. -/
theorem straight_or_overflow :
    let b := ((World.new {} ⟨true, ∅, []⟩ {}).after overflowing).broker
    let message : Message := ⟨⟨none, none, none, [], false, [], none⟩, 0⟩
    b.sendToNode ⟨3, none⟩ message .autoCommit false "small" = (b, .ok (unroutable false "small")) ∧
      (b.routeTo ⟨4, some "k"⟩ message).2.queues = [2] := by
  intro b message
  have small : ((b.registry.live? 3).bind Destination.queue?).any (!·.hasRoom) = true := by decide +kernel
  have feeds : b.registry.Feeds 4 "k" 3 := feeds_of_any (by decide +kernel)
  have hlanding : (landingOf b.registry 3).1 = .queue 2 := by decide +kernel
  clear_value b
  obtain ⟨c, hc, full⟩ := (Option.any_eq_true _ _).1 small
  obtain ⟨x, live, hx⟩ := Option.bind_eq_some_iff.1 hc
  obtain ⟨-, -, refused, lands⟩ :=
    straight_or_through live (body_of_queue? hx) feeds none message .autoCommit false "small" "ex/k"
  have through := lands (by rw [hlanding]; exact fun _ _ hne => by cases hne)
  exact ⟨refused (by simpa using full), through.trans (by rw [hlanding]; rfl)⟩

/-- So the outcomes are of different kinds. -/
theorem straight_refused :
    let b := ((World.new {} ⟨true, ∅, []⟩ {}).after overflowing).broker
    let message : Message := ⟨⟨none, none, none, [], false, [], none⟩, 0⟩
    b.registry.lookup "small" = some 3 ∧ b.registry.Feeds 4 "k" 3 ∧
      ((b.sendToNode ⟨3, none⟩ message .autoCommit false "small").2.toOption.map Outcome.kind,
        (b.sendToNode ⟨4, some "k"⟩ message .autoCommit false "ex/k").2.toOption.map Outcome.kind) =
          (some .rejected, some .accepted) := by
  exact ⟨by decide +kernel, feeds_of_any (by decide +kernel), by decide +kernel⟩

end Broker
end MessageBroker
