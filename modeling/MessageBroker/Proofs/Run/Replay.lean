import MessageBroker.Proofs.Registry.Directory
import MessageBroker.Proofs.Run.Owning
import MessageBroker.Proofs.Run.Refusals
import MessageBroker.Proofs.Run.Stepwise
/-!
# What a subscriber is told in a run

Whatever a broker does, subscribers are told of each change to the registered destinations as it is made
(`World.tells_after`), and a request is announced just if it makes or deletes one (`Broker.events_administer`).  Events
are never taken back, so one who loses none, however few are received at a time, is told all (`Follows.watch`).
-/
namespace MessageBroker

/-! ## Announcements -/

/-- Whether a request is to make a destination or to delete one. -/
def TopologyRequest.registers : TopologyRequest → Bool
  | .createQueue _ | .createExchange _ | .delete .. => true
  | _ => false

/-- What subscribers are to be told of a request, where one that makes or deletes a destination is granted. -/
def Broker.announcement? (b : Broker) : TopologyRequest → Option RegistryEvent
  | .createQueue q => (b.createQueue q).2.toOption.map fun d => ⟨.created, d, .queue, q.name⟩
  | .createExchange e => (b.createExchange e).2.toOption.map fun d => ⟨.created, d, .exchange, e.name⟩
  | .delete name force => (b.delete name force).2.toOption.bind fun _ =>
    (b.registry.lookup name).bind fun d => (b.registry.get? d).map fun x => ⟨.deleted, d, x.kind, name⟩
  | _ => none

def Event.administers : Event → Bool
  | .administer _ => true
  | _ => false

def Step.announcement? (s : Step) : Option RegistryEvent :=
  match s.event with
  | .administer q => s.before.broker.announcement? q
  | _ => none

/-! ## Subscribers -/

structure Subscriber where
  /-- How many of all events were received or lost. -/
  seen : Nat
  lost : Nat
  received : List RegistryEvent

namespace Subscriber

/-- One who subscribes is told of what comes from then on. -/
def new (r : Registry) : Subscriber := ⟨r.events.length, 0, []⟩

/-- Receives up to `n` of the events that are kept. -/
def receive (s : Subscriber) (r : Registry) (n : Nat) : Subscriber :=
  let (lost, news) := r.eventsSince s.seen
  ⟨s.seen + lost + (news.take n).length, s.lost + lost, s.received ++ news.take n⟩

/-- What was received from `start` on is what was published, unless something was lost. -/
structure Follows (s : Subscriber) (start : List RegistryEvent) (r : Registry) : Prop where
  seen : s.seen ≤ r.events.length
  received : s.lost = 0 → start ++ s.received = r.events.take s.seen

end Subscriber

/-- What happens while one subscribes. -/
inductive Watched where
  | event (e : Event)
  | receive (n : Nat)

def Watched.event? : Watched → Option Event
  | .event e => some e
  | .receive _ => none

/-- A subscriber after a course of events, when all that is kept at the end was received. -/
def World.watch (w : World) (s : Subscriber) : List Watched → Subscriber
  | [] => s.receive w.broker.registry Registry.eventsKept
  | .event e :: course => (w.take e).after.watch s course
  | .receive n :: course => w.watch (s.receive w.broker.registry n) course

namespace Registry

variable {r r' : Registry}

theorem Alters.tells (h : r.Alters r') (hc : r.Consistent) : ∃ news, r.Tells r' news := by
  have ages := h.ages
  cases h with
  | granted granted => exact granted.tells hc
  | queue d f => exact ⟨[], ages.silent hc rfl rfl⟩
  | links d x links at_d => exact ⟨[], ages.silent hc rfl rfl⟩
  | dynamicNodes nodes => exact ⟨[], ages.silent hc rfl rfl⟩

/-- **Whatever is done to a registry is told.** -/
theorem Becomes.tells (h : Becomes r r') (hc : r.Consistent) : ∃ news, r.Tells r' news := by
  have kept : r'.Consistent ∧ ∃ news, r.Tells r' news := by
    refine h.keeps (P := fun r' => r'.Consistent ∧ ∃ news, r.Tells r' news) ?_ ⟨hc, [], .refl r⟩
    rintro s s' ⟨hs, news, tells⟩ alters
    obtain ⟨news', tells'⟩ := alters.tells hs
    exact ⟨alters.consistent hs, news ++ news', tells.trans tells'⟩
  exact kept.2

end Registry

namespace Broker

open Registry

variable {b : Broker} {q : TopologyRequest}

theorem announcement?_delete {name : String} {force : Bool} {d : DestinationId} {x : Destination}
    (granted : (b.delete name force).2 = .ok ()) (found : b.registry.lookup name = some d)
    (at_d : b.registry.get? d = some x) :
    b.announcement? (.delete name force) = some ⟨.deleted, d, x.kind, name⟩ := by
  simp only [announcement?, granted, Except.toOption, found, at_d, Option.bind_some, Option.map_some]

/-- **A request is announced just if it is granted and makes or deletes a destination.** -/
theorem isSome_announcement? :
    (b.announcement? q).isSome = true ↔ q.registers = true ∧ ∃ answer, b.reply q = .ok answer := by
  have refused : ∀ {e : TopologyError}, ¬ ∃ answer : Bool, Except.error e = .ok answer := by
    rintro e ⟨answer, h⟩
    cases h
  cases q with
  | createQueue q =>
    simp only [announcement?, reply, TopologyRequest.registers, Option.isSome_map, true_and]
    cases (b.createQueue q).2 with
    | error e => exact iff_of_false Bool.false_ne_true refused
    | ok d => exact iff_of_true rfl ⟨true, rfl⟩
  | createExchange e =>
    simp only [announcement?, reply, TopologyRequest.registers, Option.isSome_map, true_and]
    cases (b.createExchange e).2 with
    | error e => exact iff_of_false Bool.false_ne_true refused
    | ok d => exact iff_of_true rfl ⟨true, rfl⟩
  | delete name force =>
    cases h : (b.delete name force).2 with
    | error e =>
      simp only [announcement?, reply, h]
      exact iff_of_false Bool.false_ne_true fun hok => refused hok.2
    | ok u =>
      obtain ⟨d, x, ns, found, at_d, -⟩ := delete_granted b h
      rw [announcement?_delete h found at_d]
      simp only [reply, h]
      exact iff_of_true rfl ⟨rfl, true, rfl⟩
  | _ => exact iff_of_false Bool.false_ne_true fun hok => Bool.false_ne_true hok.1

theorem events_createQueue (b : Broker) (q : QueueDeclaration) : (b.createQueue q).1.registry.events =
    b.registry.events ++ (b.announcement? (.createQueue q)).toList := by
  unfold announcement? createQueue
  simp only
  cases h : b.registry.createQueue q with
  | error e => exact (List.append_nil _).symm
  | ok z =>
    obtain ⟨f, -, -, rfl⟩ := createQueue_eq_add h
    exact (congrArg Registry.events (registry_created_add b _)).trans (events_add b.registry _)

theorem events_createExchange (b : Broker) (e : ExchangeDeclaration) : (b.createExchange e).1.registry.events =
    b.registry.events ++ (b.announcement? (.createExchange e)).toList := by
  unfold announcement? createExchange
  simp only
  cases h : b.registry.createExchange e with
  | error e => exact (List.append_nil _).symm
  | ok z =>
    obtain ⟨f, -, -, rfl⟩ := createExchange_eq_add h
    exact (congrArg Registry.events (registry_created_add b _)).trans (events_add b.registry _)

theorem events_delete (hc : b.registry.Consistent) (name : String) (force : Bool) :
    (b.delete name force).1.registry.events =
      b.registry.events ++ (b.announcement? (.delete name force)).toList := by
  cases h : (b.delete name force).2 with
  | error e =>
    have refused : b.reply (.delete name force) ≠ .ok true := by
      intro hok
      simp only [reply, h] at hok
      cases hok
    have hb : Unmoved b (b.delete name force).1 := unmoved_administer refused
    rw [hb]
    simp only [announcement?, h]
    exact (List.append_nil _).symm
  | ok u =>
    obtain ⟨d, x, ns, found, at_d, ordinary, -, hb⟩ := delete_granted b h
    obtain ⟨-, rfl⟩ := hc.registered_of_lookup found at_d
    rw [hb, announcement?_delete h found at_d]
    exact (tells_remove hc (Granted.deleted x.name d x found at_d ordinary).ages found at_d).events

theorem events_setAlternate (b : Broker) (name : String) (alternate : Option String) :
    (b.setAlternate name alternate).1.registry.events = b.registry.events := by
  unfold setAlternate
  cases h : b.registry.setAlternate name alternate with
  | error e => rfl
  | ok z =>
    obtain ⟨d, x, f, -, -, -, rfl⟩ := setAlternate_eq_modify h
    rfl

theorem events_bindTo (b : Broker) (e t : DestinationId) (key : String) (arguments : BindingArguments)
    (replace : Bool) : (b.bindTo e t key arguments replace).1.registry.events = b.registry.events := by
  unfold bindTo
  split
  · rfl
  · rename_i h
    obtain ⟨x, y, s, -, -, -, -, -, rfl⟩ := bind_eq_ok h
    rfl

theorem events_bind (b : Broker) (exchange target key : String) (arguments : BindingArguments) (replace : Bool) :
    (b.bind exchange target key arguments replace).1.registry.events = b.registry.events := by
  unfold bind
  split
  · rfl
  · exact events_bindTo b _ _ key arguments replace

theorem events_unbindFrom (b : Broker) (e t : DestinationId) (key : String) :
    (b.unbindFrom e t key).1.registry.events = b.registry.events := by
  have h : (b.registry.unbind e t key).1.events = b.registry.events := by
    unfold Registry.unbind
    split <;> rfl
  unfold unbindFrom
  simp only
  split <;> exact h

theorem events_unbind (b : Broker) (exchange target key : String) :
    (b.unbind exchange target key).1.registry.events = b.registry.events := by
  unfold unbind
  split
  · rfl
  · exact events_unbindFrom b _ _ key

/-- **What a request publishes is what subscribers are to be told of it.** -/
theorem events_administer (hc : b.registry.Consistent) (q : TopologyRequest) :
    (b.administer q).registry.events = b.registry.events ++ (b.announcement? q).toList := by
  have silent : ∀ {b' : Broker}, b'.registry.events = b.registry.events →
      b'.registry.events = b.registry.events ++ [] := fun h => h.trans (List.append_nil _).symm
  cases q with
  | createQueue q => exact events_createQueue b q
  | createExchange e => exact events_createExchange b e
  | delete name force => exact events_delete hc name force
  | setAlternate name alternate => exact silent (events_setAlternate b name alternate)
  | bind exchange target key arguments replace => exact silent (events_bind b exchange target key arguments replace)
  | bindHeld e t key arguments replace => exact silent (events_bindTo b e t key arguments replace)
  | unbind exchange target key => exact silent (events_unbind b exchange target key)
  | unbindHeld e t key => exact silent (events_unbindFrom b e t key)

/-- **A request is told by its announcement alone.** -/
theorem tells_administer (hc : b.registry.Consistent) (q : TopologyRequest) :
    b.registry.Tells (b.administer q).registry (b.announcement? q).toList := by
  have becomes : Broker.Becomes b (b.administer q) := linkSteps_becomes.administer b q
  obtain ⟨news, tells⟩ := Registry.Becomes.tells becomes hc
  rwa [← List.append_cancel_left (tells.events.symm.trans (events_administer hc q))]

end Broker

namespace World

open Registry

variable {w : World}

/-- What happens in a run is told, whatever it is. -/
theorem tells_after (hc : w.broker.registry.Consistent) (es : List Event) :
    ∃ news, w.broker.registry.Tells (w.after es).broker.registry news :=
  (becomes_after w es).tells hc

/-- **Administration is told by its announcements**, one after the other. -/
theorem tells_administration (hc : w.broker.registry.Consistent) (es : List Event)
    (administers : ∀ e ∈ es, e.administers = true) :
    w.broker.registry.Tells (w.after es).broker.registry ((w.history es).filterMap Step.announcement?) := by
  induction es generalizing w with
  | nil => exact .refl _
  | cons e es ih =>
    obtain ⟨first, rest⟩ := List.forall_mem_cons.1 administers
    cases e with
    | administer q =>
      have now : w.broker.registry.Tells (w.take (.administer q)).after.broker.registry
          (w.take (.administer q)).announcement?.toList := Broker.tells_administer hc q
      have later := ih ((becomes_take w (.administer q)).consistent hc) rest
      have both := now.trans later
      unfold after history
      rw [List.filterMap_cons]
      cases h : (w.take (.administer q)).announcement? with
      | none => rwa [h] at both
      | some e => rwa [h] at both
    | _ => cases first

/-- The registry's invariant holds before each step. -/
theorem consistent_before (hc : w.broker.registry.Consistent) {es : List Event} {s : Step} (hs : s ∈ w.history es) :
    s.before.broker.registry.Consistent ∧ s = s.before.take s.event := by
  induction es generalizing w with
  | nil => cases hs
  | cons e es ih =>
    rcases List.mem_cons.1 hs with rfl | hs
    · exact ⟨hc, rfl⟩
    · exact ih ((becomes_take w e).consistent hc) hs

end World

/-! ## Receiving -/

namespace Subscriber

variable {s : Subscriber} {start news : List RegistryEvent} {r r' : Registry}

theorem follows_new (r : Registry) : (new r).Follows r.events r where
  seen := Nat.le_refl _
  received := fun _ => (List.append_nil _).trans (List.take_length).symm

/-- Events are never taken back. -/
theorem Follows.publish (h : s.Follows start r) (events : r'.events = r.events ++ news) : s.Follows start r' where
  seen := by
    rw [events, List.length_append]
    exact Nat.le_add_right_of_le h.seen
  received := fun kept => by
    rw [events, List.take_append_of_le_length h.seen]
    exact h.received kept

theorem receive_eq (s : Subscriber) (r : Registry) (n : Nat) : s.receive r n =
    let lost := r.events.length - s.seen - Registry.eventsKept
    ⟨s.seen + lost + ((r.events.drop (s.seen + lost)).take n).length, s.lost + lost,
      s.received ++ (r.events.drop (s.seen + lost)).take n⟩ := by
  unfold receive Registry.eventsSince
  simp only [List.length_drop, List.drop_drop]

theorem Follows.receive (h : s.Follows start r) (n : Nat) : (s.receive r n).Follows start r := by
  have hseen := h.seen
  rw [receive_eq]
  constructor
  · simp only [List.length_take, List.length_drop]
    omega
  · intro kept
    obtain ⟨before, now⟩ := Nat.add_eq_zero_iff.1 kept
    simp only [now, Nat.add_zero]
    rw [← List.append_assoc, h.received before, List.take_add, List.length_take, ← List.take_take, List.take_length]

/-- All that is kept can be received at once. -/
theorem seen_receive_all (h : s.seen ≤ r.events.length) :
    (s.receive r Registry.eventsKept).seen = r.events.length := by
  rw [receive_eq]
  simp only [List.length_take, List.length_drop]
  omega

/-- **One who loses nothing is told all**, however little is received at a time. -/
theorem Follows.watch {w : World} (hc : w.broker.registry.Consistent) (h : s.Follows start w.broker.registry)
    (course : List Watched) (kept : (w.watch s course).lost = 0) : start ++ (w.watch s course).received =
      (w.after (course.filterMap Watched.event?)).broker.registry.events := by
  induction course generalizing w s with
  | nil =>
    have hall := (h.receive Registry.eventsKept).received kept
    rw [seen_receive_all h.seen, List.take_length] at hall
    exact hall
  | cons c course ih =>
    cases c with
    | event e =>
      obtain ⟨news, tells⟩ := w.tells_after hc [e]
      exact ih ((World.becomes_take w e).consistent hc) (h.publish tells.events) kept
    | receive n => exact ih hc (h.receive n) kept

end Subscriber

/-- **The event stream replays the registry.**  Whoever subscribes in any state of a run, and loses none of the events
of what is done from then on, knows from these which destinations are registered at the end: each piece of news agrees
with what was known before it.  If all that is done is administration, what is received is one event for each request
that is granted and makes or deletes a destination, in their order and none for any other, and each of these events says
how the registered destinations have changed by its request. -/
theorem replayed_of_run (settings : HostSettings) (store : Store) (principal : Principal) (es : List Event)
    (course : List Watched) :
    let w := (World.new settings store principal).after es
    let s := w.watch (.new w.broker.registry) course
    let run := course.filterMap Watched.event?
    s.lost = 0 →
      RegistryEvent.replay? w.broker.registry.directory s.received = some (w.after run).broker.registry.directory ∧
      ((∀ e ∈ run, e.administers = true) → s.received = (w.history run).filterMap Step.announcement?) ∧
      ∀ step ∈ w.history run, ∀ q, step.event = .administer q →
        (step.announcement?.isSome = true ↔ q.registers = true ∧ ∃ answer, step.before.broker.reply q = .ok answer) ∧
        RegistryEvent.replay? step.before.broker.registry.directory step.announcement?.toList =
          some step.after.broker.registry.directory := by
  intro w s run kept
  have hc : w.broker.registry.Consistent := (upkept_of_run settings store principal es).consistent
  have hall := (Subscriber.follows_new w.broker.registry).watch hc course kept
  refine ⟨?_, fun administers => ?_, fun step hstep q hq => ?_⟩
  · obtain ⟨news, tells⟩ := w.tells_after hc run
    rw [List.append_cancel_left (hall.trans tells.events)]
    exact tells.replay
  · have tells := World.tells_administration hc run administers
    exact List.append_cancel_left (hall.trans tells.events)
  · obtain ⟨hbefore, hstep⟩ := World.consistent_before hc hstep
    rw [hq] at hstep
    rw [hstep]
    exact ⟨Broker.isSome_announcement?, (Broker.tells_administer hbefore q).replay⟩

/-- A name that is given up, against the wish of an exchange that relies on it, and taken again. -/
def successions : List Watched :=
  [.event (.administer (.createExchange { name := "relay", alternate := some "orders" })), .receive 1,
    .event (.administer (.delete "orders" false)), .event (.administer (.delete "orders" true)),
    .event (.administer (.createExchange { name := "orders" })),
    .event (.administer (.createQueue { name := "relay" }))]

/-- The deletion that is refused and the queue whose name is taken are not told of. -/
theorem replayed_successions :
    let w := (World.new {} ⟨true, ∅, []⟩ {}).after [.administer (.createQueue { name := "orders" })]
    let s := w.watch (.new w.broker.registry) successions
    let run := successions.filterMap Watched.event?
    s.lost = 0 ∧ s.received =
      [⟨.created, 3, .exchange, "relay"⟩, ⟨.deleted, 2, .queue, "orders"⟩, ⟨.created, 4, .exchange, "orders"⟩] ∧
      s.received = (w.history run).filterMap Step.announcement? ∧
      RegistryEvent.replay? w.broker.registry.directory s.received =
        some (w.after run).broker.registry.directory := by
  intro w s run
  have kept : s.lost = 0 := by decide +kernel
  have administers : ∀ e ∈ run, e.administers = true := by decide +kernel
  obtain ⟨replay, told, -⟩ := replayed_of_run {} ⟨true, ∅, []⟩ {} [.administer (.createQueue { name := "orders" })]
    successions kept
  exact ⟨kept, by decide +kernel, told administers, replay⟩

end MessageBroker
