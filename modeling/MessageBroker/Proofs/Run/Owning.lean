import MessageBroker.Proofs.Run.Becomes
import MessageBroker.Proofs.Run.Retired
/-!
# Whose node is whose

A queue that was made for a link on its request is deleted when the link ends, and at most one of them is registered at
any time: the one whose name the link has recorded, to which it is attached again after it was suspended
(`owned_of_course`).
-/
namespace MessageBroker

open Broker

/-- Whether an event attaches a link. -/
def Event.attaches (l : LinkId) : Event → Bool
  | .attach k .. => k == l
  | _ => false

/-- The destinations that were made in a step in which a link was attached. -/
def Step.makes (s : Step) (l : LinkId) : List DestinationId :=
  if s.event.attaches l then s.before.broker.registry.since s.after.broker.registry else []

/-- **The nodes of a link**: the queues that were made for it so far. -/
def nodesOf (past : List Step) (l : LinkId) : List DestinationId := past.flatMap (·.makes l)

/-- **A step spares a destination**: nothing is newly registered under its name, and it is nobody's alternate. -/
def Step.Spares (s : Step) (d : DestinationId) : Prop :=
  (∀ i ∈ s.after.broker.registry.ids, i ∉ s.before.broker.registry.ids →
    (s.after.broker.registry.get? i).map Destination.name ≠ (s.before.broker.registry.get? d).map Destination.name) ∧
  ∀ i ∈ s.after.broker.registry.ids, (s.after.broker.registry.get? i).bind Destination.alternate ≠ some d

instance (s : Step) (d : DestinationId) : Decidable (s.Spares d) := by
  unfold Step.Spares
  infer_instance

namespace Registry

variable {r r' : Registry}

theorem Alters.ages (h : r.Alters r') : r.Ages r' := by
  have hmodify : ∀ (d : DestinationId) (f : Destination → Destination),
      (∀ x, r.get? d = some x → (f x).name = x.name ∧ (f x).kind = x.kind ∧ (f x).deleted = x.deleted) →
        r.Ages (r.modify d f) := by
    intro d f same i x hx
    refine ⟨(if d = i then f else id) x, by rw [get?_modify, hx]; rfl, ?_⟩
    split
    · rename_i hi
      obtain ⟨name, kind, deleted⟩ := same x (hi ▸ hx)
      exact ⟨name, kind, fun hdel => deleted.trans hdel⟩
    · exact ⟨rfl, rfl, id⟩
  cases h with
  | granted granted => exact granted.ages
  | queue d f =>
    refine hmodify d _ fun x _ => ?_
    obtain ⟨_, _, _, _, _, body⟩ := x
    cases body <;> exact ⟨rfl, rfl, rfl⟩
  | links d x links at_d =>
    refine hmodify d _ fun y hy => ?_
    rw [at_d] at hy
    cases hy
    exact ⟨rfl, rfl, rfl⟩
  | dynamicNodes nodes => exact .refl r

theorem Becomes.ages (h : Becomes r r') : r.Ages r' :=
  h.keeps (P := fun r' => r.Ages r') (fun _ _ ages alters => ages.trans alters.ages) (.refl r)

end Registry

/-- The registry's invariant holds in every course of events. -/
theorem consistent_of_course {settings : HostSettings} {store : Store} {principal : Principal} {past : List Step}
    {w : World} (course : Course (.new settings store principal) past w) : w.broker.registry.Consistent := by
  induction course with
  | start => exact .new settings
  | event course e ih => exact (World.becomes_take _ e).consistent ih
  | handed course l r ih => exact (becomes_setReceiver _ l r).consistent ih

theorem nodesOf_append (past : List Step) (s : Step) (l : LinkId) :
    nodesOf (past ++ [s]) l = nodesOf past l ++ s.makes l := by
  unfold nodesOf
  rw [List.flatMap_append, List.flatMap_singleton]

namespace World

variable {w : World} {e : Event} {l : LinkId} {x : Link}

/-- **What an event makes of the node of the link that it turns.** -/
theorem tends_take (hx : w.broker.link? l = some x) (turns : e.turns l = true) :
    ∃ y, (w.take e).after.broker.link? l = some y ∧
      w.broker.registry.Tends x.name x.dynamicNode (w.take e).after.broker.registry y.dynamicNode ∧
      (w.take e).makes l = w.broker.registry.since (w.take e).after.broker.registry := by
  cases e with
  | attach k how a =>
    obtain rfl := beq_iff_eq.1 turns
    have hafter := take_attach hx how a
    have hmakes : (w.take (.attach k how a)).makes k =
        w.broker.registry.since (w.take (.attach k how a)).after.broker.registry := if_pos turns
    rw [hmakes, hafter]
    rcases attachEnds_attachAs hx how a with ⟨-, -, h, -⟩ | ⟨source, h⟩
    · rw [h]
      exact ⟨x, hx, .kept (.refl _), rfl⟩
    · obtain ⟨y, hy, tends⟩ := h.tends
      exact ⟨y, hy, tends, rfl⟩
  | detach k d =>
    obtain rfl := beq_iff_eq.1 turns
    obtain ⟨y, hy, tends, hsince⟩ := tends_detach hx d
    exact ⟨y, hy, tends, hsince.symm⟩
  | destroy k =>
    obtain rfl := beq_iff_eq.1 turns
    have h := Turns.start hx
    have tends := h.tends_teardown x.name .destroyed
    exact ⟨_, (h.teardown .destroyed).link?, tends, tends.since_of_none.symm⟩
  | _ => cases turns

end World

/-- A detached link has no node of its own recorded. -/
theorem Step.Leaves.unowned {s : Step} {l : LinkId} {x y : Link} (h : s.Leaves l x y)
    (before : x.state = .detached → x.dynamicNode = none) (detached : y.state = .detached) : y.dynamicNode = none := by
  cases h with
  | rested => exact before detached
  | spurned => exact before detached
  | attached => cases detached
  | suspended => cases detached
  | failed => rfl
  | detached => rfl
  | destroyed => rfl

namespace Registry.Owns

variable {r r' : Registry} {nodes : List DestinationId} {own : Option String}

/-- What happens beside a link leaves it its nodes, if it spares them. -/
theorem beside {w : World} {e : Event} (h : w.broker.registry.Owns nodes own) (hc : w.broker.registry.Consistent)
    (hc' : (w.take e).after.broker.registry.Consistent) (spared : ∀ d ∈ nodes, (w.take e).Spares d) :
    (w.take e).after.broker.registry.Owns nodes own := by
  refine h.spared hc hc' (w.becomes_take e).ages (fun d hd x hx i y hy hnew => ?_) fun d hd i y hy halternate => ?_
  · obtain ⟨hi, hget⟩ := registered?_eq_some.1 hy
    have hi' : i ∉ w.broker.registry.ids := fun hi => by
      obtain ⟨z, hz, -⟩ := (hc.mem_ids i).1 hi
      rw [registered?_eq_some.2 ⟨hi, hz⟩] at hnew
      cases hnew
    have hname := (spared d hd).1 i hi hi'
    rw [hget, show (w.take e).before.broker.registry.get? d = some x from hx] at hname
    exact fun heq => hname (congrArg some heq)
  · obtain ⟨hi, hget⟩ := registered?_eq_some.1 hy
    have hnone := (spared d hd).2 i hi
    rw [hget] at hnone
    exact hnone halternate

end Registry.Owns

/-- **A link owns the nodes in a list**: none while it is not there, and none under a name once it is detached. -/
structure Broker.OwnedBy (b : Broker) (l : LinkId) (nodes : List DestinationId) : Prop where
  missing : b.link? l = none → nodes = []
  owns : ∀ x, b.link? l = some x → '/' ∉ x.name.toList → b.registry.Owns nodes x.dynamicNode
  detached : ∀ x, b.link? l = some x → x.state = .detached → x.dynamicNode = none

/-- For a link that is not there nothing is made. -/
theorem World.makes_missing (w : World) (e : Event) {l : LinkId} (hl : w.broker.link? l = none) :
    (w.take e).makes l = [] := by
  unfold Step.makes
  split
  · rename_i attaches
    cases e with
    | attach k how a =>
      refine Registry.since_of_length ?_
      rw [w.take_missing (e := .attach k how a) hl attaches]
      rfl
    | _ => cases attaches
  · rfl

namespace Broker.OwnedBy

variable {w : World} {l : LinkId} {nodes : List DestinationId}

/-- **A link goes on owning its nodes**, whatever it is attached to, as long as all else spares them. -/
theorem take (h : w.broker.OwnedBy l nodes) {e : Event} (hc : w.broker.registry.Consistent)
    (hc' : (w.take e).after.broker.registry.Consistent)
    (spared : e.attaches l = false → ∀ d ∈ nodes, (w.take e).Spares d) :
    (w.take e).after.broker.OwnedBy l (nodes ++ (w.take e).makes l) := by
  cases hx : w.broker.link? l with
  | none =>
    rw [h.missing hx, w.makes_missing e hx]
    have hmade : ∀ y, (w.take e).after.broker.link? l = some y → y.dynamicNode = none := fun y hy => by
      have hmade := w.made_eq e hx hy
      cases e with
      | link name settings formats receiverOpen =>
        cases hmade
        rfl
      | _ => cases hmade
    refine ⟨fun _ => rfl, fun y hy _ => ?_, fun y hy _ => hmade y hy⟩
    rw [hmade y hy]
    exact .nothing _
  | some x =>
    obtain ⟨y, hy, leaves, -⟩ := w.leaves_take e hx
    have hsame : ∀ y', (w.take e).after.broker.link? l = some y' → y' = y := fun y' hy' =>
      Option.some.inj (hy'.symm.trans hy)
    refine ⟨fun hlost => absurd (hlost.symm.trans hy) (Option.some_ne_none y).symm, fun y' hy' plain => ?_,
      fun y' hy' => ?_⟩
    · rw [hsame y' hy', leaves.name] at plain
      have owns := h.owns x hx plain
      rw [hsame y' hy']
      cases turns : e.turns l with
      | true =>
        obtain ⟨y'', hy'', tends, hmakes⟩ := World.tends_take hx turns
        rw [hsame y'' hy''] at tends
        rw [hmakes]
        exact tends.owns hc hc' plain owns
      | false =>
        have attaches : e.attaches l = false := by
          cases e with
          | attach => exact turns
          | _ => rfl
        have hmakes : (w.take e).makes l = [] := if_neg (by simpa [World.take] using attaches)
        obtain ⟨u, c, hrests⟩ := (w.rests_take turns).link x hx
        rw [hmakes, List.append_nil, ← hsame _ hrests]
        exact owns.beside hc hc' (spared attaches)
    · rw [hsame y' hy']
      exact leaves.unowned (h.detached x hx)

theorem setReceiver {b : Broker} (h : b.OwnedBy l nodes) (hc : b.registry.Consistent) (k : LinkId)
    (next : Option Receiver) : (b.setReceiver k next).OwnedBy l nodes := by
  have hc' := (becomes_setReceiver b k next).consistent hc
  have hserves := serves_setReceiver b k next
  rcases b.link?_setReceiver k l next with hl | ⟨z, receiver, hz, hl⟩
  · refine ⟨fun hx => h.missing (hl.symm.trans hx), fun x hx plain => ?_, fun x hx => h.detached x (hl.symm.trans hx)⟩
    exact (h.owns x (hl.symm.trans hx) plain).serves hc hc' hserves
  · have hsame : ∀ x, (b.setReceiver k next).link? l = some x → x = { z with receiver } := fun x hx =>
      Option.some.inj (hx.symm.trans hl)
    refine ⟨fun hlost => absurd (hlost.symm.trans hl) (Option.some_ne_none _).symm, fun x hx plain => ?_, fun x hx => ?_⟩
    · rw [hsame x hx] at plain ⊢
      exact (h.owns z hz plain).serves hc hc' hserves
    · rw [hsame x hx]
      exact h.detached z hz

end Broker.OwnedBy

/-- **A link owns its nodes** in every course of events that spares them but for its own attaches. -/
theorem owns_of_course {settings : HostSettings} {store : Store} {principal : Principal} {past : List Step} {w : World}
    (course : Course (.new settings store principal) past w) {l : LinkId}
    (spared : ∀ s ∈ past, s.event.attaches l = false → ∀ d ∈ nodesOf past l, s.Spares d) :
    w.broker.OwnedBy l (nodesOf past l) := by
  induction course with
  | start =>
    refine ⟨fun _ => rfl, fun x hx => ?_, fun x hx => ?_⟩
    · cases hx
    · cases hx
  | @event past w course e ih =>
    rw [nodesOf_append] at spared ⊢
    have before := ih fun s hs apart d hd => spared s (List.mem_append_left _ hs) apart d (List.mem_append_left _ hd)
    refine before.take (consistent_of_course course) (consistent_of_course (course.event e)) fun apart d hd => ?_
    exact spared _ (List.mem_append_right _ (List.mem_singleton_self _)) apart d (List.mem_append_left _ hd)
  | handed course k next ih => exact (ih spared).setReceiver (consistent_of_course course) k next

/-- **A link never leaks a node of its own.**  In every course of events, whatever becomes of the link and of the topology,
as long as nobody else takes the name of a node that was made for the link, nor chooses one for an alternate: of the
queues that were made for it at most one is registered, which is the one whose name it has recorded.  After each attach
that goes through and asks for a node of its own, the address of its target is the name of such a queue, which is
registered and recorded, and it is the same one as before if one was still registered, suspended or not.  Once the link is
detached none is registered. -/
theorem owned_of_course {settings : HostSettings} {store : Store} {principal : Principal} {past : List Step} {w : World}
    (course : Course (.new settings store principal) past w) {l : LinkId} {x : Link} (found : w.broker.link? l = some x)
    (plain : '/' ∉ x.name.toList)
    (spared : ∀ s ∈ past, s.event.attaches l = false → ∀ d ∈ nodesOf past l, s.Spares d) :
    (∀ d ∈ nodesOf past l, ∀ z, w.broker.registry.registered? d = some z →
      z.kind = .queue ∧ x.dynamicNode = some z.name ∧
        ∀ d' ∈ nodesOf past l, ∀ z', w.broker.registry.registered? d' = some z' → d' = d) ∧
    (∀ how a target, attachTarget x a = .ok target → target.dynamic = true →
      w.broker.attachResult l x a how = .ok () → let s := w.take (.attach l how a)
        ∃ y t z, ∃ d ∈ nodesOf (past ++ [s]) l, s.after.broker.link? l = some y ∧ y.target = some t ∧
          s.after.broker.registry.registered? d = some z ∧ t.address = some z.name ∧ y.dynamicNode = some z.name ∧
          ∀ d' ∈ nodesOf past l, ∀ z', w.broker.registry.registered? d' = some z' → d' = d) ∧
    (x.state = .detached → ∀ d ∈ nodesOf past l, w.broker.registry.registered? d = none) := by
  have owned := owns_of_course course spared
  have owns := owned.owns x found plain
  have hc := consistent_of_course course
  refine ⟨fun d hd z hz => ?_, fun how a target asked dynamic granted => ?_, fun detached d hd => ?_⟩
  · refine ⟨?_, owns.recorded d hd z hz, fun d' hd' z' hz' => owns.unique hc hd hd' hz hz'⟩
    obtain ⟨z', hz', kind⟩ := owns.queue d hd
    rw [(Registry.registered?_eq_some.1 hz).2] at hz'
    cases hz'
    exact kind
  · intro s
    have hc' := consistent_of_course (course.event (.attach l how a))
    obtain ⟨y, hy, leaves, -⟩ := w.leaves_take (.attach l how a) found
    obtain ⟨y', hy', tends, hmakes⟩ := World.tends_take (e := .attach l how a) found (beq_self_eq_true l)
    rw [hy] at hy'
    cases hy'
    have owns' := tends.owns hc hc' plain owns
    rw [← hmakes, ← nodesOf_append] at owns'
    obtain ⟨source, own, unsettled, target', final, r, asked', -, fits, rfl⟩ := leaves.of_ok rfl granted
    cases asked.symm.trans asked'
    -- a receiver for such a target is the node whose name the link has recorded
    cases fits with
    | relay unasked => cases dynamic.symm.trans unasked
    | node unasked => cases dynamic.symm.trans unasked
    | @dynamic serial node address resolved discards _ owned leads named =>
      obtain ⟨plain', -⟩ := owns'.named node owned
      rw [Registry.resolve_of_not_slash plain'] at leads
      obtain ⟨d, hlookup, rfl⟩ := Option.map_eq_some_iff.1 leads
      obtain ⟨z, hz, rfl⟩ := (hc'.lookup_iff node d).1 hlookup
      have haddress : address = z.name := by
        rw [← named]
        unfold Registry.nameOf
        rw [(Registry.registered?_eq_some.1 hz).2]
      refine ⟨_, _, z, d, owns'.found z.name d owned hlookup, hy, rfl, hz, congrArg some haddress, owned,
        fun d' hd' z' hz' => ?_⟩
      have tends' : w.broker.registry.Tends x.name x.dynamicNode s.after.broker.registry (some z.name) := owned ▸ tends
      exact Option.some.inj ((tends'.lookup hc owns hd' hz').symm.trans hlookup)
  · refine Option.eq_none_iff_forall_ne_some.2 fun z hz => ?_
    have unowned := owned.detached x found detached
    rw [owns.recorded d hd z hz] at unowned
    cases unowned

/-- A link that is made a queue of its own is suspended, and later attached again without a word on its target. -/
def borrowing : List Event :=
  [.link "in" { resumeSupported := true } [0] true,
    .attach 0 .plain { target := some (.node { dynamic := true }) },
    .administer (.createQueue { name := "orders" }),
    .detach 0 (some {})]

/-- It is attached to its queue once more, the only one that was made for it. -/
theorem owned_borrowing :
    let w := (World.new {} ⟨true, ∅, []⟩ {}).after borrowing
    nodesOf ((World.new {} ⟨true, ∅, []⟩ {}).history borrowing) 0 = [2] ∧
      ∃ y t, (w.take (.attach 0 .plain {})).after.broker.link? 0 = some y ∧ y.target = some t ∧
        t.address = some "temp-in-#1" ∧ y.dynamicNode = some "temp-in-#1" := by
  intro w
  have course := course_of_run (.new {} ⟨true, ∅, []⟩ {}) borrowing
  have made : nodesOf ((World.new {} ⟨true, ∅, []⟩ {}).history borrowing) 0 = [2] := by decide +kernel
  have hlink : (w.broker.link? 0).map (fun x => (x.name, x.target.map (·.dynamic),
      decide (w.broker.attachResult 0 x {} .plain = .ok ()))) = some ("in", some true, true) := by decide +kernel
  obtain ⟨x, hx, heq⟩ := Option.map_eq_some_iff.1 hlink
  simp only [Prod.mk.injEq, Option.map_eq_some_iff, decide_eq_true_eq] at heq
  obtain ⟨name, ⟨target, kept, dynamic⟩, granted⟩ := heq
  have asked : attachTarget x {} = .ok target := by simp [attachTarget, kept]
  obtain ⟨-, again, -⟩ := owned_of_course course hx (by rw [name]; decide) (by decide +kernel)
  obtain ⟨y, t, z, d, -, hy, ht, hz, address, node, same⟩ := again .plain {} target asked dynamic granted
  have before : ((w.broker.registry.registered? 2).isSome) = true := by decide +kernel
  obtain ⟨z', hz'⟩ := Option.isSome_iff_exists.1 before
  have hd : 2 = d := same 2 (by rw [made]; exact List.mem_singleton_self 2) z' hz'
  subst hd
  have hname : ((w.take (.attach 0 .plain {})).after.broker.registry.registered? 2).map (·.name) = some "temp-in-#1" := by
    decide +kernel
  rw [hz] at hname
  refine ⟨made, y, t, hy, ht, ?_, ?_⟩
  · rw [address, ← hname]
    rfl
  · rw [node, ← hname]
    rfl

end MessageBroker
