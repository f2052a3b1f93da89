import MessageBroker.Proofs.Broker.Offering
/-!
# What lasts of a queue

A queue keeps its name, whether it is durable and how much it takes, deleted or not, and once it is deleted nothing is
on it (`Registry.Lasts`).  Requests and links change no more than that allows, nor do placing and taking.
-/
namespace MessageBroker

/-- How many messages a destination takes, if there is a limit. -/
def Destination.capacity (x : Destination) : Option Nat := x.queue?.bind Queue.capacity

/-- **What of a destination lasts**, and nothing is on it as soon as it is deleted. -/
structure Destination.Lasts (x x' : Destination) : Prop where
  name : x'.name = x.name
  durable : x'.durable = x.durable
  capacity : x'.capacity = x.capacity
  emptied : (x.deleted = true → x.entries = []) → x'.deleted = true → x'.entries = []

namespace Destination.Lasts

variable {x x' x'' : Destination}

theorem refl (x : Destination) : x.Lasts x := ⟨rfl, rfl, rfl, id⟩

theorem trans (h : x.Lasts x') (h' : x'.Lasts x'') : x.Lasts x'' :=
  ⟨h'.name.trans h.name, h'.durable.trans h.durable, h'.capacity.trans h.capacity,
    fun he => h'.emptied (h.emptied he)⟩

theorem mapBindings (x : Destination) (f : BindingTable → BindingTable) : x.Lasts (x.mapBindings f) := by
  obtain ⟨_, _, _, _, _, body⟩ := x
  cases body <;> exact ⟨rfl, rfl, rfl, id⟩

theorem forget (d : DestinationId) (name : String) (i : DestinationId) (x : Destination) :
    x.Lasts (Registry.forget d name i x) := by
  have h : x.Lasts (if Registry.dependsOn d name i x then { x with fallback := none } else x) := by
    split
    · exact ⟨rfl, rfl, rfl, id⟩
    · exact refl x
  unfold Registry.forget
  exact h.trans (mapBindings _ _)

theorem bury (x : Destination) : x.Lasts (Registry.bury x) := by
  obtain ⟨_, _, _, _, _, body⟩ := x
  cases body <;> exact ⟨rfl, rfl, rfl, fun _ _ => rfl⟩

/-- Entries come to live queues only. -/
theorem mapQueue (x : Destination) {f : Queue → Queue} (capacity : ∀ c, (f c).capacity = c.capacity)
    (hf : x.deleted = true → ∀ c, c.entries = [] → (f c).entries = []) : x.Lasts (x.mapQueue f) := by
  obtain ⟨_, _, _, _, _, body⟩ := x
  cases body with
  | queue c => exact ⟨rfl, rfl, capacity c, fun he hdel => hf hdel c (he hdel)⟩
  | exchange e => exact ⟨rfl, rfl, rfl, id⟩

end Destination.Lasts

namespace Registry

/-- Nothing is on a queue that was deleted. -/
def Emptied (r : Registry) : Prop := ∀ d x, r.get? d = some x → x.deleted = true → x.entries = []

/-- **What lasts of all queues** from one registry to a later one. -/
structure Lasts (r r' : Registry) : Prop where
  kept : ∀ d x, r.get? d = some x → ∃ x', r'.get? d = some x' ∧ x.Lasts x'
  emptied : r.Emptied → r'.Emptied

variable {r r' r'' : Registry}

theorem Lasts.refl (r : Registry) : r.Lasts r := ⟨fun _ x hx => ⟨x, hx, .refl x⟩, id⟩

theorem Lasts.trans (h : r.Lasts r') (h' : r'.Lasts r'') : r.Lasts r'' := by
  refine ⟨fun d x hx => ?_, fun he => h'.emptied (h.emptied he)⟩
  obtain ⟨x', hx', h1⟩ := h.kept d x hx
  obtain ⟨x'', hx'', h2⟩ := h'.kept d x' hx'
  exact ⟨x'', hx'', h1.trans h2⟩

theorem Lasts.of_map (g : DestinationId → Destination → Destination) (hget : ∀ d, r'.get? d = (r.get? d).map (g d))
    (hg : ∀ d x, r.get? d = some x → x.Lasts (g d x)) : r.Lasts r' := by
  refine ⟨fun d x hx => ⟨g d x, by rw [hget, hx]; rfl, hg d x hx⟩, fun he d x' hx' hdel => ?_⟩
  rw [hget] at hx'
  obtain ⟨x, hx, rfl⟩ := Option.map_eq_some_iff.1 hx'
  exact (hg d x hx).emptied (he d x hx) hdel

theorem lasts_modify (r : Registry) (d : DestinationId) {f : Destination → Destination}
    (hf : ∀ x, r.get? d = some x → x.Lasts (f x)) : r.Lasts (r.modify d f) := by
  refine .of_map _ (fun i => get?_modify r d i f) fun i x hx => ?_
  split
  · rename_i hi
    exact hf x (hi ▸ hx)
  · exact .refl x

theorem lasts_add (r : Registry) {x : Destination} (blank : Blank x) : r.Lasts (r.add x).1 := by
  refine ⟨fun d y hy => ⟨y, ?_, .refl y⟩, fun he d y hy hdel => ?_⟩
  · rw [get?_add, if_neg (Nat.ne_of_lt (get?_lt hy)), hy]
  · rw [get?_add] at hy
    split at hy
    · cases hy
      exact blank.empty
    · exact he d y hy hdel

/-- **What lasts, no request changes.** -/
theorem Granted.lasts (hg : r.Granted r') : r.Lasts r' := by
  cases hg with
  | unchanged => exact .refl r
  | created x blank free suits => exact lasts_add r blank
  | alternateSet name d x f found at_d suits => exact lasts_modify r d fun _ _ => ⟨rfl, rfl, rfl, id⟩
  | bound e x y b replace at_e live target target_live other parsed =>
    exact lasts_modify r e fun z _ => .mapBindings z _
  | unbound e t key x at_e => exact lasts_modify r e fun z _ => .mapBindings z _
  | deleted name d x found at_d ordinary =>
    have h1 : r.Lasts (r.mapRegistered (forget d name)) := by
      refine .of_map _ (get?_mapRegistered r _) fun i y _ => ?_
      split
      · exact .forget d name i y
      · exact .refl y
    have h2 : (r.mapRegistered (forget d name)).Lasts ((r.mapRegistered (forget d name)).depart d x.name) := by
      refine .of_map _ (get?_depart _ d x.name) fun i y _ => ?_
      split
      · exact .bury y
      · exact .refl y
    exact (h1.trans h2).trans
      (.of_map (fun _ y => y) (fun i => by rw [get?_publish, Option.map_id']) fun _ y _ => .refl y)

end Registry

namespace Broker

open Registry

/-- Nothing is written or placed, and of the queues stays what lasts. -/
structure Stable (b b' : Broker) : Prop where
  store : b'.store = b.store
  deeds : b'.deeds = b.deeds
  lasts : b.registry.Lasts b'.registry

variable {b b' b'' : Broker}

theorem Stable.of_stock (h : b'.stock = b.stock) : Stable b b' := by
  obtain ⟨hg, hd⟩ := stock_eq_iff.1 h
  obtain ⟨hr, hs⟩ := goods_eq_iff.1 hg
  exact ⟨hs, hd, hr ▸ .refl b.registry⟩

theorem Administered.stable (h : Administered b b') : Stable b b' := by
  cases h with
  | refused ns => exact .of_stock rfl
  | granted granted copies ns => exact ⟨rfl, rfl, granted.lasts⟩
  | deleted granted es copies ns => exact ⟨rfl, rfl, granted.lasts⟩

/-- **What is done with links leaves the store alone.** -/
theorem linkSteps_stable : LinkSteps Stable where
  refl := fun _ => .of_stock rfl
  trans := fun h h' => ⟨h'.store.trans h.store, h'.deeds.trans h.deeds, h.lasts.trans h'.lasts⟩
  administered := Administered.stable
  modifyLink := fun _ _ _ _ _ => .of_stock rfl
  receivers := fun _ _ => .of_stock rfl
  dynamicNodes := fun _ _ => ⟨rfl, rfl, .of_map (fun _ x => x) (fun _ => Option.map_id'.symm) fun _ x _ => .refl x⟩
  links := fun b d x links hx => by
    refine ⟨rfl, rfl, lasts_modify b.registry d fun y hy => ?_⟩
    rw [hx] at hy
    cases hy
    exact ⟨rfl, rfl, rfl, id⟩

theorem lasts_place (b : Broker) (q : DestinationId) (entry : QueueEntry) :
    b.registry.Lasts (b.place q entry).registry := by
  unfold place
  split
  · exact .refl _
  · rename_i x live
    obtain ⟨hx, hlive⟩ := live?_eq_some.1 live
    refine lasts_modify b.registry q fun y hy => .mapQueue y (fun _ => rfl) fun hdel => ?_
    rw [hx] at hy
    cases hy
    rw [hlive] at hdel
    cases hdel

theorem lasts_placeAll : ∀ (ps : List PendingEnqueue) (b : Broker), b.registry.Lasts (b.placeAll ps).registry
  | [], b => .refl b.registry
  | p :: ps, b => (lasts_place b p.queue p.entry).trans (lasts_placeAll ps _)

theorem lasts_offer (b : Broker) (ps : List PendingEnqueue) : b.registry.Lasts (b.offer ps).registry :=
  lasts_placeAll _ (b.withRecords _)

theorem stable_pop (b : Broker) (q : DestinationId) : Stable b (b.pop q).1 := by
  unfold pop
  split
  · rename_i entry rest heq
    refine ⟨rfl, rfl, ?_⟩
    obtain ⟨x, hx, hes⟩ := Option.map_eq_some_iff.1 heq
    refine lasts_modify b.registry q fun y hy => ?_
    rw [hx] at hy
    cases hy
    obtain ⟨_, _, _, _, _, body⟩ := x
    cases body with
    | queue c =>
      refine ⟨rfl, rfl, rfl, fun he hdel => ?_⟩
      -- there was something to take, so the queue is not deleted
      have hc : c.entries = [] := he hdel
      have hes : c.entries = entry :: rest := hes
      rw [hc] at hes
      cases hes
    | exchange e => exact ⟨rfl, rfl, rfl, id⟩
  · exact .of_stock rfl

/-- **A record is due for an entry now if it was due before.** -/
theorem due_of_lasts (h : b.registry.Lasts b'.registry) {p : PendingEnqueue} (hp : b.registry.HasQueue p.queue) :
    b'.due p = b.due p := by
  obtain ⟨x, hx, -⟩ := hp
  obtain ⟨x', hx', hl⟩ := h.kept p.queue x hx
  unfold due recordFor
  rw [hx, hx']
  simp only [hl.name, hl.durable]

end Broker
end MessageBroker
