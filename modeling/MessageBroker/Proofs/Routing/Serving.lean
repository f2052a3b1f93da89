import MessageBroker.Registry.Address
import MessageBroker.Routing
/-!
# Registries that serve the same

Addresses and routes read little of a destination: its name, where it leads, whether it is deleted, and of a queue
whether it has room, and how full it is if it has none.  Registries that agree in this lead every address and every
message to the same places (`Registry.Serves.resolve`, `Registry.Serves.route`), whichever links publish there and
whatever else is on the queues.
-/
namespace MessageBroker

/-- The same exchange, or queues with the same to say about taking a message. -/
inductive Destination.Body.Serves : Destination.Body → Destination.Body → Prop where
  | exchange (e : Exchange) : Serves (.exchange e) (.exchange e)
  | queue {q q' : Queue} (room : q'.hasRoom = q.hasRoom) (full : q.hasRoom = false → q'.depth = q.depth) :
      Serves (.queue q) (.queue q')

/-- The same destination, as far as addresses and routes go. -/
structure Destination.Serves (x x' : Destination) : Prop where
  name : x'.name = x.name
  durable : x'.durable = x.durable
  fallback : x'.fallback = x.fallback
  deleted : x'.deleted = x.deleted
  body : x.body.Serves x'.body

namespace Destination.Serves

variable {x x' x'' : Destination}

theorem exchange (h : x.Serves x') {e : Exchange} (hx : x.body = .exchange e) : x'.body = .exchange e := by
  have hbody := h.body
  rw [hx] at hbody
  cases hx' : x'.body with
  | exchange e' =>
    rw [hx'] at hbody
    cases hbody
    rfl
  | queue q' =>
    rw [hx'] at hbody
    cases hbody

theorem queue (h : x.Serves x') {q : Queue} (hx : x.body = .queue q) :
    ∃ q', x'.body = .queue q' ∧ q'.hasRoom = q.hasRoom ∧ (q.hasRoom = false → q'.depth = q.depth) := by
  have hbody := h.body
  rw [hx] at hbody
  cases hx' : x'.body with
  | exchange e' =>
    rw [hx'] at hbody
    cases hbody
  | queue q' =>
    rw [hx'] at hbody
    cases hbody with
    | queue room full => exact ⟨q', rfl, room, full⟩

theorem refl (x : Destination) : x.Serves x := by
  refine ⟨rfl, rfl, rfl, rfl, ?_⟩
  cases x.body with
  | exchange e => exact .exchange e
  | queue q => exact .queue rfl fun _ => rfl

theorem label (h : x.Serves x') : x'.label = x.label := by
  cases hx : x.body with
  | exchange e => simp [Destination.label, kind, hx, h.exchange hx, h.name]
  | queue q =>
    obtain ⟨q', hx', -⟩ := h.queue hx
    simp [Destination.label, kind, hx, hx', h.name]

theorem exchange? (h : x.Serves x') : x'.exchange? = x.exchange? := by
  cases hx : x.body with
  | exchange e => simp [Destination.exchange?, hx, h.exchange hx]
  | queue q =>
    obtain ⟨q', hx', -⟩ := h.queue hx
    simp [Destination.exchange?, hx, hx']

theorem accepts (h : x.Serves x') : x'.accepts = x.accepts := by
  cases hx : x.body with
  | exchange e => simp [Destination.accepts, hx, h.exchange hx, h.deleted]
  | queue q =>
    obtain ⟨q', hx', room, -⟩ := h.queue hx
    simp [Destination.accepts, hx, hx', h.deleted, room]

theorem alternate (h : x.Serves x') : x'.alternate = x.alternate := by
  unfold Destination.alternate
  rw [h.fallback]

theorem trans (h : x.Serves x') (h' : x'.Serves x'') : x.Serves x'' := by
  refine ⟨h'.name.trans h.name, h'.durable.trans h.durable, h'.fallback.trans h.fallback, h'.deleted.trans h.deleted, ?_⟩
  cases hx : x.body with
  | exchange e =>
    rw [h'.exchange (h.exchange hx)]
    exact .exchange e
  | queue q =>
    obtain ⟨q', hx', room, full⟩ := h.queue hx
    obtain ⟨q'', hx'', room', full'⟩ := h'.queue hx'
    rw [hx'']
    exact .queue (room'.trans room) fun hq => (full' (room.trans hq)).trans (full hq)

/-- Which links publish to a destination is no concern of addresses and routes. -/
theorem links (x : Destination) (links : List PublishingLink) : x.Serves { x with links } :=
  ⟨rfl, rfl, rfl, rfl, (refl x).body⟩

end Destination.Serves

namespace Registry

open Routing

/-- **A registry that leads and takes messages as another one does.** -/
structure Serves (r r' : Registry) : Prop where
  settings : r'.settings = r.settings
  names : r'.names = r.names
  length : r'.destinations.length = r.destinations.length
  same : ∀ d x, r.get? d = some x → ∃ x', r'.get? d = some x' ∧ x.Serves x'

variable {r r' r'' : Registry}

namespace Serves

theorem refl (r : Registry) : r.Serves r := ⟨rfl, rfl, rfl, fun _ x hx => ⟨x, hx, .refl x⟩⟩

theorem trans (h : r.Serves r') (h' : r'.Serves r'') : r.Serves r'' := by
  refine ⟨h'.settings.trans h.settings, h'.names.trans h.names, h'.length.trans h.length, fun d x hx => ?_⟩
  obtain ⟨x', hx', hs⟩ := h.same d x hx
  obtain ⟨x'', hx'', hs'⟩ := h'.same d x' hx'
  exact ⟨x'', hx'', hs.trans hs'⟩

/-- Links come to a destination and leave it. -/
theorem modify_links {d : DestinationId} {x : Destination} (hx : r.get? d = some x) (links : List PublishingLink) :
    r.Serves (r.modify d fun _ => { x with links }) := by
  refine ⟨rfl, rfl, List.length_modify .., fun i y hy => ?_⟩
  by_cases hi : d = i
  · subst hi
    rw [hx] at hy
    cases hy
    exact ⟨{ x with links }, by rw [get?_modify_self, hx]; rfl, .links x links⟩
  · exact ⟨y, by rwa [get?_modify_of_ne r hi], .refl y⟩

/-- What addresses and routes do not tell apart is the same. -/
theorem map_get? {α : Type} (h : r.Serves r') {f : Destination → α} (hf : ∀ x x', x.Serves x' → f x' = f x)
    (d : DestinationId) : (r'.get? d).map f = (r.get? d).map f := by
  cases hx : r.get? d with
  | none =>
    have hnone : r'.get? d = none :=
      List.getElem?_eq_none (Nat.le_trans (Nat.le_of_eq h.length) (List.getElem?_eq_none_iff.1 hx))
    rw [hnone]
  | some x =>
    obtain ⟨x', hx', hs⟩ := h.same d x hx
    rw [hx', Option.map_some, Option.map_some, hf x x' hs]

theorem live? (h : r.Serves r') {d : DestinationId} {x : Destination} (live : r.live? d = some x) :
    ∃ x', r'.live? d = some x' ∧ x.Serves x' := by
  obtain ⟨hx, hl⟩ := Option.filter_eq_some_iff.1 live
  obtain ⟨x', hx', hs⟩ := h.same d x hx
  exact ⟨x', Option.filter_eq_some_iff.2 ⟨hx', by rw [hs.deleted]; exact hl⟩, hs⟩

theorem live?_eq_none (h : r.Serves r') {d : DestinationId} (dead : r.live? d = none) : r'.live? d = none := by
  have hdeleted := h.map_get? (f := Destination.deleted) (fun _ _ hs => hs.deleted) d
  unfold Registry.live? at *
  cases hx : r.get? d <;> cases hx' : r'.get? d <;> simp_all [Option.filter]

theorem nameOf (h : r.Serves r') (d : DestinationId) : r'.nameOf d = r.nameOf d := by
  have hname := h.map_get? (f := Destination.name) (fun _ _ hs => hs.name) d
  unfold Registry.nameOf
  cases hx : r.get? d <;> cases hx' : r'.get? d <;> simp_all

theorem labelOf (h : r.Serves r') (d : DestinationId) : r'.labelOf d = r.labelOf d := by
  have hlabel := h.map_get? (f := Destination.label) (fun _ _ hs => hs.label) d
  unfold Registry.labelOf
  cases hx : r.get? d <;> cases hx' : r'.get? d <;> simp_all

/-! ## Addresses -/

theorem lookup (h : r.Serves r') (name : String) : r'.lookup name = r.lookup name := by
  unfold Registry.lookup
  rw [h.names]

theorem exchange? (h : r.Serves r') (d : DestinationId) :
    (r'.get? d).bind Destination.exchange? = (r.get? d).bind Destination.exchange? := by
  have hexchange := h.map_get? (f := Destination.exchange?) (fun _ _ hs => hs.exchange?) d
  cases hx : r.get? d <;> cases hx' : r'.get? d <;> simp_all

/-- **An address leads to where it led.** -/
theorem resolve (h : r.Serves r') (address : String) : r'.resolve address = r.resolve address := by
  have hexchange : ∀ name, r'.lookupExchange name = r.lookupExchange name := fun name => by
    unfold lookupExchange
    simp only [h.lookup, h.exchange?]
  unfold Registry.resolve
  simp only [h.lookup, hexchange]

end Serves

/-- **A registry in which addresses and names mean what they meant**, whatever becomes of messages there. -/
structure Guides (r r' : Registry) : Prop where
  resolve : ∀ address, r'.resolve address = r.resolve address
  nameOf : ∀ d, r'.nameOf d = r.nameOf d

theorem Guides.trans (h : r.Guides r') (h' : r'.Guides r'') : r.Guides r'' :=
  ⟨fun address => (h'.resolve address).trans (h.resolve address), fun d => (h'.nameOf d).trans (h.nameOf d)⟩

theorem Serves.guides (h : r.Serves r') : r.Guides r' := ⟨h.resolve, h.nameOf⟩

/-- What else becomes of a destination is nothing to addresses: they go by its name and by what it is. -/
theorem guides_modify {d : DestinationId} {f : Destination → Destination} (name : ∀ x, (f x).name = x.name)
    (exchange : ∀ x, (f x).exchange? = x.exchange?) : r.Guides (r.modify d f) := by
  have hget : ∀ i, (r.modify d f).get? i = if d = i then (r.get? i).map f else r.get? i := fun i => by
    by_cases hi : d = i
    · subst hi
      rw [if_pos rfl, get?_modify_self]
    · rw [if_neg hi, get?_modify_of_ne r hi]
  have hexchange : ∀ i, ((r.modify d f).get? i).bind Destination.exchange? = (r.get? i).bind Destination.exchange? :=
    fun i => by
      rw [hget]
      cases r.get? i <;> by_cases hi : d = i <;> simp [hi, exchange]
  refine ⟨fun address => ?_, fun i => ?_⟩
  · have hlookup : ∀ address, (r.modify d f).lookup address = r.lookup address := fun _ => rfl
    unfold Registry.resolve lookupExchange
    simp only [hlookup, hexchange]
  · unfold Registry.nameOf
    rw [hget]
    cases r.get? i <;> by_cases hi : d = i <;> simp [hi, name]

namespace Serves

/-! ## Routes -/

/-- A message lands where it did, and there is the same to tell about it. -/
theorem landing (h : r.Serves r') : ∀ (n : Nat) (d : DestinationId), Routing.landing r' n d = Routing.landing r n d
  | 0, _ => rfl
  | n + 1, d => by
    unfold Routing.landing
    cases live : r.live? d with
    | none => rw [h.live?_eq_none live]
    | some x =>
      obtain ⟨x', live', hs⟩ := h.live? live
      cases hx : x.body with
      | exchange e => simp only [live', hx, hs.exchange hx]
      | queue q =>
        obtain ⟨q', hx', room, full⟩ := hs.queue hx
        simp only [live', hx, hx', room, hs.name, hs.alternate, h.labelOf, h.landing n]
        cases hroom : q.hasRoom with
        | true => rfl
        | false => rw [full hroom]

theorem landingOf (h : r.Serves r') (d : DestinationId) : Routing.landingOf r' d = Routing.landingOf r d := by
  unfold Routing.landingOf
  rw [h.length, h.landing]

theorem sendTo (h : r.Serves r') (headers : Headers) (modulus : Nat) (enter : Enter) :
    Routing.sendTo ⟨r', headers, modulus⟩ enter = Routing.sendTo ⟨r, headers, modulus⟩ enter := by
  funext d key hops p
  unfold Routing.sendTo
  rw [h.landingOf]

theorem sendAlong (h : r.Serves r') (headers : Headers) (modulus : Nat) (enter : Enter) (exchange key : String)
    (hops : Nat) : ∀ (bs : List Binding) (p : Progress),
      Routing.sendAlong ⟨r', headers, modulus⟩ enter exchange key hops bs p =
        Routing.sendAlong ⟨r, headers, modulus⟩ enter exchange key hops bs p
  | [], _ => rfl
  | b :: bs, p => by
    unfold Routing.sendAlong
    simp only [h.sendTo, h.nameOf, h.sendAlong headers modulus enter exchange key hops bs]

/-- **A walk finds what it found**, and tells the same. -/
theorem walk (h : r.Serves r') (headers : Headers) (modulus : Nat) :
    ∀ fuel, Routing.walk ⟨r', headers, modulus⟩ fuel = Routing.walk ⟨r, headers, modulus⟩ fuel
  | 0 => rfl
  | fuel + 1 => by
    funext d key hops p
    unfold Routing.walk
    cases live : r.live? d with
    | none => simp only [h.live?_eq_none live]
    | some x =>
      obtain ⟨x', live', hs⟩ := h.live? live
      cases hx : x.body with
      | queue q =>
        obtain ⟨q', hx', -⟩ := hs.queue hx
        simp only [live', hx, hx']
      | exchange e =>
        simp only [live', hx, hs.exchange hx, hs.name, hs.alternate, h.settings, h.walk headers modulus fuel,
          h.sendAlong, sendToAlternate, h.sendTo, h.labelOf]

/-- **A message goes where it went**, and there is the same to tell about its way. -/
theorem route (h : r.Serves r') (exchange : DestinationId) (message : Message) (key : String)
    (properties : InstanceProperties) :
    r'.route exchange message key properties = r.route exchange message key properties := by
  unfold Registry.route walkFrom
  cases live : r.live? exchange with
  | none => rw [h.live?_eq_none live]
  | some x =>
    obtain ⟨x', live', hs⟩ := h.live? live
    simp only [live', hs.name, h.settings, h.walk]

theorem routeToQueue (h : r.Serves r') (queue : DestinationId) (message : Message) (properties : InstanceProperties) :
    r'.routeToQueue queue message properties = r.routeToQueue queue message properties := by
  unfold Registry.routeToQueue
  rw [h.map_get? fun _ _ hs => hs.accepts]

end Serves
end Registry
end MessageBroker
