import Mathlib.Data.Finset.Dedup
import Mathlib.Data.Finset.Erase
import Mathlib.Data.Finset.Insert
import MessageBroker.Proofs.Registry.Nodes
import MessageBroker.Proofs.Topology.Contents
/-!
# What subscribers can know of a registry

A subscriber that knows which destinations are registered, and is told of a change, knows it afterwards too: each change
to the registered destinations is announced once, as it is made, and no other change is announced (`Granted.tells`).
-/
namespace MessageBroker

/-- What a subscriber knows of a registered destination. -/
structure DirectoryEntry where
  destination : DestinationId
  kind : DestinationKind
  name : String
deriving DecidableEq, Repr

namespace RegistryEvent

/-- News that agrees with what is known: what is created is new by identity and by name, and what is deleted is known
just so. -/
def Fits (known : Finset DirectoryEntry) : RegistryEvent → Prop
  | ⟨.created, d, _, name⟩ => ∀ x ∈ known, x.destination ≠ d ∧ x.name ≠ name
  | ⟨.deleted, d, kind, name⟩ => ⟨d, kind, name⟩ ∈ known

instance (known : Finset DirectoryEntry) : (e : RegistryEvent) → Decidable (e.Fits known)
  | ⟨.created, d, _, name⟩ => inferInstanceAs (Decidable (∀ x ∈ known, x.destination ≠ d ∧ x.name ≠ name))
  | ⟨.deleted, d, kind, name⟩ => inferInstanceAs (Decidable (⟨d, kind, name⟩ ∈ known))

def apply (known : Finset DirectoryEntry) : RegistryEvent → Finset DirectoryEntry
  | ⟨.created, d, kind, name⟩ => insert ⟨d, kind, name⟩ known
  | ⟨.deleted, d, kind, name⟩ => known.erase ⟨d, kind, name⟩

variable {known : Finset DirectoryEntry} {d : DestinationId} {kind : DestinationKind} {name : String}

theorem fits_created : Fits known ⟨.created, d, kind, name⟩ ↔ ∀ x ∈ known, x.destination ≠ d ∧ x.name ≠ name := Iff.rfl

theorem fits_deleted : Fits known ⟨.deleted, d, kind, name⟩ ↔ ⟨d, kind, name⟩ ∈ known := Iff.rfl

/-- **What is known after some news**, if all of it agrees with what was known at the time. -/
def replay? (known : Finset DirectoryEntry) (news : List RegistryEvent) : Option (Finset DirectoryEntry) :=
  news.foldlM (fun known e => if e.Fits known then some (e.apply known) else none) known

end RegistryEvent

namespace Registry

open RegistryEvent

def entry? (r : Registry) (d : DestinationId) : Option DirectoryEntry := (r.get? d).map fun x => ⟨d, x.kind, x.name⟩

/-- The registered destinations. -/
def directory (r : Registry) : Finset DirectoryEntry := (r.ids.filterMap r.entry?).toFinset

/-- **A registry has become another one, and this is what was published of it.** -/
structure Tells (r r' : Registry) (news : List RegistryEvent) : Prop where
  events : r'.events = r.events ++ news
  replay : replay? r.directory news = some r'.directory

variable {r r' r'' : Registry} {news news' : List RegistryEvent} {d : DestinationId} {x : Destination}
  {e : DirectoryEntry}

/-! ## Looking a destination up -/

theorem entry?_some (hx : r.get? d = some x) : r.entry? d = some ⟨d, x.kind, x.name⟩ := by
  unfold entry?
  rw [hx]
  rfl

theorem mem_directory : e ∈ r.directory ↔ e.destination ∈ r.ids ∧ r.entry? e.destination = some e := by
  unfold directory
  rw [List.mem_toFinset, List.mem_filterMap]
  constructor
  · rintro ⟨d, hd, he⟩
    obtain ⟨x, -, rfl⟩ := Option.map_eq_some_iff.1 he
    exact ⟨hd, he⟩
  · rintro ⟨hd, he⟩
    exact ⟨_, hd, he⟩

theorem mem_directory_of_registered (hx : r.registered? d = some x) : ⟨d, x.kind, x.name⟩ ∈ r.directory := by
  obtain ⟨hd, hget⟩ := registered?_eq_some.1 hx
  exact mem_directory.2 ⟨hd, entry?_some hget⟩

theorem registered_of_mem_directory (he : e ∈ r.directory) :
    ∃ x, r.registered? e.destination = some x ∧ x.kind = e.kind ∧ x.name = e.name := by
  obtain ⟨hd, he⟩ := mem_directory.1 he
  obtain ⟨x, hx, hentry⟩ := Option.map_eq_some_iff.1 he
  exact ⟨x, registered?_eq_some.2 ⟨hd, hx⟩, congrArg DirectoryEntry.kind hentry, congrArg DirectoryEntry.name hentry⟩

/-- What is known of a destination does not change as it ages, so only the map by identity matters. -/
theorem Ages.mem_directory (ages : r.Ages r') (hc : r.Consistent) (hd : e.destination ∈ r.ids) :
    e ∈ r'.directory ↔ e.destination ∈ r'.ids ∧ e ∈ r.directory := by
  obtain ⟨x, hx, -⟩ := (hc.mem_ids _).1 hd
  obtain ⟨x', hx', name, kind, -⟩ := ages _ x hx
  rw [Registry.mem_directory, Registry.mem_directory, entry?_some hx', entry?_some hx, name, kind]
  exact and_congr_right fun _ => (and_iff_right hd).symm

theorem Ages.directory (ages : r.Ages r') (hc : r.Consistent) (ids : r'.ids = r.ids) : r'.directory = r.directory := by
  ext e
  by_cases hd : e.destination ∈ r.ids
  · rw [ages.mem_directory hc hd, ids]
    exact and_iff_right hd
  · rw [Registry.mem_directory, Registry.mem_directory, ids]
    exact iff_of_false (fun h => hd h.1) fun h => hd h.1

/-! ## News -/

theorem replay?_singleton {known : Finset DirectoryEntry} {e : RegistryEvent} (fits : e.Fits known) :
    replay? known [e] = some (e.apply known) := by
  unfold replay?
  rw [List.foldlM_cons, if_pos fits]
  rfl

theorem Tells.refl (r : Registry) : r.Tells r [] := ⟨(List.append_nil _).symm, rfl⟩

theorem Tells.trans (h : r.Tells r' news) (h' : r'.Tells r'' news') : r.Tells r'' (news ++ news') := by
  constructor
  · rw [h'.events, h.events, List.append_assoc]
  · have replay := h.replay
    unfold replay? at replay ⊢
    rw [List.foldlM_append, replay]
    exact h'.replay

/-- A change after which the same destinations are registered, and of which nothing is said. -/
theorem Ages.silent (ages : r.Ages r') (hc : r.Consistent) (ids : r'.ids = r.ids) (events : r'.events = r.events) :
    r.Tells r' [] := by
  refine ⟨events.trans (List.append_nil _).symm, ?_⟩
  rw [ages.directory hc ids]
  rfl

theorem events_publish (hx : r.get? d = some x) (c : Change) :
    (r.publish c d).events = r.events ++ [⟨c, d, x.kind, x.name⟩] := by
  unfold publish
  rw [hx]

/-! ## What is made, and what is deleted -/

/-- The identity of the next destination is not registered yet. -/
theorem Consistent.length_not_mem_ids (hc : r.Consistent) : r.destinations.length ∉ r.ids := by
  intro hd
  obtain ⟨y, hy, -⟩ := (hc.mem_ids _).1 hd
  exact Nat.lt_irrefl _ (get?_lt hy)

theorem directory_add (hc : r.Consistent) (ages : r.Ages (r.add x).1) :
    (r.add x).1.directory = insert ⟨r.destinations.length, x.kind, x.name⟩ r.directory := by
  ext e
  rw [Finset.mem_insert]
  by_cases hd : e.destination ∈ r.ids
  · have hne : e ≠ ⟨r.destinations.length, x.kind, x.name⟩ := by
      rintro rfl
      exact hc.length_not_mem_ids hd
    rw [ages.mem_directory hc hd, ids_add, or_iff_right hne]
    exact and_iff_right (List.mem_append_left _ hd)
  · have hget : (r.add x).1.get? r.destinations.length = some x := by rw [get?_add, if_pos rfl]
    rw [mem_directory, mem_directory, ids_add, List.mem_append, List.mem_singleton, or_iff_right hd]
    constructor
    · rintro ⟨hlen, he⟩
      rw [hlen, entry?_some hget] at he
      exact .inl (Option.some.inj he).symm
    · rintro (rfl | h)
      · exact ⟨rfl, entry?_some hget⟩
      · exact absurd h.1 hd

theorem directory_remove (hc : r.Consistent) (ages : r.Ages (r.remove d x.name)) (at_d : r.get? d = some x) :
    (r.remove d x.name).directory = r.directory.erase ⟨d, x.kind, x.name⟩ := by
  ext e
  rw [Finset.mem_erase]
  by_cases hd : e.destination ∈ r.ids
  · rw [ages.mem_directory hc hd, ids_remove, List.mem_filter, bne_iff_ne, and_iff_right hd]
    refine and_congr_left fun he => not_congr ⟨fun heq => ?_, fun heq => ?_⟩
    · have hentry := (mem_directory.1 he).2
      rw [heq, entry?_some at_d] at hentry
      exact (Option.some.inj hentry).symm
    · rw [heq]
  · rw [mem_directory, mem_directory, ids_remove]
    exact iff_of_false (fun h => hd (List.mem_filter.1 h.1).1) fun h => hd h.2.1

/-- **A destination that is made is announced**, and new to those who are told. -/
theorem tells_add (hc : r.Consistent) (ages : r.Ages (r.add x).1) (free : r.lookup x.name = none) :
    r.Tells (r.add x).1 [⟨.created, r.destinations.length, x.kind, x.name⟩] := by
  refine ⟨events_add r x, ?_⟩
  rw [directory_add hc ages]
  refine replay?_singleton (fits_created.2 fun e he => ?_)
  obtain ⟨y, hy, -, hname⟩ := registered_of_mem_directory he
  constructor
  · intro hd
    apply hc.length_not_mem_ids
    rw [← hd]
    exact (registered?_eq_some.1 hy).1
  · intro hn
    have hfound := (hc.lookup_iff _ _).2 ⟨y, hy, hname.trans hn⟩
    rw [free] at hfound
    cases hfound

/-- **A destination that is deleted is announced**, and known to those who are told. -/
theorem tells_remove (hc : r.Consistent) (ages : r.Ages (r.remove d x.name)) (found : r.lookup x.name = some d)
    (at_d : r.get? d = some x) : r.Tells (r.remove d x.name) [⟨.deleted, d, x.kind, x.name⟩] := by
  constructor
  · -- what is published is read off the destination that was left
    obtain ⟨x', hx', name, kind, -⟩ := ages d x at_d
    unfold remove at hx' ⊢
    rw [get?_publish] at hx'
    rw [events_publish hx', name, kind]
    rfl
  · have known := mem_directory_of_registered (hc.registered_of_lookup found at_d).1
    rw [directory_remove hc ages at_d]
    exact replay?_singleton (fits_deleted.2 known)

/-- **A request that changes which destinations are registered announces it**, and no other request does. -/
theorem Granted.tells (h : r.Granted r') (hc : r.Consistent) : ∃ news, r.Tells r' news := by
  have ages := h.ages
  cases h with
  | unchanged => exact ⟨[], .refl r⟩
  | created x blank free suits => exact ⟨_, tells_add hc ages free⟩
  | alternateSet name d x f found at_d suits => exact ⟨[], ages.silent hc rfl rfl⟩
  | bound e x y b replace at_e live target target_live other parsed => exact ⟨[], ages.silent hc rfl rfl⟩
  | unbound e t key x at_e => exact ⟨[], ages.silent hc rfl rfl⟩
  | deleted name d x found at_d ordinary =>
    obtain ⟨-, rfl⟩ := hc.registered_of_lookup found at_d
    exact ⟨_, tells_remove hc ages found at_d⟩

end Registry
end MessageBroker
