import Mathlib.Data.List.Nodup
import MessageBroker.Proofs.Registry.Requests
/-!
# Registries from which nothing was deleted

While nothing is deleted a registry is told by the list of its destinations (`Registry.Comprises`): it starts with the
system exchanges, a new destination is added at the end, and one that is changed keeps its place.
-/
namespace MessageBroker

def namesOf (xs : List Destination) : List String := xs.map Destination.name

theorem mem_namesOf {xs : List Destination} {name : String} : name ∈ namesOf xs ↔ ∃ x ∈ xs, x.name = name :=
  List.mem_map

theorem getElem?_namesOf {xs : List Destination} {d : DestinationId} {name : String} :
    (namesOf xs)[d]? = some name ↔ ∃ x, xs[d]? = some x ∧ x.name = name := by
  unfold namesOf
  rw [List.getElem?_map, Option.map_eq_some_iff]

section Places

variable {α : Type} [DecidableEq α] {xs : List α} {x : α} {i : Nat}

/-- In a list without repetition each element is at its own place. -/
theorem idxOf_of_getElem? (distinct : xs.Nodup) (h : xs[i]? = some x) : xs.idxOf x = i := by
  obtain ⟨hi, rfl⟩ := List.getElem?_eq_some_iff.1 h
  exact distinct.idxOf_getElem i hi

theorem getElem?_idxOf (h : x ∈ xs) : xs[xs.idxOf x]? = some x :=
  List.getElem?_eq_some_iff.2 ⟨List.idxOf_lt_length_iff.2 h, List.getElem_idxOf _⟩

end Places

theorem getElem?_concat {α : Type} (xs : List α) (x : α) (i : Nat) :
    (xs ++ [x])[i]? = if i = xs.length then some x else xs[i]? := by
  grind

namespace Registry

/-- The exchanges of every registry, as they are made. -/
def systemExchanges : List Destination :=
  [.newExchange systemDirect .direct true true none, .newExchange systemFanout .fanout true true none]

/-- That the destination was created, as subscribers are told. -/
def creation? (r : Registry) (d : DestinationId) : Option RegistryEvent :=
  (r.get? d).map fun x => ⟨.created, d, x.kind, x.name⟩

/-- **A registry from which nothing was deleted**: it comprises its destinations, all of them registered, each under its
own name, and all but the system exchanges announced. -/
structure Comprises (r : Registry) (settings : HostSettings) (xs : List Destination) : Prop where
  settings : r.settings = settings
  destinations : r.destinations = xs
  distinct : (namesOf xs).Nodup
  lookup : ∀ name d, r.lookup name = some d ↔ (namesOf xs)[d]? = some name
  ids : r.ids = List.range xs.length
  live : ∀ x ∈ xs, x.deleted = false
  system : 2 ≤ xs.length
  events : r.events = (r.ids.drop 2).filterMap r.creation?
  dynamicNodes : r.dynamicNodes = []

variable {r : Registry} {settings : HostSettings} {xs : List Destination} {name : String} {d : DestinationId}
  {x : Destination}

theorem destinations_add (r : Registry) (x : Destination) : (r.add x).1.destinations = r.destinations ++ [x] := by
  simp [add, publish, get?]

theorem events_add (r : Registry) (x : Destination) :
    (r.add x).1.events = r.events ++ [⟨.created, r.destinations.length, x.kind, x.name⟩] := by
  simp [add, publish, get?]

theorem dynamicNodes_add (r : Registry) (x : Destination) : (r.add x).1.dynamicNodes = r.dynamicNodes := by
  simp [add, publish, get?]

/-- A change that leaves kinds and names alone is none to what was announced. -/
theorem creation?_congr {r' : Registry} {f : Destination → Destination} (hx : r'.get? d = (r.get? d).map f)
    (hkind : ∀ x, (f x).kind = x.kind) (hname : ∀ x, (f x).name = x.name) : r'.creation? d = r.creation? d := by
  unfold creation?
  rw [hx, Option.map_map]
  refine congrArg (Option.map · (r.get? d)) (funext fun x => ?_)
  rw [Function.comp_apply, hkind, hname]

namespace Comprises

theorem get? (h : r.Comprises settings xs) (d : DestinationId) : r.get? d = xs[d]? := by
  unfold Registry.get?
  rw [h.destinations]

theorem lookup_eq_none (h : r.Comprises settings xs) : r.lookup name = none ↔ name ∉ namesOf xs := by
  rw [Option.eq_none_iff_forall_ne_some]
  constructor
  · intro hnone hmem
    exact hnone _ ((h.lookup _ _).2 (getElem?_idxOf hmem))
  · intro hmem d hd
    exact hmem (List.mem_of_getElem? ((h.lookup _ _).1 hd))

theorem lookup_of_mem (h : r.Comprises settings xs) (hname : name ∈ namesOf xs) :
    r.lookup name = some ((namesOf xs).idxOf name) := (h.lookup _ _).2 (getElem?_idxOf hname)

theorem found (h : r.Comprises settings xs) (hd : r.lookup name = some d) :
    ∃ x, r.get? d = some x ∧ x.name = name ∧ x ∈ xs ∧ (namesOf xs).idxOf name = d := by
  have hname := (h.lookup _ _).1 hd
  obtain ⟨x, hx, rfl⟩ := getElem?_namesOf.1 hname
  exact ⟨x, (h.get? d).trans hx, rfl, List.mem_of_getElem? hx, idxOf_of_getElem? h.distinct hname⟩

theorem eq_of_name (h : r.Comprises settings xs) {y : Destination} (hx : x ∈ xs) (hy : y ∈ xs) (heq : x.name = y.name) :
    x = y := List.inj_on_of_nodup_map h.distinct hx hy heq

/-- A new registry comprises the system exchanges. -/
theorem new (settings : HostSettings) : (Registry.new settings).Comprises settings systemExchanges where
  settings := rfl
  destinations := rfl
  distinct := by decide
  lookup := fun name d => by
    have hne : systemFanout ≠ systemDirect := by decide
    change [(systemDirect, 0), (systemFanout, 1)].lookup name = some d ↔ [systemDirect, systemFanout][d]? = some name
    grind
  ids := rfl
  live := by decide
  system := Nat.le_refl 2
  events := rfl
  dynamicNodes := rfl

/-- **A new destination stands beside the others.** -/
theorem add (h : r.Comprises settings xs) (fresh : x.name ∉ namesOf xs) (live : x.deleted = false) :
    (r.add x).1.Comprises settings (xs ++ [x]) where
  settings := (settings_add r x).trans h.settings
  destinations := by rw [destinations_add, h.destinations]
  distinct := by
    unfold namesOf
    rw [List.map_append]
    exact List.nodup_append_comm.1 (List.nodup_cons.2 ⟨fresh, h.distinct⟩)
  lookup := fun name d => by
    have hlen : r.destinations.length = (namesOf xs).length := by rw [h.destinations, namesOf, List.length_map]
    have happend : namesOf (xs ++ [x]) = namesOf xs ++ [x.name] := List.map_append
    rw [lookup_add, happend, hlen, getElem?_concat]
    by_cases hd : d = (namesOf xs).length
    · rw [if_pos hd]
      by_cases hname : name = x.name
      · simp [hd, hname]
      · rw [if_neg hname, h.lookup, hd, List.getElem?_eq_none (Nat.le_refl _)]
        simp [Ne.symm hname]
    · rw [if_neg hd, ← h.lookup]
      by_cases hname : name = x.name
      · rw [if_pos hname, hname, h.lookup_eq_none.2 fresh]
        simp [Ne.symm hd]
      · rw [if_neg hname]
  ids := by rw [ids_add, h.ids, h.destinations, List.length_append, List.length_singleton, List.range_succ]
  live := by
    intro y hy
    rcases List.mem_append.1 hy with hy | hy
    · exact h.live y hy
    · rw [List.mem_singleton.1 hy]
      exact live
  system := by
    rw [List.length_append]
    exact Nat.le_add_right_of_le h.system
  events := by
    have hlen : 2 ≤ r.ids.length := by rw [h.ids, List.length_range]; exact h.system
    have hold : ∀ d ∈ r.ids.drop 2, (r.add x).1.creation? d = r.creation? d := by
      intro d hd
      have hlt := List.mem_of_mem_drop hd
      rw [h.ids, List.mem_range, ← h.destinations] at hlt
      unfold creation?
      rw [get?_add, if_neg (Nat.ne_of_lt hlt)]
    have hnew : (r.add x).1.creation? r.destinations.length =
        some ⟨.created, r.destinations.length, x.kind, x.name⟩ := by
      unfold creation?
      rw [get?_add, if_pos rfl]
      rfl
    rw [events_add, ids_add, List.drop_append_of_le_length hlen, List.filterMap_append, List.filterMap_congr hold,
      ← h.events, List.filterMap_cons_some hnew]
    rfl
  dynamicNodes := by rw [dynamicNodes_add, h.dynamicNodes]

/-- What a change of one destination is, in the list. -/
theorem modify_eq_map (h : r.Comprises settings xs) (hd : r.lookup name = some d) (f : Destination → Destination) :
    xs.modify d f = xs.map fun x => if x.name = name then f x else x := by
  refine List.ext_getElem? fun i => ?_
  have hname := (h.lookup _ _).1 hd
  rw [List.getElem?_modify, List.getElem?_map]
  refine Option.map_congr fun x hx => ?_
  by_cases hi : d = i
  · subst hi
    obtain ⟨y, hy, rfl⟩ := getElem?_namesOf.1 hname
    rw [hx] at hy
    cases hy
    simp
  · have hne : x.name ≠ name := by
      rintro rfl
      exact hi (Option.some.inj (hd.symm.trans ((h.lookup _ _).2 (getElem?_namesOf.2 ⟨x, hx, rfl⟩))))
    simp [hi, hne]

/-- **A destination that is changed keeps its place**, if it keeps what it is known by. -/
theorem modify (h : r.Comprises settings xs) (hd : r.lookup name = some d) {f : Destination → Destination}
    (hname : ∀ x, (f x).name = x.name) (hkind : ∀ x, (f x).kind = x.kind) (hlive : ∀ x, (f x).deleted = x.deleted) :
    (r.modify d f).Comprises settings (xs.map fun x => if x.name = name then f x else x) := by
  have hnames : namesOf (xs.map fun x => if x.name = name then f x else x) = namesOf xs := by
    unfold namesOf
    rw [List.map_map]
    refine List.map_congr_left fun x _ => ?_
    rw [Function.comp_apply]
    split
    · exact hname x
    · rfl
  constructor
  · exact h.settings
  · rw [← h.modify_eq_map hd, ← h.destinations]
    rfl
  · rw [hnames]
    exact h.distinct
  · rw [hnames]
    exact h.lookup
  · rw [List.length_map]
    exact h.ids
  · intro y hy
    obtain ⟨x, hx, rfl⟩ := List.mem_map.1 hy
    split
    · rw [hlive]
      exact h.live x hx
    · exact h.live x hx
  · rw [List.length_map]
    exact h.system
  · refine h.events.trans (List.filterMap_congr fun i _ => (creation?_congr (get?_modify r d i f) ?_ ?_).symm)
    · intro x
      split
      · exact hkind x
      · rfl
    · intro x
      split
      · exact hname x
      · rfl
  · exact h.dynamicNodes

end Comprises
end Registry
end MessageBroker
