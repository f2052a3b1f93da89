import MessageBroker.Proofs.Registry.Removal
import MessageBroker.Proofs.Run.Becomes
import MessageBroker.Proofs.Run.References
/-!
# What a deletion leaves

A deletion that is granted takes a destination out of both maps, with its entries, its bindings and all that leads to
it, and touches nothing else (`Broker.Removed`).  What is deleted stays so whatever a broker does afterwards, so it is
gone in every later state, also when another destination was made under its name (`deleted_of_run`).
-/
namespace MessageBroker

namespace Registry

variable {r r' : Registry} {d : DestinationId} {x : Destination}

/-- **Nothing that a broker does brings a destination back.** -/
theorem Alters.deleted (h : r.Alters r') (hx : r.get? d = some x) (hdel : x.deleted = true) :
    ∃ x', r'.get? d = some x' ∧ x'.deleted = true := by
  cases h with
  | granted granted =>
    obtain ⟨x', hx', -, kept⟩ := granted.flow.kept d x hx
    exact ⟨x', hx', kept hdel⟩
  | queue i f =>
    refine ⟨(if i = d then (·.mapQueue f) else id) x, by rw [get?_modify, hx]; rfl, ?_⟩
    split
    · obtain ⟨_, _, _, _, _, body⟩ := x
      cases body <;> exact hdel
    · exact hdel
  | links i y links at_i =>
    refine ⟨(if i = d then fun _ => { y with links } else id) x, by rw [get?_modify, hx]; rfl, ?_⟩
    split
    · rename_i hi
      subst hi
      rw [at_i] at hx
      cases hx
      exact hdel
    · exact hdel
  | dynamicNodes nodes => exact ⟨x, hx, hdel⟩

/-- What is gone stays gone. -/
theorem Becomes.gone (h : Becomes r r') (hc : r.Consistent) (hd : r.Gone d) : r'.Gone d := by
  have kept : r'.Consistent ∧ ∃ x, r'.get? d = some x ∧ x.deleted = true := by
    refine h.keeps (P := fun r => r.Consistent ∧ ∃ x, r.get? d = some x ∧ x.deleted = true) ?_ ⟨hc, hd.deleted⟩
    rintro s s' ⟨hs, x, hx, hdel⟩ alters
    exact ⟨alters.consistent hs, alters.deleted hx hdel⟩
  obtain ⟨hc', x, hx, hdel⟩ := kept
  exact hc'.gone hx hdel

end Registry

namespace Broker

open Registry

/-- **What is left of a broker when a destination `d` is deleted.** -/
structure Removed (b : Broker) (d : DestinationId) (force : Bool) (b' : Broker) : Prop where
  /-- Neither map finds it any more, and each finds all others as before. -/
  names : ∀ name, b'.registry.lookup name = (b.registry.lookup name).filter (· != d)
  ids : b'.registry.ids = b.registry.ids.filter (· != d)
  /-- Who holds it still finds nothing there. -/
  emptied : ∃ x, b'.registry.get? d = some x ∧ x.deleted = true ∧ x.entries = [] ∧ x.bindings.toList = []
  /-- Every table lost what is bound to it, and keeps the rest in order. -/
  tables : ∀ e x, e ≠ d → b.registry.get? e = some x → ∃ x', b'.registry.get? e = some x' ∧
    x'.bindings.toList = x.bindings.toList.filter (·.destination != d) ∧
    ∀ key, x'.bindings.forKey key = (x.bindings.forKey key).filter (·.destination != d)
  /-- What is registered has the alternate that it had, unless that was the one. -/
  alternates : ∀ i x, b.registry.registered? i = some x → ∃ x', b'.registry.get? i = some x' ∧
    x'.fallback = x.fallback.filter (·.target != d)
  unforced : force = false → ∀ i x, b.registry.registered? i = some x → x.alternate ≠ some d
  queues : ∀ q x c, q ≠ d → b.registry.get? q = some x → x.body = .queue c →
    ∃ x', b'.registry.get? q = some x' ∧ x'.body = .queue c
  /-- That is all that happened to what is registered, and nothing happened to what had left before. -/
  others : ∀ i x, i ≠ d → b.registry.registered? i = some x → b'.registry.get? i = some (x.without d)
  left : ∀ i, i ∉ b.registry.ids → b'.registry.get? i = b.registry.get? i
  counts : ∀ m, b'.references.count m = b.references.count m - copiesIn m (b.registry.entriesOf d)
  rest : b' = { b with
    references := b'.references
    journal := b'.journal
    registry := { b.registry with
      destinations := b'.registry.destinations
      names := b'.registry.names
      ids := b'.registry.ids
      events := b'.registry.events } }

variable {b : Broker} {name : String} {force : Bool}

/-- **A deletion that is granted removes everything about one destination and nothing else.** -/
theorem delete_removed (hc : b.registry.Consistent) (granted : (b.delete name force).2 = .ok ()) :
    ∃ d, b.registry.lookup name = some d ∧ b.Removed d force (b.delete name force).1 := by
  obtain ⟨d, x, ns, found, at_d, -, free, heq⟩ := delete_granted b granted
  obtain ⟨hreg, rfl⟩ := hc.registered_of_lookup found at_d
  have hd : d ∈ b.registry.ids := (registered?_eq_some.1 hreg).1
  have hr : (b.delete x.name force).1.registry = b.registry.remove d x.name := by
    rw [heq]
    rfl
  have hrefs : (b.delete x.name force).1.references = b.references.releaseAll (x.entries.map (·.message.id)) := by
    rw [heq]
    rfl
  have hown := get?_remove_of_registered hc found at_d hreg
  have hothers : ∀ i y, i ≠ d → b.registry.registered? i = some y →
      (b.registry.remove d x.name).get? i = some (y.without d) := fun i y hi hy => by
    rw [get?_remove_of_registered hc found at_d hy, if_neg hi]
  have hleft : ∀ i, i ∉ b.registry.ids → (b.registry.remove d x.name).get? i = b.registry.get? i :=
    fun i hi => get?_remove_of_left hd hi
  refine ⟨d, found, ?_⟩
  constructor
  case names =>
    intro n
    rw [hr, lookup_remove hc found at_d]
  case ids => rw [hr, ids_remove]
  case emptied =>
    rw [if_pos rfl] at hown
    exact ⟨_, hr ▸ hown, deleted_bury _, entries_bury _, bindings_bury _⟩
  case tables =>
    intro e y he hy
    rw [hr]
    by_cases hm : e ∈ b.registry.ids
    · have hz := hothers e y he (registered?_eq_some.2 ⟨hm, hy⟩)
      exact ⟨_, hz, toList_without y d, forKey_without y d⟩
    · -- an exchange that had left has no bindings to lose
      have hnil := hc.cleared e y hy (hc.deleted_of_left hy hm)
      refine ⟨y, (hleft e hm).trans hy, by rw [hnil]; rfl, fun key => ?_⟩
      rw [BindingTable.forKey_eq_filter, hnil]
      rfl
  case alternates =>
    intro i y hy
    have hz := get?_remove_of_registered hc found at_d hy
    refine ⟨_, hr ▸ hz, ?_⟩
    split
    · rw [fallback_bury, fallback_without]
    · rw [fallback_without]
  case unforced =>
    intro hf i y hy
    have unused := free.resolve_left (by rw [hf]; exact Bool.false_ne_true)
    exact alternate_ne_of_dependants hc found at_d unused hy
  case queues =>
    intro q y c hq hy body
    rw [hr]
    by_cases hm : q ∈ b.registry.ids
    · exact ⟨_, hothers q y hq (registered?_eq_some.2 ⟨hm, hy⟩), body_without body⟩
    · exact ⟨y, (hleft q hm).trans hy, body⟩
  case others =>
    intro i y hi hy
    rw [hr, hothers i y hi hy]
  case left =>
    intro i hi
    rw [hr, hleft i hi]
  case counts =>
    intro m
    rw [hrefs, References.count_releaseAll, count_map_id, entriesOf_some at_d]
  case rest =>
    rw [hr, ← remove_rest, heq]
    rfl

end Broker

/-- **What is deleted is gone, with all that led to it, and nothing else is**: a deletion that is granted, in whatever
state of a run, removes one destination, which was registered under that name, and in every later state it is gone, even
if its name is another one's by then. -/
theorem deleted_of_run (settings : HostSettings) (store : Store) (principal : Principal) (es : List Event)
    (name : String) (force : Bool)
    (granted : ((World.new settings store principal).after es).broker.reply (.delete name force) = .ok true) :
    let w := (World.new settings store principal).after es
    let w' := (w.take (.administer (.delete name force))).after
    w' = { w with broker := w'.broker } ∧ ∃ d, w.broker.registry.lookup name = some d ∧
      w.broker.Removed d force w'.broker ∧ ∀ later, (w'.after later).broker.registry.Gone d := by
  intro w w'
  have hc : w.broker.registry.Consistent := (upkept_of_run settings store principal es).consistent
  have hgranted : (w.broker.delete name force).2 = .ok () := by
    obtain ⟨u, hu⟩ : ∃ u, (w.broker.delete name force).2 = .ok u := by
      cases hu : (w.broker.delete name force).2 with
      | error e =>
        simp only [Broker.reply] at granted
        rw [hu] at granted
        cases granted
      | ok u => exact ⟨u, rfl⟩
    exact hu
  obtain ⟨d, found, removed⟩ := Broker.delete_removed hc hgranted
  refine ⟨rfl, d, found, removed, fun later => ?_⟩
  have hc' : w'.broker.registry.Consistent :=
    (World.becomes_take w (.administer (.delete name force))).keeps (fun _ _ h alters => alters.consistent h) hc
  obtain ⟨x, hx, hdel, -, -⟩ := removed.emptied
  exact Registry.Becomes.gone (World.becomes_after w' later) hc' (hc'.gone hx hdel)

/-- A queue with a message on it, which is bound and is the alternate of an exchange. -/
def crowd : List Event :=
  [.administer (.createQueue { name := "orders" }),
    .administer (.createExchange { name := "relay", alternate := some "orders" }),
    .administer (.bind "amq.direct" "orders" "new" .empty false),
    .route 0 ⟨⟨none, none, none, [], false, [], none⟩, 0⟩ "new" [],
    .send 0 .autoCommit]

/-- With force it is deleted all the same. -/
theorem deleted_crowd :
    let w := (World.new {} ⟨true, ∅, []⟩ {}).after crowd
    let w' := (w.take (.administer (.delete "orders" true))).after
    w.broker.reply (.delete "orders" true) = .ok true ∧ w' = { w with broker := w'.broker } ∧
      ∃ d, w.broker.registry.lookup "orders" = some d ∧ w.broker.Removed d true w'.broker ∧
        ∀ later, (w'.after later).broker.registry.Gone d := by
  intro w w'
  have answer : w.broker.reply (.delete "orders" true) = .ok true := ok_of_toOption (by decide +kernel)
  exact ⟨answer, deleted_of_run {} ⟨true, ∅, []⟩ {} crowd "orders" true answer⟩

/-- A queue that has another one as its alternate, and is deleted before it. -/
def outlived : List Event :=
  [.administer (.createQueue { name := "spare" }),
    .administer (.createQueue { name := "orders", alternate := some "spare" }),
    .administer (.delete "orders" false)]

/-- Who holds a destination that had left the registry still finds the alternate that it had: that alone does not keep
the alternate from being deleted, and is not cleared then. -/
theorem alternate_outlived :
    let w := (World.new {} ⟨true, ∅, []⟩ {}).after outlived
    let w' := (w.take (.administer (.delete "spare" false))).after
    w.broker.reply (.delete "spare" false) = .ok true ∧ w.broker.registry.lookup "spare" = some 2 ∧
      (w.broker.registry.get? 3).bind Destination.alternate = some 2 ∧
      (w'.broker.registry.get? 3).bind Destination.alternate = some 2 := by
  intro w w'
  exact ⟨ok_of_toOption (by decide +kernel), by decide +kernel, by decide +kernel, by decide +kernel⟩

end MessageBroker
