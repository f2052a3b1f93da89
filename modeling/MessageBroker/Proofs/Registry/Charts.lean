import Mathlib.Data.Set.Card
import MessageBroker.Proofs.Registry.Tables
/-!
# Binding tables as finite maps

A table stands for a partial map from pairs of a key and a destination to arguments, its chart.  Whatever a table can be
asked is answered by the map (`BindingTable.Represents`), and putting in, taking out and sweeping are the operations of
maps (`chart_bind`, `chart_unbind`, `chart_removeDestination`).
-/
namespace MessageBroker

/-- With which arguments a key and a destination are bound, if they are. -/
abbrev BindingMap := String → DestinationId → Option BindingArguments

namespace BindingMap

def empty : BindingMap := fun _ _ => none

def set (m : BindingMap) (key : String) (d : DestinationId) (a : Option BindingArguments) : BindingMap :=
  fun k i => if (k, i) = (key, d) then a else m k i

/-- Binds a pair; one that is bound keeps its arguments, and the answer is false, unless it may be replaced. -/
def bind (m : BindingMap) (key : String) (d : DestinationId) (a : BindingArguments) (replace : Bool) :
    Bool × BindingMap :=
  if (m key d).isSome && !replace then (false, m) else (true, m.set key d (some a))

/-- Takes a pair out; answers whether it was there. -/
def unbind (m : BindingMap) (key : String) (d : DestinationId) : Bool × BindingMap :=
  ((m key d).isSome, m.set key d none)

/-- Takes every pair with a destination out. -/
def without (m : BindingMap) (d : DestinationId) : BindingMap := fun k i => if i = d then none else m k i

/-- The pairs that are bound. -/
def pairs (m : BindingMap) : Set (String × DestinationId) := {z | (m z.1 z.2).isSome = true}

end BindingMap

namespace BindingTable

/-- **A table represents a map**: it holds each pair of the map once, filed under the pair's key and with the selector
that its arguments mean, and every question about the table is answered by the map. -/
structure Represents (t : BindingTable) (m : BindingMap) : Prop where
  mem : ∀ key d a, m key d = some a ↔ ∃ b ∈ t.toList, b.key = key ∧ b.destination = d ∧ b.arguments = a
  once : (t.toList.map Binding.pair).Nodup
  /-- The keys that have a bucket have one each, with something in it and nothing of another key. -/
  filed : (t.buckets.map Prod.fst).Nodup ∧ ∀ p ∈ t.buckets, p.2 ≠ [] ∧ ∀ b ∈ p.2, b.key = p.1
  compiled : ∀ b ∈ t.toList, b.arguments.selector = .ok b.selector
  isKeyBound : ∀ key, t.isKeyBound key = true ↔ ∃ d, (m key d).isSome = true
  find? : ∀ key d, (t.find? key d).map (·.arguments) = m key d
  isDestinationBound : ∀ d, t.isDestinationBound d = true ↔ ∃ key, (m key d).isSome = true
  isBoundWith : ∀ key d a, t.isBoundWith key d a = true ↔ m key d = some a
  size : t.size = m.pairs.ncard
  hasBindings : 0 < t.size ↔ ∃ key d, (m key d).isSome = true

/-- The map that a table stands for. -/
def chart (t : BindingTable) : BindingMap := fun key d => (t.toList.find? (·.pair == (key, d))).map (·.arguments)

variable {t t' : BindingTable} {b : Binding} {key : String} {d : DestinationId} {a : BindingArguments}

theorem chart_eq_find? (t : BindingTable) (key : String) (d : DestinationId) :
    t.chart key d = (t.find? key d).map (·.arguments) := by
  rw [find?_eq]
  rfl

theorem chart_eq_some : t.chart key d = some a ↔ ∃ b ∈ t.toList, b.pair = (key, d) ∧ b.arguments = a := by
  rw [chart_eq_find?, Option.map_eq_some_iff]
  constructor
  · rintro ⟨b, hb, ha⟩
    obtain ⟨hm, hpair⟩ := find?_eq_some.1 hb
    exact ⟨b, hm, hpair, ha⟩
  · rintro ⟨b, hm, hpair, ha⟩
    exact ⟨b, find?_eq_some.2 ⟨hm, hpair⟩, ha⟩

theorem isSome_chart : (t.chart key d).isSome = true ↔ ∃ b ∈ t.toList, b.pair = (key, d) := by
  rw [Option.isSome_iff_exists]
  constructor
  · rintro ⟨a, ha⟩
    obtain ⟨b, hb, hpair, -⟩ := chart_eq_some.1 ha
    exact ⟨b, hb, hpair⟩
  · rintro ⟨b, hb, hpair⟩
    exact ⟨b.arguments, chart_eq_some.2 ⟨b, hb, hpair, rfl⟩⟩

/-- Tables have the same chart if they have the same pairs with the same arguments. -/
theorem chart_ext {m : BindingMap}
    (h : ∀ key d a, (∃ b ∈ t.toList, b.pair = (key, d) ∧ b.arguments = a) ↔ m key d = some a) : t.chart = m := by
  funext key d
  exact Option.ext fun a => chart_eq_some.trans (h key d a)

theorem pairs_chart (t : BindingTable) : t.chart.pairs = {z | z ∈ t.toList.map Binding.pair} := by
  ext ⟨key, d⟩
  exact isSome_chart.trans List.mem_map.symm

/-- There are as many bindings as pairs. -/
theorem size_eq_ncard (t : BindingTable) : t.size = t.chart.pairs.ncard := by
  have hset : ({z | z ∈ t.toList.map Binding.pair} : Set _) = ↑(t.toList.map Binding.pair).toFinset := by
    ext z
    simp
  rw [pairs_chart, hset, Set.ncard_coe_finset, List.toFinset_card_of_nodup t.pairs_nodup, List.length_map]
  rfl

/-- **Every table represents its chart**, if its selectors are those of its arguments. -/
theorem represents_chart (compiled : ∀ b ∈ t.toList, b.arguments.selector = .ok b.selector) : t.Represents t.chart where
  mem := fun key d a => by
    rw [chart_eq_some]
    simp only [Binding.pair, Prod.mk.injEq, and_assoc]
  once := t.pairs_nodup
  filed := ⟨t.filed.distinct, fun p hp => ⟨t.filed.nonempty p hp, t.filed.own p hp⟩⟩
  compiled := compiled
  isKeyBound := fun key => by
    unfold BindingTable.isKeyBound
    rw [Bool.not_eq_true', List.isEmpty_eq_false_iff_exists_mem]
    constructor
    · rintro ⟨b, hb⟩
      obtain ⟨hm, hk⟩ := mem_forKey.1 hb
      exact ⟨b.destination, isSome_chart.2 ⟨b, hm, Prod.ext hk rfl⟩⟩
    · rintro ⟨d, hd⟩
      obtain ⟨b, hm, hpair⟩ := isSome_chart.1 hd
      exact ⟨b, mem_forKey.2 ⟨hm, congrArg Prod.fst hpair⟩⟩
  find? := fun key d => (chart_eq_find? t key d).symm
  isDestinationBound := fun d => by
    unfold BindingTable.isDestinationBound
    rw [List.any_eq_true]
    constructor
    · rintro ⟨b, hb, hd⟩
      exact ⟨b.key, isSome_chart.2 ⟨b, hb, Prod.ext rfl (eq_of_beq hd)⟩⟩
    · rintro ⟨key, hk⟩
      obtain ⟨b, hb, hpair⟩ := isSome_chart.1 hk
      exact ⟨b, hb, beq_iff_eq.2 (congrArg Prod.snd hpair)⟩
  isBoundWith := fun key d a => by
    unfold BindingTable.isBoundWith
    rw [chart_eq_find?]
    cases t.find? key d with
    | none => simp
    | some b => simp
  size := size_eq_ncard t
  hasBindings := by
    unfold BindingTable.size
    rw [List.length_pos_iff_exists_mem]
    constructor
    · rintro ⟨b, hb⟩
      exact ⟨b.key, b.destination, isSome_chart.2 ⟨b, hb, rfl⟩⟩
    · rintro ⟨key, d, h⟩
      obtain ⟨b, hb, -⟩ := isSome_chart.1 h
      exact ⟨b, hb⟩

/-! ## What becomes of the map -/

theorem chart_of_toList_eq_nil (h : t.toList = []) : t.chart = .empty := by
  funext key d
  unfold chart
  rw [h]
  rfl

theorem chart_upsert (t : BindingTable) (b : Binding) :
    (t.upsert b).chart = t.chart.set b.key b.destination (some b.arguments) := by
  refine chart_ext fun key d a => ?_
  unfold BindingMap.set
  by_cases hpair : (key, d) = (b.key, b.destination)
  · rw [if_pos hpair, Option.some.injEq]
    constructor
    · rintro ⟨b', hb', hp, rfl⟩
      rcases mem_toList_upsert_iff.1 hb' with rfl | ⟨-, hne⟩
      · rfl
      · exact absurd (hp.trans hpair) hne
    · rintro rfl
      exact ⟨b, mem_toList_upsert_iff.2 (.inl rfl), hpair.symm, rfl⟩
  · rw [if_neg hpair, chart_eq_some]
    constructor
    · rintro ⟨b', hb', hp, ha⟩
      rcases mem_toList_upsert_iff.1 hb' with rfl | ⟨hm, -⟩
      · exact absurd hp.symm hpair
      · exact ⟨b', hm, hp, ha⟩
    · rintro ⟨b', hm, hp, ha⟩
      exact ⟨b', mem_toList_upsert_iff.2 (.inr ⟨hm, fun heq => hpair (hp.symm.trans heq)⟩), hp, ha⟩

/-- Removing bindings takes out their pairs. -/
theorem chart_removeWhere (t : BindingTable) {p : Binding → Bool} (gone : String × DestinationId → Prop)
    [DecidablePred gone] (h : ∀ b ∈ t.toList, p b = true ↔ gone b.pair) :
    (t.removeWhere p).chart = fun key d => if gone (key, d) then none else t.chart key d := by
  refine chart_ext fun key d a => ?_
  constructor
  · rintro ⟨b, hb, hpair, ha⟩
    obtain ⟨hm, hp⟩ := mem_toList_removeWhere.1 hb
    rw [if_neg fun hg => Bool.eq_false_iff.1 hp ((h b hm).2 (hpair ▸ hg))]
    exact chart_eq_some.2 ⟨b, hm, hpair, ha⟩
  · intro hs
    split at hs
    · cases hs
    · rename_i hg
      obtain ⟨b, hm, hpair, ha⟩ := chart_eq_some.1 hs
      have hp : p b = false := Bool.eq_false_iff.2 fun hp => hg (hpair ▸ (h b hm).1 hp)
      exact ⟨b, mem_toList_removeWhere.2 ⟨hm, hp⟩, hpair, ha⟩

theorem set_self {m : BindingMap} (h : m key d = some a) : m.set key d (some a) = m := by
  funext k i
  unfold BindingMap.set
  split
  · rename_i heq
    cases heq
    exact h.symm
  · rfl

/-- **Binding is what it is for maps**, and answered so. -/
theorem chart_bind (t : BindingTable) (b : Binding) (replace : Bool) :
    ((t.bind b replace).1 != .refused, (t.bind b replace).2.chart) =
      t.chart.bind b.key b.destination b.arguments replace := by
  unfold bind BindingMap.bind
  have hchart := chart_eq_find? t b.key b.destination
  cases hold : t.find? b.key b.destination with
  | none =>
    rw [hold] at hchart
    rw [hchart, chart_upsert]
    rfl
  | some old =>
    rw [hold] at hchart
    rw [hchart]
    cases replace with
    | false => rfl
    | true =>
      by_cases hsame : (old.arguments == b.arguments) = true
      · -- putting the same arguments again is no change
        simp only [hsame, if_true]
        rw [set_self (by rw [hchart, ← eq_of_beq hsame]; rfl)]
        rfl
      · simp only [hsame]
        rw [← chart_upsert]
        rfl

theorem chart_unbind (t : BindingTable) (key : String) (d : DestinationId) :
    ((t.unbind key d).1, (t.unbind key d).2.chart) = t.chart.unbind key d := by
  unfold unbind BindingMap.unbind BindingMap.set
  rw [chart_eq_find?, Option.isSome_map]
  refine Prod.ext rfl (chart_removeWhere t (fun z => z = (key, d)) fun b _ => ?_)
  simp [Binding.pair]

theorem chart_removeDestination (t : BindingTable) (d : DestinationId) :
    (t.removeDestination d).2.chart = t.chart.without d := by
  unfold removeDestination BindingMap.without
  refine chart_removeWhere t (fun z => z.2 = d) fun b _ => ?_
  simp [Binding.pair]

end BindingTable
end MessageBroker
