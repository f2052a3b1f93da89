import Mathlib.Data.List.Nodup
import MessageBroker.Binding.Table
/-!
# Binding tables as lists of bindings

What a table keeps in buckets, seen through the list of its bindings: finding one looks through the whole list, putting
one in takes out the one it replaces, and removing filters the list and the bindings of every key alike.
-/
namespace MessageBroker

/-- What a binding is found by. -/
def Binding.pair (b : Binding) : String × DestinationId := (b.key, b.destination)

namespace BindingTable

variable {t : BindingTable} {b b' : Binding} {key : String} {d : DestinationId}

theorem mem_forKey : b ∈ t.forKey key ↔ b ∈ t.toList ∧ b.key = key := by
  rw [forKey_eq_filter, List.mem_filter, beq_iff_eq]

/-- **A pair is found wherever it is in the table.** -/
theorem find?_eq (t : BindingTable) (key : String) (d : DestinationId) :
    t.find? key d = t.toList.find? (·.pair == (key, d)) := by
  unfold find?
  rw [forKey_eq_filter, List.find?_filter]
  refine congrArg (List.find? · t.toList) (funext fun b => ?_)
  rw [Bool.decide_and, Bool.decide_eq_true, Bool.decide_eq_true]
  rfl

theorem find?_eq_none : t.find? key d = none ↔ ∀ b ∈ t.toList, b.pair ≠ (key, d) := by
  rw [find?_eq, List.find?_eq_none]
  simp only [beq_iff_eq, ne_eq]

theorem pairs_nodup_of_filed {bs : List (String × List Binding)} (h : Filed bs) :
    ((bs.flatMap Prod.snd).map Binding.pair).Nodup := by
  induction bs with
  | nil => exact List.nodup_nil
  | cons p bs ih =>
    obtain ⟨fresh, own, once, -, hbs⟩ := filed_cons.1 h
    rw [List.flatMap_cons, List.map_append]
    refine List.nodup_append.2 ⟨?_, ih hbs, ?_⟩
    · refine List.Nodup.of_map Prod.snd ?_
      rw [List.map_map]
      exact once
    · -- the other buckets have other keys
      rintro z hz z' hz' rfl
      obtain ⟨b, hb, rfl⟩ := List.mem_map.1 hz
      obtain ⟨b', hb', heq⟩ := List.mem_map.1 hz'
      obtain ⟨q, hq, hbq⟩ := List.mem_flatMap.1 hb'
      refine fresh (List.mem_map.2 ⟨q, hq, ?_⟩)
      rw [← own b hb, ← hbs.own q hq b' hbq]
      exact congrArg Prod.fst heq

/-- **Each pair is in a table once.** -/
theorem pairs_nodup (t : BindingTable) : (t.toList.map Binding.pair).Nodup := pairs_nodup_of_filed t.filed

theorem eq_of_pair_eq (hb : b ∈ t.toList) (hb' : b' ∈ t.toList) (h : b.pair = b'.pair) : b = b' :=
  List.inj_on_of_nodup_map t.pairs_nodup hb hb' h

theorem find?_eq_some : t.find? key d = some b ↔ b ∈ t.toList ∧ b.pair = (key, d) := by
  rw [find?_eq]
  constructor
  · intro h
    exact ⟨List.mem_of_find?_eq_some h, by simpa using List.find?_some h⟩
  · rintro ⟨hb, hpair⟩
    cases h : t.toList.find? (·.pair == (key, d)) with
    | none =>
      have := List.find?_eq_none.1 h b hb
      simp [hpair] at this
    | some b' =>
      have hpair' : b'.pair = (key, d) := by simpa using List.find?_some h
      rw [eq_of_pair_eq (List.mem_of_find?_eq_some h) hb (hpair'.trans hpair.symm)]

/-! ## Putting in -/

theorem mem_upsertBuckets_iff {bs : List (String × List Binding)} (h : Filed bs) :
    b' ∈ (upsertBuckets b bs).flatMap Prod.snd ↔ b' = b ∨ b' ∈ bs.flatMap Prod.snd ∧ b'.pair ≠ b.pair := by
  induction bs with
  | nil => simp [upsertBuckets]
  | cons p bs ih =>
    obtain ⟨key, es⟩ := p
    obtain ⟨fresh, own, -, -, hbs⟩ := filed_cons.1 h
    unfold upsertBuckets
    split
    · rename_i hk
      -- what has the key is in this bucket, and the pair can differ by the destination only
      have hhere : ∀ e ∈ es, (e.pair ≠ b.pair ↔ e.destination ≠ b.destination) := fun e he => by
        simp [Binding.pair, own e he, hk]
      have hthere : ∀ e ∈ bs.flatMap Prod.snd, e.pair ≠ b.pair := fun e he heq => by
        obtain ⟨q, hq, heq'⟩ := List.mem_flatMap.1 he
        refine fresh (List.mem_map.2 ⟨q, hq, ?_⟩)
        rw [← hbs.own q hq e heq', hk]
        exact congrArg Prod.fst heq
      simp only [List.flatMap_cons, List.mem_append, List.mem_filter, List.mem_singleton, bne_iff_ne]
      constructor
      · rintro ((⟨he, hne⟩ | rfl) | he)
        · exact .inr ⟨.inl he, (hhere b' he).2 hne⟩
        · exact .inl rfl
        · exact .inr ⟨.inr he, hthere b' he⟩
      · rintro (rfl | ⟨he | he, hne⟩)
        · exact .inl (.inr rfl)
        · exact .inl (.inl ⟨he, (hhere b' he).1 hne⟩)
        · exact .inr he
    · rename_i hk
      have hhere : ∀ e ∈ es, e.pair ≠ b.pair := fun e he heq =>
        hk ((own e he).symm.trans (congrArg Prod.fst heq))
      simp only [List.flatMap_cons, List.mem_append, ih hbs]
      constructor
      · rintro (he | rfl | ⟨he, hne⟩)
        · exact .inr ⟨.inl he, hhere b' he⟩
        · exact .inl rfl
        · exact .inr ⟨.inr he, hne⟩
      · rintro (rfl | ⟨he | he, hne⟩)
        · exact .inr (.inl rfl)
        · exact .inl he
        · exact .inr (.inr ⟨he, hne⟩)

/-- **Putting a binding in takes out the one of its pair**, and no other. -/
theorem mem_toList_upsert_iff : b' ∈ (t.upsert b).toList ↔ b' = b ∨ b' ∈ t.toList ∧ b'.pair ≠ b.pair :=
  mem_upsertBuckets_iff t.filed

/-! ## Removing -/

theorem toList_removeWhere (t : BindingTable) (p : Binding → Bool) :
    (t.removeWhere p).toList = t.toList.filter (!p ·) := by
  unfold removeWhere toList
  simp only
  induction t.buckets with
  | nil => rfl
  | cons e bs ih =>
    obtain ⟨key, es⟩ := e
    rw [List.map_cons, List.flatMap_cons, List.filter_append, ← ih]
    by_cases hes : es.filter (!p ·) = []
    · rw [List.filter_cons_of_neg (by simp [hes]), hes, List.nil_append]
    · rw [List.filter_cons_of_pos (by simpa using hes), List.flatMap_cons]

/-- **Removing keeps the order of what stays**, for every key. -/
theorem forKey_removeWhere (t : BindingTable) (p : Binding → Bool) (key : String) :
    (t.removeWhere p).forKey key = (t.forKey key).filter (!p ·) := by
  rw [forKey_eq_filter, forKey_eq_filter, toList_removeWhere, List.filter_filter, List.filter_filter]
  simp only [Bool.and_comm]

/-- A table in which there is nothing to remove stays just as it is. -/
theorem removeWhere_eq_self {p : Binding → Bool} (h : ∀ b ∈ t.toList, p b = false) : t.removeWhere p = t := by
  have hkept : ∀ e ∈ t.buckets, e.2.filter (!p ·) = e.2 := fun e he =>
    List.filter_eq_self.2 fun b hb => by simp [h b (List.mem_flatMap.2 ⟨e, he, hb⟩)]
  have hmap : (t.buckets.map fun e => (e.1, e.2.filter (!p ·))) = t.buckets := by
    conv => rhs; rw [← List.map_id t.buckets]
    exact List.map_congr_left fun e he => Prod.ext rfl (hkept e he)
  have hbuckets : (t.removeWhere p).buckets = t.buckets := by
    change (t.buckets.map fun e => (e.1, e.2.filter (!p ·))).filter (!·.2.isEmpty) = t.buckets
    rw [hmap]
    exact List.filter_eq_self.2 fun e he => by simpa using t.filed.nonempty e he
  obtain ⟨buckets, filed⟩ := t
  cases h' : removeWhere ⟨buckets, filed⟩ p with
  | mk buckets' filed' =>
    rw [h'] at hbuckets
    cases hbuckets
    rfl

/-! ## Requests that come to nothing -/

/-- A request to bind that neither adds nor replaces leaves everything where it is. -/
theorem bind_eq_self {replace : Bool} (added : (t.bind b replace).1 ≠ .added)
    (replaced : (t.bind b replace).1 ≠ .replaced) : (t.bind b replace).2 = t := by
  unfold bind at added replaced ⊢
  split
  · rename_i hnone
    rw [hnone] at added
    exact absurd rfl added
  rename_i old hold
  simp only [hold] at replaced ⊢
  split
  · rfl
  rename_i hreplace
  split
  · rfl
  rename_i hother
  rw [if_neg hreplace, if_neg hother] at replaced
  exact absurd rfl replaced

theorem unbind_false (h : (t.unbind key d).1 = false) : (t.unbind key d).2 = t := by
  unfold unbind at h ⊢
  refine removeWhere_eq_self fun b hb => ?_
  have hnone : t.find? key d = none := by simpa using h
  have hne := find?_eq_none.1 hnone b hb
  rw [Bool.eq_false_iff]
  intro hboth
  simp only [Bool.and_eq_true, beq_iff_eq] at hboth
  exact hne (Prod.ext hboth.1 hboth.2)

end BindingTable
end MessageBroker
