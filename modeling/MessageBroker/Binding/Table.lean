import MessageBroker.Binding
/-!
# Binding tables

An exchange keeps its bindings in one bucket per key.  A pair of key and destination is bound at
most once; binding it again replaces it only on request, and then moves it to the end of its
bucket.  A bucket that becomes empty disappears.
-/
namespace MessageBroker

/-- Buckets as a table keeps them: one for each key and none of them empty, with the bindings of
that key, to different destinations. -/
structure Filed (buckets : List (String × List Binding)) : Prop where
  distinct : (buckets.map Prod.fst).Nodup
  own : ∀ p ∈ buckets, ∀ b ∈ p.2, b.key = p.1
  once : ∀ p ∈ buckets, (p.2.map (·.destination)).Nodup
  nonempty : ∀ p ∈ buckets, p.2 ≠ []

structure BindingTable where
  buckets : List (String × List Binding)
  filed : Filed buckets

/-- What became of a request to bind. -/
inductive BindOutcome where
  | added | replaced | unchanged | refused
deriving DecidableEq, Repr

namespace BindingTable

theorem filed_nil : Filed [] := ⟨List.nodup_nil, by simp, by simp, by simp⟩

theorem filed_cons {p : String × List Binding} {bs : List (String × List Binding)} :
    Filed (p :: bs) ↔ p.1 ∉ bs.map Prod.fst ∧ (∀ b ∈ p.2, b.key = p.1) ∧
      (p.2.map (·.destination)).Nodup ∧ p.2 ≠ [] ∧ Filed bs := by
  constructor
  · rintro ⟨distinct, own, once, nonempty⟩
    rw [List.map_cons, List.nodup_cons] at distinct
    rw [List.forall_mem_cons] at own once nonempty
    exact ⟨distinct.1, own.1, once.1, nonempty.1, distinct.2, own.2, once.2, nonempty.2⟩
  · rintro ⟨fresh, own, once, nonempty, h⟩
    refine ⟨?_, List.forall_mem_cons.2 ⟨own, h.own⟩, List.forall_mem_cons.2 ⟨once, h.once⟩,
      List.forall_mem_cons.2 ⟨nonempty, h.nonempty⟩⟩
    rw [List.map_cons]
    exact List.nodup_cons.2 ⟨fresh, h.distinct⟩

def empty : BindingTable := ⟨[], filed_nil⟩

def forKey (t : BindingTable) (key : String) : List Binding := (t.buckets.lookup key).getD []

def toList (t : BindingTable) : List Binding := t.buckets.flatMap Prod.snd

/-- **What is filed under a key is what has that key**, in whatever order the buckets stand. -/
theorem forKey_eq_filter (t : BindingTable) (key : String) :
    t.forKey key = t.toList.filter (·.key == key) := by
  obtain ⟨buckets, filed⟩ := t
  simp only [forKey, toList]
  induction buckets with
  | nil => rfl
  | cons p rest ih =>
    obtain ⟨k, bs⟩ := p
    obtain ⟨fresh, own, -, -, hrest⟩ := filed_cons.1 filed
    rw [List.lookup_cons, List.flatMap_cons, List.filter_append]
    by_cases hk : key = k
    · subst hk
      have h1 : bs.filter (·.key == key) = bs :=
        List.filter_eq_self.2 fun b hb => by simp [own b hb]
      have h2 : (rest.flatMap Prod.snd).filter (·.key == key) = [] :=
        List.filter_eq_nil_iff.2 fun b hb hbk => by
          obtain ⟨p, hp, hbp⟩ := List.mem_flatMap.1 hb
          have hkey := hrest.own p hp b hbp
          rw [eq_of_beq hbk] at hkey
          exact fresh (List.mem_map.2 ⟨p, hp, hkey.symm⟩)
      rw [beq_self_eq_true, h1, h2, List.append_nil]
      rfl
    · have h1 : bs.filter (·.key == key) = [] := List.filter_eq_nil_iff.2 fun b hb => by
        simp [own b hb, Ne.symm hk]
      rw [beq_eq_false_iff_ne.2 hk, h1, List.nil_append]
      exact ih hrest

def size (t : BindingTable) : Nat := t.toList.length

def find? (t : BindingTable) (key : String) (d : DestinationId) : Option Binding :=
  (t.forKey key).find? (·.destination == d)

def isKeyBound (t : BindingTable) (key : String) : Bool := !(t.forKey key).isEmpty

def isDestinationBound (t : BindingTable) (d : DestinationId) : Bool :=
  t.toList.any (·.destination == d)

/-- Whether key and destination are bound with just these arguments. -/
def isBoundWith (t : BindingTable) (key : String) (d : DestinationId)
    (arguments : BindingArguments) : Bool :=
  match t.find? key d with
  | some b => b.arguments == arguments
  | none => false

def upsertBuckets (b : Binding) : List (String × List Binding) → List (String × List Binding)
  | [] => [(b.key, [b])]
  | (key, bs) :: rest =>
    if key = b.key then (key, bs.filter (·.destination != b.destination) ++ [b]) :: rest
    else (key, bs) :: upsertBuckets b rest

theorem mem_keys_upsertBuckets {b : Binding} {bs : List (String × List Binding)} {k : String}
    (h : k ∈ (upsertBuckets b bs).map Prod.fst) : k ∈ bs.map Prod.fst ∨ k = b.key := by
  induction bs with
  | nil => right; simpa [upsertBuckets] using h
  | cons p bs ih =>
    obtain ⟨key, es⟩ := p
    unfold upsertBuckets at h
    split at h
    · exact .inl h
    · rw [List.map_cons, List.mem_cons] at h ⊢
      rcases h with h | h
      · exact .inl (.inl h)
      · exact (ih h).imp_left .inr

theorem filed_upsertBuckets (b : Binding) {bs : List (String × List Binding)} (h : Filed bs) :
    Filed (upsertBuckets b bs) := by
  induction bs with
  | nil => exact filed_cons.2 ⟨List.not_mem_nil, by simp, by simp, by simp, filed_nil⟩
  | cons p bs ih =>
    obtain ⟨key, es⟩ := p
    obtain ⟨fresh, own, once, nonempty, hbs⟩ := filed_cons.1 h
    unfold upsertBuckets
    split
    · rename_i hk
      refine filed_cons.2 ⟨fresh, fun b' hb => ?_, ?_, by simp, hbs⟩
      · rcases List.mem_append.1 hb with hb | hb
        · exact own b' (List.mem_filter.1 hb).1
        · rw [List.mem_singleton.1 hb]
          exact hk.symm
      · rw [List.map_append, List.map_singleton]
        refine List.nodup_append.2 ⟨(List.filter_sublist.map _).nodup once, by simp, ?_⟩
        intro d hd d' hd'
        obtain ⟨b', hb', rfl⟩ := List.mem_map.1 hd
        rw [List.mem_singleton.1 hd']
        simpa using (List.mem_filter.1 hb').2
    · rename_i hk
      exact filed_cons.2 ⟨fun hm => (mem_keys_upsertBuckets hm).elim fresh hk, own, once, nonempty,
        ih hbs⟩

def upsert (t : BindingTable) (b : Binding) : BindingTable :=
  ⟨upsertBuckets b t.buckets, filed_upsertBuckets b t.filed⟩

theorem mem_upsertBuckets {b b' : Binding} {bs : List (String × List Binding)}
    (h : b' ∈ (upsertBuckets b bs).flatMap Prod.snd) : b' ∈ bs.flatMap Prod.snd ∨ b' = b := by
  induction bs with
  | nil => right; simpa [upsertBuckets] using h
  | cons e bs ih =>
    obtain ⟨key, es⟩ := e
    unfold upsertBuckets at h
    split at h
    · simp only [List.flatMap_cons, List.mem_append, List.mem_filter, List.mem_singleton] at h ⊢
      rcases h with (⟨h, -⟩ | h) | h
      · exact .inl (.inl h)
      · exact .inr h
      · exact .inl (.inr h)
    · simp only [List.flatMap_cons, List.mem_append] at h ⊢
      rcases h with h | h
      · exact .inl (.inl h)
      · exact (ih h).imp_left .inr

/-- Nothing but the binding itself is put in with it. -/
theorem mem_toList_upsert {t : BindingTable} {b b' : Binding} (h : b' ∈ (t.upsert b).toList) :
    b' ∈ t.toList ∨ b' = b := mem_upsertBuckets h

theorem filed_removeWhere {bs : List (String × List Binding)} (h : Filed bs) (p : Binding → Bool) :
    Filed ((bs.map fun (key, bs) => (key, bs.filter fun b => !p b)).filter (!·.2.isEmpty)) := by
  induction bs with
  | nil => exact filed_nil
  | cons e bs ih =>
    obtain ⟨key, es⟩ := e
    obtain ⟨fresh, own, once, -, hbs⟩ := filed_cons.1 h
    rw [List.map_cons]
    by_cases hes : es.filter (fun b => !p b) = []
    · rw [List.filter_cons_of_neg (by simp [hes])]
      exact ih hbs
    · rw [List.filter_cons_of_pos (by simpa using hes)]
      refine filed_cons.2 ⟨fun hm => fresh ?_, fun b hb => own b (List.mem_filter.1 hb).1,
        (List.filter_sublist.map _).nodup once, hes, ih hbs⟩
      obtain ⟨q, hq, hk⟩ := List.mem_map.1 hm
      obtain ⟨q', hq', rfl⟩ := List.mem_map.1 (List.mem_filter.1 hq).1
      exact List.mem_map.2 ⟨q', hq', hk⟩

def removeWhere (t : BindingTable) (p : Binding → Bool) : BindingTable :=
  ⟨(t.buckets.map fun (key, bs) => (key, bs.filter fun b => !p b)).filter (!·.2.isEmpty),
    filed_removeWhere t.filed p⟩

theorem mem_toList_removeWhere {t : BindingTable} {p : Binding → Bool} {b : Binding} :
    b ∈ (t.removeWhere p).toList ↔ b ∈ t.toList ∧ p b = false := by
  simp only [removeWhere, toList, List.mem_flatMap, List.mem_filter, List.mem_map]
  constructor
  · rintro ⟨⟨k, bs⟩, ⟨⟨⟨k', bs'⟩, hm, he⟩, _⟩, hb⟩
    cases he
    simp only [List.mem_filter] at hb
    exact ⟨⟨_, hm, hb.1⟩, by simpa using hb.2⟩
  · rintro ⟨⟨⟨k, bs⟩, hm, hb⟩, hp⟩
    refine ⟨(k, bs.filter fun b => !p b), ⟨⟨_, hm, rfl⟩, ?_⟩, ?_⟩
    · have : b ∈ bs.filter fun b => !p b := List.mem_filter.2 ⟨hb, by simp [hp]⟩
      cases h : bs.filter fun b => !p b with
      | nil => simp [h] at this
      | cons => rfl
    · exact List.mem_filter.2 ⟨hb, by simp [hp]⟩

def bind (t : BindingTable) (b : Binding) (replace : Bool) : BindOutcome × BindingTable :=
  match t.find? b.key b.destination with
  | none => (.added, t.upsert b)
  | some old =>
    if !replace then (.refused, t)
    else if old.arguments == b.arguments then (.unchanged, t)
    else (.replaced, t.upsert b)

theorem mem_toList_bind {t : BindingTable} {b b' : Binding} {replace : Bool}
    (h : b' ∈ (t.bind b replace).2.toList) : b' ∈ t.toList ∨ b' = b := by
  unfold bind at h
  split at h
  · exact mem_toList_upsert h
  · split at h
    · exact .inl h
    · split at h
      · exact .inl h
      · exact mem_toList_upsert h

/-- Removes one pair of key and destination; answers whether it was bound. -/
def unbind (t : BindingTable) (key : String) (d : DestinationId) : Bool × BindingTable :=
  ((t.find? key d).isSome, t.removeWhere fun b => b.key == key && b.destination == d)

/-- Removes every binding to a destination; answers how many there were. -/
def removeDestination (t : BindingTable) (d : DestinationId) : Nat × BindingTable :=
  (t.toList.countP (·.destination == d), t.removeWhere (·.destination == d))

end BindingTable
end MessageBroker
