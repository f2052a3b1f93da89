import Mathlib.Logic.Equiv.Defs
import MessageBroker.Proofs.Registry.Tables
import MessageBroker.Registry
/-!
# Registries up to identities

Identities are given in the order of creation and mean nothing else.  Two registries that differ in them only are the
same up to a renaming (`Registry.SameUpTo`), and binding commutes with it (`BindingTable.bind_rename`).
-/
namespace MessageBroker

abbrev Renaming := Equiv.Perm DestinationId

variable {σ : Renaming}

def Alternate.rename (σ : Renaming) (a : Alternate) : Alternate := { a with target := σ a.target }

def Binding.rename (σ : Renaming) (b : Binding) : Binding := { b with destination := σ b.destination }

def RegistryEvent.rename (σ : Renaming) (e : RegistryEvent) : RegistryEvent := { e with destination := σ e.destination }

namespace BindingTable

def renameBuckets (σ : Renaming) (bs : List (String × List Binding)) : List (String × List Binding) :=
  bs.map fun p => (p.1, p.2.map (Binding.rename σ))

theorem filed_renameBuckets (σ : Renaming) {bs : List (String × List Binding)} (h : Filed bs) :
    Filed (renameBuckets σ bs) := by
  constructor
  · unfold renameBuckets
    rw [List.map_map]
    exact h.distinct
  · intro p hp b hb
    obtain ⟨q, hq, rfl⟩ := List.mem_map.1 hp
    obtain ⟨b', hb', rfl⟩ := List.mem_map.1 hb
    exact h.own q hq b' hb'
  · intro p hp
    obtain ⟨q, hq, rfl⟩ := List.mem_map.1 hp
    have hmap : ((q.2.map (Binding.rename σ)).map (·.destination)) = (q.2.map (·.destination)).map σ := by
      rw [List.map_map, List.map_map]
      rfl
    rw [hmap]
    exact (h.once q hq).map σ.injective
  · intro p hp
    obtain ⟨q, hq, rfl⟩ := List.mem_map.1 hp
    simpa using h.nonempty q hq

def rename (σ : Renaming) (t : BindingTable) : BindingTable :=
  ⟨renameBuckets σ t.buckets, filed_renameBuckets σ t.filed⟩

theorem eq_of_buckets {t t' : BindingTable} (h : t.buckets = t'.buckets) : t = t' := by
  cases t
  cases t'
  cases h
  rfl

theorem forKey_rename (t : BindingTable) (key : String) :
    (t.rename σ).forKey key = (t.forKey key).map (Binding.rename σ) := by
  have hlookup : ∀ bs : List (String × List Binding),
      (renameBuckets σ bs).lookup key = (bs.lookup key).map (List.map (Binding.rename σ)) := by
    intro bs
    induction bs with
    | nil => rfl
    | cons p bs ih =>
      change (_ :: renameBuckets σ bs).lookup key = _
      rw [List.lookup_cons, List.lookup_cons, ih]
      split <;> rfl
  unfold forKey
  change ((renameBuckets σ t.buckets).lookup key).getD [] = _
  rw [hlookup]
  cases t.buckets.lookup key <;> rfl

/-- **What is found is found under the new identity.** -/
theorem find?_rename (t : BindingTable) (key : String) (d : DestinationId) :
    (t.rename σ).find? key (σ d) = (t.find? key d).map (Binding.rename σ) := by
  unfold find?
  rw [forKey_rename, List.find?_map]
  refine congrArg (Option.map _) (congrArg (List.find? · _) (funext fun b => ?_))
  simp [Binding.rename]

theorem upsertBuckets_rename (b : Binding) (bs : List (String × List Binding)) :
    upsertBuckets (b.rename σ) (renameBuckets σ bs) = renameBuckets σ (upsertBuckets b bs) := by
  induction bs with
  | nil => rfl
  | cons p bs ih =>
    obtain ⟨key, es⟩ := p
    have hfilter : (es.map (Binding.rename σ)).filter (·.destination != (b.rename σ).destination) =
        (es.filter (·.destination != b.destination)).map (Binding.rename σ) := by
      rw [List.filter_map]
      refine congrArg (List.map _) (congrArg (List.filter · _) (funext fun e => ?_))
      simp [Binding.rename, bne]
    change upsertBuckets (b.rename σ) ((key, es.map (Binding.rename σ)) :: renameBuckets σ bs) = _
    unfold upsertBuckets
    by_cases hk : key = b.key
    · rw [if_pos hk, if_pos (show key = (b.rename σ).key from hk), hfilter]
      simp [renameBuckets]
    · rw [if_neg hk, if_neg (show ¬key = (b.rename σ).key from hk), ih]
      rfl

/-- **Binding commutes with renaming.** -/
theorem bind_rename (t : BindingTable) (b : Binding) (replace : Bool) :
    (t.rename σ).bind (b.rename σ) replace = ((t.bind b replace).1, (t.bind b replace).2.rename σ) := by
  have hupsert : (t.rename σ).upsert (b.rename σ) = (t.upsert b).rename σ :=
    eq_of_buckets (upsertBuckets_rename b t.buckets)
  have hfind : (t.rename σ).find? (b.rename σ).key (b.rename σ).destination =
      (t.find? b.key b.destination).map (Binding.rename σ) := find?_rename t b.key b.destination
  unfold bind
  rw [hfind, hupsert]
  cases t.find? b.key b.destination with
  | none => rfl
  | some old =>
    cases replace with
    | false => rfl
    | true => by_cases hsame : (old.arguments == b.arguments) = true <;> simp [Binding.rename, hsame]

end BindingTable

def Destination.rename (σ : Renaming) (x : Destination) : Destination where
  name := x.name
  durable := x.durable
  fallback := x.fallback.map (Alternate.rename σ)
  deleted := x.deleted
  links := x.links
  body := match x.body with
    | .queue q => .queue q
    | .exchange e => .exchange { e with bindings := e.bindings.rename σ }

theorem Destination.kind_rename (x : Destination) : (x.rename σ).kind = x.kind := by
  obtain ⟨_, _, _, _, _, body⟩ := x
  cases body <;> rfl

/-- **A registry is another up to identities**: each destination has its counterpart, under the same name, with the same
contents, and with the alternate and the bindings that lead to the counterparts.  The order of creation may differ. -/
structure Registry.SameUpTo (σ : Renaming) (r r' : Registry) : Prop where
  settings : r'.settings = r.settings
  destinations : ∀ d, r'.get? (σ d) = (r.get? d).map (Destination.rename σ)
  names : ∀ name, r'.lookup name = (r.lookup name).map σ
  ids : r'.ids.Perm (r.ids.map σ)
  events : r'.events.Perm (r.events.map (RegistryEvent.rename σ))
  dynamicNodes : r'.dynamicNodes = r.dynamicNodes.map σ

end MessageBroker
