import MessageBroker.Proofs.Topology.Renaming
import MessageBroker.Proofs.Topology.SettingUp
/-!
# The order of declarations

Queues and exchanges may be declared in any order: a topology in which they are permuted is valid just when the other
is, and comes to the same registry up to identities.
-/
namespace MessageBroker

/-! ## Places in permuted lists -/

section Places

variable {α : Type} [DecidableEq α] {l l' : List α}

/-- The place in another list of what is at some place in one. -/
def placeIn (l l' : List α) (i : Nat) : Nat :=
  match l[i]? with
  | some a => l'.idxOf a
  | none => i

theorem getElem?_placeIn (h : l.Perm l') (i : Nat) : l'[placeIn l l' i]? = l[i]? := by
  unfold placeIn
  cases ha : l[i]? with
  | none =>
    simp only
    rw [List.getElem?_eq_none_iff] at ha ⊢
    exact h.length_eq ▸ ha
  | some a => exact getElem?_idxOf (h.subset (List.mem_of_getElem? ha))

theorem placeIn_placeIn (distinct : l.Nodup) (h : l.Perm l') (i : Nat) : placeIn l' l (placeIn l l' i) = i := by
  change (match l'[placeIn l l' i]? with
    | some a => l.idxOf a
    | none => placeIn l l' i) = i
  rw [getElem?_placeIn h]
  cases ha : l[i]? with
  | none =>
    unfold placeIn
    rw [ha]
  | some a => exact idxOf_of_getElem? distinct ha

/-- The permutation of places. -/
def places (distinct : l.Nodup) (h : l.Perm l') : Equiv.Perm Nat where
  toFun := placeIn l l'
  invFun := placeIn l' l
  left_inv := placeIn_placeIn distinct h
  right_inv := placeIn_placeIn (h.nodup_iff.1 distinct) h.symm

end Places

namespace Topology

variable {t t' : Topology} {settings : HostSettings} {σ : Renaming}

/-- Two topologies that differ in the order of queues and exchanges only. -/
structure Reordered (t t' : Topology) : Prop where
  queues : t.queues.Perm t'.queues
  exchanges : t.exchanges.Perm t'.exchanges
  bindings : t'.bindings = t.bindings

namespace Reordered

theorem symm (h : t.Reordered t') : t'.Reordered t := ⟨h.queues.symm, h.exchanges.symm, h.bindings.symm⟩

theorem profiles (h : t.Reordered t') (settings : HostSettings) : (t.profiles settings).Perm (t'.profiles settings) :=
  ((h.queues.map _).append_left _).append (h.exchanges.map _)

theorem valid (h : t.Reordered t') (valid : t.Valid settings) : t'.Valid settings where
  distinct := ((h.profiles settings).map _).nodup_iff.1 valid.distinct
  free := fun e he => valid.free e (h.exchanges.mem_iff.2 he)
  alternates := by
    simp only [← (h.profiles settings).mem_iff]
    exact valid.alternates
  bindings := by
    simp only [← (h.profiles settings).mem_iff, h.bindings]
    exact valid.bindings

/-- **Validity does not depend on the order.** -/
theorem valid_iff (h : t.Reordered t') : t.Valid settings ↔ t'.Valid settings := ⟨h.valid, h.symm.valid⟩

end Reordered

theorem Reordered.mem_names (h : t.Reordered t') {name : String} :
    name ∈ namesOf (t.blanks settings) ↔ name ∈ namesOf (t'.blanks settings) := by
  rw [namesOf_blanks, namesOf_blanks]
  exact ((h.profiles settings).map _).mem_iff

/-- A renaming that leads from the places of names in one topology to those in another. -/
structure Carries (σ : Renaming) (settings : HostSettings) (t t' : Topology) : Prop where
  profiles : ∀ d, (t'.profiles settings)[σ d]? = (t.profiles settings)[d]?
  names : ∀ name, (namesOf (t'.blanks settings)).idxOf name = σ ((namesOf (t.blanks settings)).idxOf name)

theorem Reordered.carries (h : t.Reordered t') (valid : t.Valid settings) : ∃ σ, Carries σ settings t t' := by
  have hperm := h.profiles settings
  have distinct : (t.profiles settings).Nodup := valid.distinct.of_map
  refine ⟨places distinct hperm, getElem?_placeIn hperm, fun name => ?_⟩
  have hnames' : (namesOf (t'.blanks settings)).Nodup := by
    rw [namesOf_blanks]
    exact (h.valid valid).distinct
  by_cases hname : name ∈ namesOf (t.blanks settings)
  · refine idxOf_of_getElem? hnames' ?_
    rw [namesOf_blanks, List.getElem?_map]
    change ((t'.profiles settings)[placeIn _ _ _]?).map _ = _
    rw [getElem?_placeIn hperm, ← List.getElem?_map, ← namesOf_blanks]
    exact getElem?_idxOf hname
  · -- a name that is in neither has no place to be carried to
    have hname' := mt h.mem_names.2 hname
    rw [List.idxOf_eq_length_iff.2 hname, List.idxOf_eq_length_iff.2 hname', namesOf_blanks, namesOf_blanks,
      List.length_map, List.length_map, ← hperm.length_eq]
    change _ = placeIn _ _ _
    unfold placeIn
    rw [List.getElem?_eq_none (Nat.le_refl _)]

/-! ## Setting up commutes with renaming -/

section Commuting

variable {names names' : List String} (hσ : ∀ name, names'.idxOf name = σ (names.idxOf name))
include hσ

theorem rename_toward (a : String) : (toward names a).rename σ = toward names' a := by
  unfold toward Alternate.rename
  rw [hσ]

theorem rename_binding (d : BindingDeclaration) : (d.binding names).rename σ = d.binding names' := by
  unfold BindingDeclaration.binding Binding.rename
  rw [hσ]

theorem rename_bind (x : Destination) (d : BindingDeclaration) :
    (x.rename σ).bind names' d = (x.bind names d).rename σ := by
  unfold Destination.bind
  rw [← rename_binding hσ d]
  by_cases hn : x.name = d.exchange
  · rw [if_pos hn, if_pos (show (x.rename σ).name = d.exchange from hn)]
    obtain ⟨_, _, _, _, _, body⟩ := x
    cases body with
    | queue q => rfl
    | exchange e => simp only [Destination.rename, Destination.mapBindings, BindingTable.bind_rename]
  · rw [if_neg hn, if_neg (show ¬(x.rename σ).name = d.exchange from hn)]

theorem rename_foldl_bind : ∀ (ds : List BindingDeclaration) (x : Destination),
    ds.foldl (·.bind names') (x.rename σ) = (ds.foldl (·.bind names) x).rename σ
  | [], _ => rfl
  | d :: ds, x => by rw [List.foldl_cons, List.foldl_cons, rename_bind hσ, rename_foldl_bind ds]

theorem rename_foldl_setAlternate {ps ps' : List (String × String)} (distinct : (ps.map Prod.fst).Nodup)
    (distinct' : (ps'.map Prod.fst).Nodup) (hps : ∀ name, ps'.lookup name = ps.lookup name) (x : Destination) :
    ps'.foldl (·.setAlternate names') (x.rename σ) = (ps.foldl (·.setAlternate names) x).rename σ := by
  rw [foldl_setAlternate names distinct, foldl_setAlternate names' distinct']
  have hname : (x.rename σ).name = x.name := rfl
  rw [hname, hps]
  unfold Destination.rename
  simp only
  cases ps.lookup x.name with
  | none => rfl
  | some a => simp [rename_toward hσ]

end Commuting

theorem rename_blank (σ : Renaming) (p : Profile) : p.blank.rename σ = p.blank := by
  unfold Profile.blank
  split <;> rfl

/-- **A destination is finished alike in both topologies.** -/
theorem finish_reordered (h : t.Reordered t') (valid : t.Valid settings) {names names' : List String}
    (hσ : ∀ name, names'.idxOf name = σ (names.idxOf name)) (p : Profile) :
    t'.finish names' p.blank = (t.finish names p.blank).rename σ := by
  have distinct := nodup_alternates valid.distinct
  have distinct' := nodup_alternates (h.valid valid).distinct
  have hlookup : ∀ name, t'.alternates.lookup name = t.alternates.lookup name := fun name => by
    refine Option.ext fun a => ?_
    rw [lookup_eq_some_of_nodup distinct, lookup_eq_some_of_nodup distinct', mem_alternates settings,
      mem_alternates settings]
    simp only [(h.profiles settings).mem_iff]
  unfold finish
  rw [h.bindings, ← rename_foldl_bind hσ, ← rename_foldl_setAlternate hσ distinct distinct' hlookup, rename_blank]

theorem getElem?_destinations (t : Topology) (settings : HostSettings) (d : DestinationId) :
    (t.destinations settings)[d]? =
      (t.profiles settings)[d]?.map fun p => t.finish (namesOf (t.blanks settings)) p.blank := by
  unfold destinations blanks
  rw [List.getElem?_map, List.getElem?_map, Option.map_map]
  rfl

theorem length_destinations (t : Topology) (settings : HostSettings) :
    (t.destinations settings).length = (t.profiles settings).length := by
  unfold destinations blanks
  rw [List.length_map, List.length_map]

namespace Carries

theorem lt_iff (h : Carries σ settings t t') (hlength : (t'.profiles settings).length = (t.profiles settings).length)
    (d : DestinationId) : σ d < (t.profiles settings).length ↔ d < (t.profiles settings).length := by
  have hnone : (t'.profiles settings)[σ d]? = none ↔ (t.profiles settings)[d]? = none := by rw [h.profiles]
  rw [List.getElem?_eq_none_iff, List.getElem?_eq_none_iff, hlength] at hnone
  exact lt_iff_lt_of_le_iff_le hnone

/-- The system exchanges stay where they are. -/
theorem system (h : Carries σ settings t t') : σ 0 = 0 ∧ σ 1 = 1 :=
  ⟨(h.names Registry.systemDirect).symm, (h.names Registry.systemFanout).symm⟩

end Carries

theorem perm_range_map {n : Nat} (h : ∀ d, σ d < n ↔ d < n) : (List.range n).Perm ((List.range n).map σ) := by
  rw [List.perm_ext_iff_of_nodup List.nodup_range (List.nodup_range.map σ.injective)]
  intro d
  rw [List.mem_range, List.mem_map]
  constructor
  · intro hd
    refine ⟨σ.symm d, List.mem_range.2 ((h _).1 ?_), σ.apply_symm_apply d⟩
    rw [σ.apply_symm_apply]
    exact hd
  · rintro ⟨i, hi, rfl⟩
    exact (h i).2 (List.mem_range.1 hi)

theorem drop_range_perm {n : Nat} (hn : 2 ≤ n) (h : ∀ d, σ d < n ↔ d < n) (system : σ 0 = 0 ∧ σ 1 = 1) :
    ((List.range n).drop 2).Perm (((List.range n).drop 2).map σ) := by
  have htake : (List.range n).take 2 = [0, 1] := by
    rw [List.take_range, Nat.min_eq_left hn]
    rfl
  have hperm := perm_range_map h
  rw [← List.take_append_drop 2 (List.range n), htake, List.map_append] at hperm
  have hfixed : [0, 1].map σ = [0, 1] := by simp [system]
  rw [hfixed] at hperm
  exact (List.perm_append_left_iff _).1 hperm

/-- **What two such topologies come to is the same up to identities.** -/
theorem sameUpTo_of_comprises (h : t.Reordered t') (valid : t.Valid settings) (carries : Carries σ settings t t')
    {r r' : Registry} (holds : r.Comprises settings (t.destinations settings))
    (holds' : r'.Comprises settings (t'.destinations settings)) : r.SameUpTo σ r' := by
  have hget : ∀ d, r'.get? (σ d) = (r.get? d).map (Destination.rename σ) := fun d => by
    rw [holds.get?, holds'.get?, getElem?_destinations, getElem?_destinations, carries.profiles, Option.map_map]
    exact congrArg (Option.map · _) (funext fun p => finish_reordered h valid carries.names p)
  have hcreation : ∀ d, r'.creation? (σ d) = (r.creation? d).map (RegistryEvent.rename σ) := fun d => by
    unfold Registry.creation?
    rw [hget, Option.map_map, Option.map_map]
    refine congrArg (Option.map · _) (funext fun x => ?_)
    simp only [Function.comp_apply, Destination.kind_rename]
    rfl
  have hlength := (h.profiles settings).length_eq.symm
  have hids : r.ids = List.range (t.profiles settings).length := by rw [holds.ids, length_destinations]
  have hids' : r'.ids = List.range (t.profiles settings).length := by rw [holds'.ids, length_destinations, hlength]
  have hsystem : 2 ≤ (t.profiles settings).length := length_destinations t settings ▸ holds.system
  constructor
  · rw [holds.settings, holds'.settings]
  · exact hget
  · intro name
    by_cases hname : name ∈ namesOf (t.blanks settings)
    · rw [holds.lookup_of_mem (namesOf_destinations t settings ▸ hname),
        holds'.lookup_of_mem (namesOf_destinations t' settings ▸ h.mem_names.1 hname), namesOf_destinations,
        namesOf_destinations, carries.names]
      rfl
    · rw [holds.lookup_eq_none.2 (namesOf_destinations t settings ▸ hname),
        holds'.lookup_eq_none.2 (namesOf_destinations t' settings ▸ mt h.mem_names.2 hname)]
      rfl
  · rw [hids, hids']
    exact perm_range_map (carries.lt_iff hlength)
  · have hcomp : r'.creation? ∘ σ = fun d => (r.creation? d).map (RegistryEvent.rename σ) := funext hcreation
    have hperm := (drop_range_perm hsystem (carries.lt_iff hlength) carries.system).filterMap r'.creation?
    rw [List.filterMap_map, ← hids, hcomp] at hperm
    rw [holds.events, holds'.events, hids', ← hids, List.map_filterMap]
    exact hperm
  · rw [holds.dynamicNodes, holds'.dynamicNodes]
    rfl

/-- Both queues have alternates; that of the first is an exchange, and so declared after it. -/
def shop : Topology where
  queues :=
    [{ name := "orders", durable := true, alternate := some "strays" },
     { name := "urgent", alternate := some "orders", capacity := some 5 }]
  exchanges := [{ name := "shop", alternate := some "urgent" }, { name := "strays", type := .fanout, durable := true }]
  bindings :=
    [{ exchange := "shop", destination := "orders", key := "new" },
     { exchange := "shop", destination := "urgent", key := "new" },
     { exchange := "shop", destination := "orders", key := "new", replace := true,
       arguments := .ofList [("x-replacement-routing-key", "late")] }]

end Topology

namespace Broker

open MessageBroker.Topology (shop)

variable {b : Broker} {settings : HostSettings}

/-- **A topology is set up as it is declared, in whatever order.**  Applied to a new registry, one in which queues and
exchanges are permuted is accepted just when the other is; and if they are, the registry shows just what was declared,
and the two registries are the same up to identities. -/
theorem applyTopology_reordered (new : b.registry = .new settings) {t t' : Topology}
    (queues : t.queues.Perm t'.queues) (exchanges : t.exchanges.Perm t'.exchanges)
    (bindings : t'.bindings = t.bindings) :
    ((b.applyTopology t).2 = .ok () ↔ (b.applyTopology t').2 = .ok ()) ∧
      ((b.applyTopology t).2 = .ok () →
        t.SetUp settings (b.applyTopology t).1.registry ∧
          ∃ σ, Registry.SameUpTo σ (b.applyTopology t).1.registry (b.applyTopology t').1.registry) := by
  have h : t.Reordered t' := ⟨queues, exchanges, bindings⟩
  have hdeclared := applyTopology_declared new t
  have hdeclared' := applyTopology_declared new t'
  refine ⟨?_, fun hok => ?_⟩
  · rw [hdeclared.eq_ok, hdeclared'.eq_ok]
    exact h.valid_iff
  · have valid := hdeclared.eq_ok.1 hok
    have holds := hdeclared.comprises valid
    have holds' := hdeclared'.comprises (h.valid valid)
    obtain ⟨σ, carries⟩ := h.carries valid
    exact ⟨Topology.setUp_of_comprises valid holds, σ, Topology.sameUpTo_of_comprises h valid carries holds holds'⟩

theorem applyTopology_shop :
    let b := Broker.new {} ⟨false, ∅, []⟩ {}
    let reversed := { shop with queues := shop.queues.reverse, exchanges := shop.exchanges.reverse }
    (b.applyTopology shop).2 = .ok () ∧ (b.applyTopology reversed).2 = .ok () ∧
      shop.SetUp {} (b.applyTopology shop).1.registry ∧
      ∃ σ, Registry.SameUpTo σ (b.applyTopology shop).1.registry (b.applyTopology reversed).1.registry := by
  intro b reversed
  have hok : (b.applyTopology shop).2 = .ok () := ok_of_toOption (by decide +kernel)
  have new : b.registry = .new {} := rfl
  have queues : shop.queues.Perm reversed.queues := (List.reverse_perm _).symm
  have exchanges : shop.exchanges.Perm reversed.exchanges := (List.reverse_perm _).symm
  obtain ⟨accepted, established⟩ := applyTopology_reordered new queues exchanges rfl
  exact ⟨hok, accepted.1 hok, established hok⟩

end Broker
end MessageBroker
