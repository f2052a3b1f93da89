import MessageBroker.Proofs.Registry.Requests
/-!
# The registry's invariant

Whatever requests a new registry obeys, its two maps hold the same destinations, bindings and alternates lead to
registered ones, and the system exchanges stay.  No clause is kept without the others: an alternate is cleared by its
name but has to be the destination that leaves, and a binding is swept from the registered exchanges only, so those
that left must have none.
-/
namespace MessageBroker
namespace Registry

structure Consistent (r : Registry) : Prop where
  /-- The map by identity holds each destination once, -/
  ids_nodup : r.ids.Nodup
  /-- and just those that are not deleted. -/
  mem_ids : ∀ d, d ∈ r.ids ↔ ∃ x, r.get? d = some x ∧ x.deleted = false
  /-- The map by name holds the same destinations, each under its own name. -/
  lookup_iff : ∀ name d, r.lookup name = some d ↔ ∃ x, r.registered? d = some x ∧ x.name = name
  /-- A binding in any exchange's table, registered or not, targets a registered destination. -/
  bound : ∀ e x, r.get? e = some x → ∀ b ∈ x.bindings.toList, ∃ y, r.registered? b.destination = some y
  /-- A deleted exchange has no bindings. -/
  cleared : ∀ e x, r.get? e = some x → x.deleted = true → x.bindings.toList = []
  /-- The alternate of a registered destination is another registered one of the recorded name, and durable if it
  is durable. -/
  alternate : ∀ d x a, r.registered? d = some x → x.fallback = some a → a.target ≠ d ∧
    ∃ y, r.registered? a.target = some y ∧ y.name = a.name ∧ (x.durable = true → y.durable = true)
  /-- What was registered at first still is, under its name and identity and so live (`registered_live`), and is a
  system exchange. -/
  system : ∀ name d, (new r.settings).lookup name = some d →
    r.lookup name = some d ∧ ∃ x, r.registered? d = some x ∧ x.isSystem = true

/-- What of a destination no request but its deletion changes. -/
structure Alike (x x' : Destination) : Prop where
  name : x'.name = x.name
  durable : x'.durable = x.durable
  deleted : x'.deleted = x.deleted
  isSystem : x'.isSystem = x.isSystem

theorem Alike.refl (x : Destination) : Alike x x := ⟨rfl, rfl, rfl, rfl⟩

theorem alike_mapBindings (x : Destination) (f : BindingTable → BindingTable) : Alike x (x.mapBindings f) := by
  obtain ⟨_, _, _, _, _, body⟩ := x
  cases body <;> exact ⟨rfl, rfl, rfl, rfl⟩

theorem bindings_mapBindings {x : Destination} {f : BindingTable → BindingTable} {b : Binding}
    (h : b ∈ (x.mapBindings f).bindings.toList) : b ∈ (f x.bindings).toList := by
  obtain ⟨_, _, _, _, _, body⟩ := x
  cases body with
  | queue q => cases h
  | exchange e => exact h

theorem fallback_mapBindings (x : Destination) (f : BindingTable → BindingTable) :
    (x.mapBindings f).fallback = x.fallback := by
  obtain ⟨_, _, _, _, _, body⟩ := x
  cases body <;> rfl

theorem alike_forget (d : DestinationId) (name : String) (i : DestinationId) (x : Destination) :
    Alike x (forget d name i x) := by
  have hm := alike_mapBindings (if dependsOn d name i x then { x with fallback := none } else x)
    fun t => (t.removeDestination d).2
  refine ⟨hm.name.trans ?_, hm.durable.trans ?_, hm.deleted.trans ?_, hm.isSystem.trans ?_⟩ <;> split <;> rfl

theorem mem_bindings_forget {d : DestinationId} {name : String} {i : DestinationId} {x : Destination} {b : Binding}
    (h : b ∈ (forget d name i x).bindings.toList) : b ∈ x.bindings.toList ∧ b.destination ≠ d := by
  have hb := BindingTable.mem_toList_removeWhere.1 (bindings_mapBindings h)
  refine ⟨?_, by simpa using hb.2⟩
  have h1 := hb.1
  split at h1 <;> exact h1

theorem fallback_forget {d : DestinationId} {name : String} {i : DestinationId} {x : Destination} {a : Alternate}
    (h : (forget d name i x).fallback = some a) : x.fallback = some a ∧ (i = d ∨ a.name ≠ name) := by
  unfold forget at h
  simp only [fallback_mapBindings] at h
  split at h
  · cases h
  · rename_i hdep
    refine ⟨h, Classical.or_iff_not_imp_left.2 ?_⟩
    simpa [dependsOn, Destination.alternateName, h] using hdep

theorem deleted_bury (x : Destination) : (bury x).deleted = true := by
  unfold bury
  split <;> rfl

theorem bindings_bury (x : Destination) : (bury x).bindings.toList = [] := by
  unfold bury
  split <;> rfl

namespace Consistent

variable {r r' : Registry}

theorem registered_live (h : r.Consistent) {d : DestinationId} {x : Destination} (hx : r.registered? d = some x) :
    x.deleted = false := by
  obtain ⟨hd, hg⟩ := registered?_eq_some.1 hx
  obtain ⟨y, hy, hl⟩ := (h.mem_ids d).1 hd
  rw [hg] at hy
  cases hy
  exact hl

theorem registered_of_live (h : r.Consistent) {d : DestinationId} {x : Destination} (hx : r.get? d = some x)
    (hl : x.deleted = false) : r.registered? d = some x :=
  registered?_eq_some.2 ⟨(h.mem_ids d).2 ⟨x, hx, hl⟩, hx⟩

theorem deleted_of_left (h : r.Consistent) {d : DestinationId} {x : Destination} (hx : r.get? d = some x)
    (hd : d ∉ r.ids) : x.deleted = true := by
  cases hl : x.deleted with
  | true => rfl
  | false => exact absurd ((h.mem_ids d).2 ⟨x, hx, hl⟩) hd

/-- The map by name leads to the destination of that name. -/
theorem registered_of_lookup (h : r.Consistent) {name : String} {d : DestinationId} {x : Destination}
    (hd : r.lookup name = some d) (hx : r.get? d = some x) : r.registered? d = some x ∧ x.name = name := by
  obtain ⟨y, hy, hn⟩ := (h.lookup_iff name d).1 hd
  have hg := (registered?_eq_some.1 hy).2
  rw [hx] at hg
  cases hg
  exact ⟨hy, hn⟩

/-- An alternate that suits is registered. -/
theorem registered_of_suits (h : r.Consistent) {name : String} {durable : Bool} {a : Alternate}
    (ha : r.Suits name durable a) :
    ∃ y, r.registered? a.target = some y ∧ y.name = a.name ∧ (durable = true → y.durable = true) := by
  obtain ⟨-, hl, hdur⟩ := ha
  obtain ⟨y, hy, hn⟩ := (h.lookup_iff _ _).1 hl
  refine ⟨y, hy, hn, fun hd => ?_⟩
  obtain ⟨z, hz, hzd⟩ := hdur hd
  rw [(registered?_eq_some.1 hy).2] at hz
  cases hz
  exact hzd

/-- An alternate that suits a destination is another one, since a name belongs to one destination. -/
theorem alternate_of_suits (h : r.Consistent) {d : DestinationId} {x : Destination} {a : Alternate}
    (hx : r.registered? d = some x) (ha : r.Suits x.name x.durable a) : a.target ≠ d ∧
      ∃ y, r.registered? a.target = some y ∧ y.name = a.name ∧ (x.durable = true → y.durable = true) := by
  obtain ⟨y, hy, hn, hdur⟩ := h.registered_of_suits ha
  refine ⟨fun hd => ?_, y, hy, hn, hdur⟩
  rw [hd, hx] at hy
  cases hy
  exact ha.1 hn.symm

/-- **Changing destinations in place keeps the invariant** as long as no binding and no alternate is put in that
leads elsewhere than to a registered destination. -/
theorem of_map (h : r.Consistent) (g : DestinationId → Destination → Destination)
    (hs : r'.settings = r.settings) (hn : ∀ name, r'.lookup name = r.lookup name) (hi : r'.ids = r.ids)
    (hget : ∀ d, r'.get? d = (r.get? d).map (g d)) (halike : ∀ d x, r.get? d = some x → Alike x (g d x))
    (hbound : ∀ e x, r.get? e = some x → ∀ b ∈ (g e x).bindings.toList,
      b ∈ x.bindings.toList ∨ x.deleted = false ∧ ∃ y, r.registered? b.destination = some y)
    (halt : ∀ d x a, r.registered? d = some x → (g d x).fallback = some a →
      x.fallback = some a ∨ r.Suits x.name x.durable a) : r'.Consistent := by
  have hreg : ∀ d, r'.registered? d = (r.registered? d).map (g d) := fun d => by
    unfold registered?
    rw [hi, hget]
    split <;> rfl
  have hinv : ∀ d x', r'.get? d = some x' → ∃ x, r.get? d = some x ∧ g d x = x' := fun d x' hx' => by
    rw [hget] at hx'
    exact Option.map_eq_some_iff.1 hx'
  have hkept : ∀ d, (∃ x, r.registered? d = some x) → ∃ x', r'.registered? d = some x' := by
    rintro d ⟨x, hx⟩
    exact ⟨g d x, by rw [hreg, hx]; rfl⟩
  refine ⟨by rw [hi]; exact h.ids_nodup, fun d => ?_, fun name d => ?_, fun e x' hx' b hb => ?_,
    fun e x' hx' hdel => ?_, fun d x' a hx' ha => ?_, fun name d hd => ?_⟩
  · rw [hi, h.mem_ids d]
    constructor
    · rintro ⟨x, hx, hl⟩
      exact ⟨g d x, by rw [hget, hx]; rfl, by rw [(halike d x hx).deleted, hl]⟩
    · rintro ⟨x', hx', hl⟩
      obtain ⟨x, hx, rfl⟩ := hinv d x' hx'
      exact ⟨x, hx, by rw [← (halike d x hx).deleted, hl]⟩
  · rw [hn, h.lookup_iff name d, hreg]
    constructor
    · rintro ⟨x, hx, rfl⟩
      exact ⟨g d x, by rw [hx]; rfl, (halike d x (registered?_eq_some.1 hx).2).name⟩
    · rintro ⟨x', hx', rfl⟩
      obtain ⟨x, hx, rfl⟩ := Option.map_eq_some_iff.1 hx'
      exact ⟨x, hx, (halike d x (registered?_eq_some.1 hx).2).name.symm⟩
  · obtain ⟨x, hx, rfl⟩ := hinv e x' hx'
    rcases hbound e x hx b hb with hb | ⟨-, hb⟩
    · exact hkept _ (h.bound e x hx b hb)
    · exact hkept _ hb
  · obtain ⟨x, hx, rfl⟩ := hinv e x' hx'
    rw [(halike e x hx).deleted] at hdel
    refine List.eq_nil_iff_forall_not_mem.2 fun b hb => ?_
    rcases hbound e x hx b hb with hb | ⟨hl, -⟩
    · rw [h.cleared e x hx hdel] at hb
      cases hb
    · rw [hdel] at hl
      cases hl
  · rw [hreg] at hx'
    obtain ⟨x, hx, rfl⟩ := Option.map_eq_some_iff.1 hx'
    have hx0 := (registered?_eq_some.1 hx).2
    obtain ⟨hne, y, hy, hyn, hyd⟩ : a.target ≠ d ∧
        ∃ y, r.registered? a.target = some y ∧ y.name = a.name ∧ (x.durable = true → y.durable = true) := by
      rcases halt d x a hx ha with ha | ha
      · exact h.alternate d x a hx ha
      · exact h.alternate_of_suits hx ha
    have hy' := halike _ y (registered?_eq_some.1 hy).2
    refine ⟨hne, g a.target y, by rw [hreg, hy]; rfl, by rw [hy'.name, hyn], fun hd => ?_⟩
    rw [(halike d x hx0).durable] at hd
    rw [hy'.durable, hyd hd]
  · rw [hs] at hd
    obtain ⟨hl, x, hx, hsys⟩ := h.system name d hd
    exact ⟨by rw [hn, hl], g d x, by rw [hreg, hx]; rfl, by
      rw [(halike d x (registered?_eq_some.1 hx).2).isSystem, hsys]⟩

/-- Changing one destination. -/
theorem modify (h : r.Consistent) {d : DestinationId} {x : Destination} {f : Destination → Destination}
    (at_d : r.get? d = some x) (halike : Alike x (f x)) (hbound : ∀ b ∈ (f x).bindings.toList,
      b ∈ x.bindings.toList ∨ x.deleted = false ∧ ∃ y, r.registered? b.destination = some y)
    (halt : ∀ a, (f x).fallback = some a → x.fallback = some a ∨ r.Suits x.name x.durable a) :
    (r.modify d f).Consistent := by
  have hx : ∀ {y}, r.get? d = some y → y = x := fun hy => Option.some.inj (hy.symm.trans at_d)
  refine h.of_map (fun i => if d = i then f else id) rfl (fun _ => rfl) rfl (fun i => get?_modify r d i f)
    (fun i y hy => ?_) (fun i y hy b hb => ?_) (fun i y a hy ha => ?_)
  · by_cases hi : d = i
    · subst hi
      rw [if_pos rfl, hx hy]
      exact halike
    · rw [if_neg hi]
      exact .refl y
  · by_cases hi : d = i
    · subst hi
      rw [if_pos rfl, hx hy] at hb
      rw [hx hy]
      exact hbound b hb
    · rw [if_neg hi] at hb
      exact .inl hb
  · by_cases hi : d = i
    · subst hi
      have hy := hx (registered?_eq_some.1 hy).2
      rw [if_pos rfl, hy] at ha
      rw [hy]
      exact halt a ha
    · rw [if_neg hi] at ha
      exact .inl ha

theorem publish (h : r.Consistent) (c : Change) (d : DestinationId) : (r.publish c d).Consistent :=
  h.of_map (fun _ x => x) (settings_publish r c d) (lookup_publish r c d) (ids_publish r c d)
    (fun i => by rw [get?_publish, Option.map_id']) (fun _ x _ => .refl x) (fun _ _ _ _ hb => .inl hb)
    (fun _ _ _ _ ha => .inl ha)

/-! ## Each request -/

theorem new (settings : HostSettings) : (Registry.new settings).Consistent := by
  have hget : ∀ d x, (Registry.new settings).get? d = some x →
      d = 0 ∧ x = .newExchange systemDirect .direct true true none ∨
      d = 1 ∧ x = .newExchange systemFanout .fanout true true none := by
    rintro (_ | _ | d) x hx
    · cases hx; exact .inl ⟨rfl, rfl⟩
    · cases hx; exact .inr ⟨rfl, rfl⟩
    · cases hx
  have hreg : ∀ d x, (Registry.new settings).get? d = some x → (Registry.new settings).registered? d = some x := by
    intro d x hx
    rcases hget d x hx with ⟨rfl, rfl⟩ | ⟨rfl, rfl⟩ <;> rfl
  have hname : ∀ name d, (Registry.new settings).lookup name = some d ↔
      ∃ x, (Registry.new settings).registered? d = some x ∧ x.name = name := by
    intro name d
    constructor
    · intro hl
      simp only [Registry.new, lookup, List.lookup_cons, List.lookup_nil] at hl
      split at hl
      · cases hl
        exact ⟨_, rfl, (eq_of_beq ‹_›).symm⟩
      · split at hl
        · cases hl
          exact ⟨_, rfl, (eq_of_beq ‹_›).symm⟩
        · cases hl
    · rintro ⟨x, hx, rfl⟩
      rcases hget d x (registered?_eq_some.1 hx).2 with ⟨rfl, rfl⟩ | ⟨rfl, rfl⟩ <;> rfl
  refine ⟨by simp [Registry.new], fun d => ?_, hname, fun e x hx b hb => ?_, fun e x hx hdel => ?_,
    fun d x a hx ha => ?_, fun name d hd => ⟨hd, ?_⟩⟩
  · constructor
    · intro hd
      simp only [Registry.new, List.mem_cons, List.not_mem_nil, or_false] at hd
      rcases hd with rfl | rfl <;> exact ⟨_, rfl, rfl⟩
    · rintro ⟨x, hx, -⟩
      rcases hget d x hx with ⟨rfl, -⟩ | ⟨rfl, -⟩ <;> simp [Registry.new]
  · rcases hget e x hx with ⟨rfl, rfl⟩ | ⟨rfl, rfl⟩ <;> cases hb
  · rcases hget e x hx with ⟨rfl, rfl⟩ | ⟨rfl, rfl⟩ <;> cases hdel
  · rcases hget d x (registered?_eq_some.1 hx).2 with ⟨rfl, rfl⟩ | ⟨rfl, rfl⟩ <;> cases ha
  · obtain ⟨x, hx, -⟩ := (hname name d).1 hd
    rcases hget d x (registered?_eq_some.1 hx).2 with ⟨rfl, rfl⟩ | ⟨rfl, rfl⟩ <;> exact ⟨_, rfl, rfl⟩

theorem add (h : r.Consistent) {x : Destination} (blank : Blank x) (free : r.lookup x.name = none)
    (suits : ∀ a, x.fallback = some a → r.Suits x.name x.durable a) : (r.add x).1.Consistent := by
  have hold : ∀ {d y}, r.get? d = some y → d ≠ r.destinations.length := fun hy => Nat.ne_of_lt (get?_lt hy)
  have hids : r.destinations.length ∉ r.ids := fun hn => by
    obtain ⟨y, hy, -⟩ := (h.mem_ids _).1 hn
    exact hold hy rfl
  have hkept : ∀ {d y}, r.registered? d = some y → (r.add x).1.registered? d = some y := fun hy => by
    rw [registered?_add, if_neg (hold (registered?_eq_some.1 hy).2), hy]
  have hnew : (r.add x).1.registered? r.destinations.length = some x := by rw [registered?_add, if_pos rfl]
  have hback : ∀ {d y}, (r.add x).1.get? d = some y → d = r.destinations.length ∧ y = x ∨ r.get? d = some y := by
    intro d y hy
    rw [get?_add] at hy
    split at hy
    · cases hy; exact .inl ⟨‹_›, rfl⟩
    · exact .inr hy
  have hreg : ∀ {d y}, (r.add x).1.registered? d = some y →
      d = r.destinations.length ∧ y = x ∨ r.registered? d = some y := by
    intro d y hy
    rw [registered?_add] at hy
    split at hy
    · cases hy; exact .inl ⟨‹_›, rfl⟩
    · exact .inr hy
  refine ⟨?_, fun d => ?_, fun name d => ?_, fun e y hy b hb => ?_, fun e y hy hdel => ?_,
    fun d y a hy ha => ?_, fun name d hd => ?_⟩
  · rw [ids_add]
    exact List.nodup_append.2 ⟨h.ids_nodup, by simp, fun a ha b hb => by
      rw [List.mem_singleton] at hb; subst hb; exact fun he => hids (he ▸ ha)⟩
  · rw [ids_add, List.mem_append, List.mem_singleton, h.mem_ids d]
    constructor
    · rintro (⟨y, hy, hl⟩ | rfl)
      · exact ⟨y, by rw [get?_add, if_neg (hold hy), hy], hl⟩
      · exact ⟨x, by rw [get?_add, if_pos rfl], blank.live⟩
    · rintro ⟨y, hy, hl⟩
      rcases hback hy with ⟨rfl, -⟩ | hy
      · exact .inr rfl
      · exact .inl ⟨y, hy, hl⟩
  · rw [lookup_add]
    constructor
    · intro hl
      split at hl
      · cases hl
        exact ⟨x, hnew, by rw [‹name = x.name›]⟩
      · obtain ⟨y, hy, hn⟩ := (h.lookup_iff name d).1 hl
        exact ⟨y, hkept hy, hn⟩
    · rintro ⟨y, hy, rfl⟩
      rcases hreg hy with ⟨rfl, rfl⟩ | hy
      · rw [if_pos rfl]
      · have hl := (h.lookup_iff y.name d).2 ⟨y, hy, rfl⟩
        rw [if_neg (fun he => by rw [he, free] at hl; cases hl), hl]
  · rcases hback hy with ⟨rfl, rfl⟩ | hy
    · rw [blank.unbound] at hb
      cases hb
    · obtain ⟨z, hz⟩ := h.bound e y hy b hb
      exact ⟨z, hkept hz⟩
  · rcases hback hy with ⟨rfl, rfl⟩ | hy
    · rw [blank.unbound]; rfl
    · exact h.cleared e y hy hdel
  · rcases hreg hy with ⟨rfl, rfl⟩ | hy
    · obtain ⟨z, hz, hzn, hdur⟩ := h.registered_of_suits (suits a ha)
      exact ⟨hold (registered?_eq_some.1 hz).2, z, hkept hz, hzn, hdur⟩
    · obtain ⟨hne, z, hz, hzn, hzd⟩ := h.alternate d y a hy ha
      exact ⟨hne, z, hkept hz, hzn, hzd⟩
  · rw [settings_add] at hd
    obtain ⟨hl, y, hy, hsys⟩ := h.system name d hd
    refine ⟨?_, y, hkept hy, hsys⟩
    rw [lookup_add, if_neg (fun he => by rw [he, free] at hl; cases hl), hl]

/-- **Forgetting the ways to a destination keeps the invariant.** -/
theorem mapRegistered_forget (h : r.Consistent) (d : DestinationId) (name : String) :
    (r.mapRegistered (forget d name)).Consistent := by
  refine h.of_map (fun i => if i ∈ r.ids then forget d name i else id) rfl (fun _ => rfl) rfl
    (get?_mapRegistered r _) (fun i y _ => ?_) (fun e y _ b hb => .inl ?_) (fun i y a _ ha => .inl ?_)
  · split
    · exact alike_forget d name i y
    · exact .refl y
  · split at hb
    · exact (mem_bindings_forget hb).1
    · exact hb
  · split at ha
    · exact (fallback_forget ha).1
    · exact ha

/-- A name belongs to one destination. -/
theorem name_eq_iff (h : r.Consistent) {name : String} {d i : DestinationId} {x y : Destination}
    (hd : r.lookup name = some d) (hx : r.get? d = some x) (hy : r.registered? i = some y) :
    y.name = name ↔ i = d := by
  constructor
  · intro hn
    have hl := (h.lookup_iff y.name i).2 ⟨y, hy, rfl⟩
    rw [hn, hd] at hl
    exact (Option.some.inj hl).symm
  · intro hi
    obtain ⟨hxr, hxn⟩ := h.registered_of_lookup hd hx
    rw [hi, hxr] at hy
    cases hy
    exact hxn

/-- **A destination that nothing leads to can leave.** -/
theorem depart (h : r.Consistent) {name : String} {d : DestinationId} {x : Destination}
    (hd : r.lookup name = some d) (hx : r.get? d = some x) (hsys : x.isSystem = false)
    (hb : ∀ e y, r.get? e = some y → ∀ b ∈ y.bindings.toList, b.destination ≠ d)
    (ha : ∀ i y a, r.registered? i = some y → i ≠ d → y.fallback = some a → a.target ≠ d) :
    (r.depart d name).Consistent := by
  have hget : ∀ {i y}, (r.depart d name).get? i = some y →
      i = d ∧ y.deleted = true ∧ y.bindings.toList = [] ∨ i ≠ d ∧ r.get? i = some y := by
    intro i y hy
    rw [get?_depart] at hy
    split at hy
    · rename_i hi
      obtain ⟨z, -, rfl⟩ := Option.map_eq_some_iff.1 hy
      exact .inl ⟨hi.symm, deleted_bury z, bindings_bury z⟩
    · rename_i hi
      exact .inr ⟨Ne.symm hi, by rwa [Option.map_id_fun, id] at hy⟩
  refine ⟨h.ids_nodup.filter _, fun i => ?_, fun n i => ?_, fun e y hy b hbm => ?_, fun e y hy hdel => ?_,
    fun i y a hy haf => ?_, fun n i hni => ?_⟩
  · rw [mem_ids_depart, h.mem_ids i]
    constructor
    · rintro ⟨⟨y, hy, hl⟩, hi⟩
      exact ⟨y, by rw [get?_depart, if_neg (Ne.symm hi), hy]; rfl, hl⟩
    · rintro ⟨y, hy, hl⟩
      rcases hget hy with ⟨-, hdel, -⟩ | ⟨hi, hy⟩
      · rw [hdel] at hl
        cases hl
      · exact ⟨⟨y, hy, hl⟩, hi⟩
  · rw [lookup_depart]
    constructor
    · intro hl
      split at hl
      · cases hl
      · rename_i hn
        obtain ⟨y, hy, rfl⟩ := (h.lookup_iff n i).1 hl
        exact ⟨y, registered?_depart.2 ⟨hy, fun hi => hn ((h.name_eq_iff hd hx hy).2 hi)⟩, rfl⟩
    · rintro ⟨y, hy, rfl⟩
      obtain ⟨hy, hi⟩ := registered?_depart.1 hy
      rw [if_neg fun hn => hi ((h.name_eq_iff hd hx hy).1 hn)]
      exact (h.lookup_iff y.name i).2 ⟨y, hy, rfl⟩
  · rcases hget hy with ⟨-, -, hnil⟩ | ⟨-, hy⟩
    · rw [hnil] at hbm
      cases hbm
    · obtain ⟨z, hz⟩ := h.bound e y hy b hbm
      exact ⟨z, registered?_depart.2 ⟨hz, hb e y hy b hbm⟩⟩
  · rcases hget hy with ⟨-, -, hnil⟩ | ⟨-, hy⟩
    · exact hnil
    · exact h.cleared e y hy hdel
  · obtain ⟨hy, hi⟩ := registered?_depart.1 hy
    obtain ⟨hne, z, hz, hzn, hzd⟩ := h.alternate i y a hy haf
    exact ⟨hne, z, registered?_depart.2 ⟨hz, ha i y a hy hi haf⟩, hzn, hzd⟩
  · obtain ⟨hl, y, hy, hys⟩ := h.system n i hni
    have hi : i ≠ d := fun he => by
      rw [he] at hy
      rw [(registered?_eq_some.1 hy).2] at hx
      cases hx
      rw [hsys] at hys
      cases hys
    obtain ⟨z, hz, hzn⟩ := (h.lookup_iff n i).1 hl
    refine ⟨?_, y, registered?_depart.2 ⟨hy, hi⟩, hys⟩
    rw [lookup_depart, if_neg fun he => hi ((h.name_eq_iff hd hx hz).1 (hzn.trans he)), hl]

end Consistent

/-- **Every request keeps the invariant.** -/
theorem Granted.consistent {r r' : Registry} (hg : r.Granted r') (h : r.Consistent) : r'.Consistent := by
  cases hg with
  | unchanged => exact h
  | created x blank free suits => exact h.add blank free suits
  | alternateSet name d x f found at_d suits =>
    exact h.modify at_d ⟨rfl, rfl, rfl, rfl⟩ (fun _ hb => .inl hb) fun a ha => .inr (suits a ha)
  | bound e x y b replace at_e live target target_live other parsed =>
    refine h.modify at_e (alike_mapBindings x _) (fun b' hb => ?_) fun a ha =>
      .inl (by rwa [fallback_mapBindings] at ha)
    rcases BindingTable.mem_toList_bind (bindings_mapBindings hb) with hb | rfl
    · exact .inl hb
    · exact .inr ⟨live, y, h.registered_of_live target target_live⟩
  | unbound e t key x at_e =>
    refine h.modify at_e (alike_mapBindings x _) (fun b' hb => .inl ?_) fun a ha =>
      .inl (by rwa [fallback_mapBindings] at ha)
    exact (BindingTable.mem_toList_removeWhere.1 (bindings_mapBindings hb)).1
  | deleted name d x found at_d ordinary =>
    obtain ⟨hreg, rfl⟩ := h.registered_of_lookup found at_d
    have h1 := h.mapRegistered_forget d x.name
    have hinv : ∀ i y, (r.mapRegistered (forget d x.name)).get? i = some y →
        ∃ z, r.get? i = some z ∧ (if i ∈ r.ids then forget d x.name i else id) z = y := fun i y hy => by
      rw [get?_mapRegistered] at hy
      exact Option.map_eq_some_iff.1 hy
    have hx : (r.mapRegistered (forget d x.name)).get? d = some (forget d x.name d x) := by
      rw [get?_mapRegistered, at_d, if_pos (registered?_eq_some.1 hreg).1]; rfl
    refine (h1.depart found hx ?_ (fun e y hy b hb => ?_) (fun i y a hy hi ha => ?_)).publish .deleted d
    · rw [(alike_forget d x.name d x).isSystem, ordinary]
    · obtain ⟨z, hz, rfl⟩ := hinv e y hy
      split at hb
      · exact (mem_bindings_forget hb).2
      · -- an exchange that left the registry has no bindings to sweep
        rename_i he
        rw [id, h.cleared e z hz (h.deleted_of_left hz he)] at hb
        cases hb
    · obtain ⟨hid, hg⟩ := registered?_eq_some.1 hy
      obtain ⟨z, hz, rfl⟩ := hinv i y hg
      have hid : i ∈ r.ids := hid
      rw [if_pos hid] at ha
      obtain ⟨ha, hn⟩ := fallback_forget ha
      obtain ⟨-, w, hw, hwn, -⟩ := h.alternate i z a (registered?_eq_some.2 ⟨hid, hz⟩) ha
      intro ht
      rw [ht, hreg] at hw
      cases hw
      exact hn.resolve_left hi hwn.symm

/-- **Every registry that requests lead to from a new one satisfies the invariant.** -/
theorem consistent_after (settings : HostSettings) (qs : List TopologyRequest) :
    ((new settings).after qs).Consistent :=
  after_induction (fun _ _ h hg => hg.consistent h) qs _ (.new settings)

end Registry
end MessageBroker
