import MessageBroker.Proofs.Routing.Memo
/-!
# A walk as a relation

`Runs` says what each part of a walk does, without the fuel that makes the walk a function: every way through it is one
constructor, so what a walk keeps is shown by one induction.  The walk does just that (`runs_walk`, `Runs.eq_perform`), and
what it has found and remembered it neither loses nor changes (`Runs.grows`).
-/
namespace MessageBroker
namespace Routing

/-- A part of a walk. -/
inductive Task where
  /-- Takes a routing key into an exchange, after so many hops. -/
  | enter (d : DestinationId) (key : String) (hops : Nat)
  /-- Sends to a destination, from an exchange that was entered after so many hops. -/
  | send (d : DestinationId) (key : String) (hops : Nat)
  /-- Sends along bindings of an exchange of this name. -/
  | along (name key : String) (hops : Nat) (bs : List Binding)

/-- **A part of a walk goes from one progress to another**, and leads to so many deliveries. -/
inductive Runs (s : Scope) : Task → Progress → Nat → Progress → Prop where
  | gone {d key hops p} (dead : ∀ x e, s.registry.live? d = some x → x.body ≠ .exchange e) :
      Runs s (.enter d key hops) p 0 p
  | limited {d key hops p x e} (live : s.registry.live? d = some x) (body : x.body = .exchange e)
      (far : s.registry.settings.maxHops < hops) :
      Runs s (.enter d key hops) p 0 (p.note [.hopLimitReached x.name key s.registry.settings.maxHops])
  | underWay {d key hops p x e} (live : s.registry.live? d = some x) (body : x.body = .exchange e)
      (near : hops ≤ s.registry.settings.maxHops) (seen : p.visit? d key = some .underWay) :
      Runs s (.enter d key hops) p 0 p
  | remembered {d key hops p x e n} (live : s.registry.live? d = some x) (body : x.body = .exchange e)
      (near : hops ≤ s.registry.settings.maxHops) (seen : p.visit? d key = some (.done n)) :
      Runs s (.enter d key hops) p n p
  | routed {d key hops p x e n p'} (live : s.registry.live? d = some x) (body : x.body = .exchange e)
      (near : hops ≤ s.registry.settings.maxHops) (new : p.visit? d key = none)
      (along : Runs s (.along x.name key hops (e.candidates key)) (p.mark d key .underWay) n p')
      (last : n % s.modulus ≠ 0 ∨ x.alternate = none) : Runs s (.enter d key hops) p n (p'.mark d key (.done n))
  | fallback {d key hops p x e n p' a m p''} (live : s.registry.live? d = some x) (body : x.body = .exchange e)
      (near : hops ≤ s.registry.settings.maxHops) (new : p.visit? d key = none)
      (along : Runs s (.along x.name key hops (e.candidates key)) (p.mark d key .underWay) n p')
      (zero : n % s.modulus = 0) (next : x.alternate = some a)
      (on : Runs s (.send a key (hops + 1)) (p'.note [.alternateUsed x.name (s.registry.labelOf a)]) m p'') :
      Runs s (.enter d key hops) p (n + m) (p''.mark d key (.done (n + m)))
  | nowhere {d key hops p notices} (lands : landingOf s.registry d = (.nowhere, notices)) :
      Runs s (.send d key hops) p 0 (p.note notices)
  | taken {d key hops p notices q} (lands : landingOf s.registry d = (.queue q, notices)) :
      Runs s (.send d key hops) p 1 ((p.note notices).reach q)
  | entered {d key hops p notices e further n p'} (lands : landingOf s.registry d = (.exchange e further, notices))
      (on : Runs s (.enter e key (hops + 1 + further)) (p.note notices) n p') : Runs s (.send d key hops) p n p'
  | nil {name key hops p} : Runs s (.along name key hops []) p 0 p
  | cons {name key hops p b bs n p' m p''} (accepts : b.accepts s.headers = true)
      (first : Runs s (.send b.destination (b.arguments.replacementKey.getD key) hops) p n p')
      (rest : Runs s (.along name key hops bs) p' m p'') : Runs s (.along name key hops (b :: bs)) p (n + m) p''
  | skip {name key hops p b bs n p'} (rejects : b.accepts s.headers = false)
      (rest : Runs s (.along name key hops bs)
        (p.note [.selectorRejected name (s.registry.nameOf b.destination) b.key]) n p') :
      Runs s (.along name key hops (b :: bs)) p n p'

variable {s : Scope} {enter : Enter} {hops : Nat}

/-! ## The walk is such a run -/

theorem runs_sendTo (henter : ∀ d key hops' p, hops < hops' →
      Runs s (.enter d key hops') p (enter d key hops' p).1 (enter d key hops' p).2)
    (d : DestinationId) (key : String) (p : Progress) :
    Runs s (.send d key hops) p (sendTo s enter d key hops p).1 (sendTo s enter d key hops p).2 := by
  unfold sendTo
  cases hl : landingOf s.registry d with
  | mk l notices =>
    cases l with
    | nowhere => exact .nowhere hl
    | queue q => exact .taken hl
    | exchange e further => exact .entered hl (henter e key _ _ (by omega))

theorem runs_sendAlong (henter : ∀ d key hops' p, hops < hops' →
      Runs s (.enter d key hops') p (enter d key hops' p).1 (enter d key hops' p).2)
    (name key : String) : ∀ (bs : List Binding) (p : Progress), Runs s (.along name key hops bs) p
      (sendAlong s enter name key hops bs p).1 (sendAlong s enter name key hops bs p).2
  | [], p => .nil
  | b :: bs, p => by
    unfold sendAlong
    cases ha : b.accepts s.headers with
    | true => exact .cons ha (runs_sendTo henter b.destination _ p) (runs_sendAlong henter name key bs _)
    | false => exact .skip ha (runs_sendAlong henter name key bs _)

/-- **A walk with fuel for the hops that are left runs as it should**, by induction on the fuel. -/
theorem runs_walk : ∀ (fuel : Nat) (d : DestinationId) (key : String) (hops : Nat) (p : Progress), 0 < fuel →
    s.registry.settings.maxHops + 2 ≤ fuel + hops →
    Runs s (.enter d key hops) p (walk s fuel d key hops p).1 (walk s fuel d key hops p).2 := by
  intro fuel
  induction fuel with
  | zero => exact fun _ _ _ _ h => absurd h (Nat.lt_irrefl 0)
  | succ fuel ih =>
    intro d key hops p _ hfuel
    unfold walk
    cases live : s.registry.live? d with
    | none => exact .gone fun x e hx => by rw [live] at hx; cases hx
    | some x =>
      cases body : x.body with
      | queue q =>
        simp only [body]
        exact .gone fun y e hy hb => by rw [live] at hy; cases hy; rw [body] at hb; cases hb
      | exchange e =>
        simp only [body]
        by_cases far : s.registry.settings.maxHops < hops
        · rw [if_pos far]
          exact .limited live body far
        · rw [if_neg far]
          have near := Nat.le_of_not_lt far
          have henter : ∀ d key hops' p, hops < hops' →
              Runs s (.enter d key hops') p (walk s fuel d key hops' p).1 (walk s fuel d key hops' p).2 :=
            fun d key hops' p h => ih d key hops' p (by omega) (by omega)
          cases hv : p.visit? d key with
          | some v =>
            cases v with
            | underWay => exact .underWay live body near hv
            | done n => exact .remembered live body near hv
          | none =>
            have along := runs_sendAlong henter x.name key (e.candidates key) (p.mark d key .underWay)
            simp only
            generalize sendAlong s (walk s fuel) x.name key hops (e.candidates key) _ = o at along ⊢
            by_cases hz : o.1 % s.modulus = 0
            · rw [if_pos hz]
              cases next : x.alternate with
              | none => exact .routed live body near hv along (.inr next)
              | some a =>
                exact .fallback live body near hv along hz next
                  (runs_sendTo (fun d key hops' p h => henter d key hops' p (by omega)) a key _)
            · rw [if_neg hz]
              exact .routed live body near hv along (.inl hz)

/-- What a part of a walk yields as a function, with this much fuel. -/
def Task.perform (s : Scope) (fuel : Nat) : Task → Progress → Nat × Progress
  | .enter d key hops, p => walk s fuel d key hops p
  | .send d key hops, p => sendTo s (walk s fuel) d key hops p
  | .along name key hops bs, p => sendAlong s (walk s fuel) name key hops bs p

/-- The hops after which exchanges are entered at the earliest. -/
def Task.least : Task → Nat
  | .enter _ _ hops => hops
  | .send _ _ hops => hops + 1
  | .along _ _ hops _ => hops + 1

/-- **A run is what the walk yields**, so there is only one. -/
theorem Runs.eq_perform {t : Task} {p p' : Progress} {n : Nat} (h : Runs s t p n p') : ∀ fuel, 0 < fuel →
    s.registry.settings.maxHops + 2 ≤ fuel + t.least → t.perform s fuel p = (n, p') := by
  induction h with
  | gone dead =>
    rename_i d key hops p
    intro fuel hpos _
    obtain ⟨fuel, rfl⟩ := Nat.exists_eq_succ_of_ne_zero (Nat.ne_of_gt hpos)
    simp only [Task.perform, walk]
    cases live : s.registry.live? d with
    | none => rfl
    | some x =>
      cases body : x.body with
      | queue q => simp only [body]
      | exchange e => exact absurd body (dead x e live)
  | limited live body far =>
    intro fuel hpos _
    obtain ⟨fuel, rfl⟩ := Nat.exists_eq_succ_of_ne_zero (Nat.ne_of_gt hpos)
    simp only [Task.perform, walk, live, body, if_pos far]
  | underWay live body near seen =>
    intro fuel hpos _
    obtain ⟨fuel, rfl⟩ := Nat.exists_eq_succ_of_ne_zero (Nat.ne_of_gt hpos)
    simp only [Task.perform, walk, live, body, if_neg (Nat.not_lt.2 near), seen]
  | remembered live body near seen =>
    intro fuel hpos _
    obtain ⟨fuel, rfl⟩ := Nat.exists_eq_succ_of_ne_zero (Nat.ne_of_gt hpos)
    simp only [Task.perform, walk, live, body, if_neg (Nat.not_lt.2 near), seen]
  | routed live body near new along last ih =>
    intro fuel hpos hfuel
    obtain ⟨fuel, rfl⟩ := Nat.exists_eq_succ_of_ne_zero (Nat.ne_of_gt hpos)
    simp only [Task.least] at hfuel ih
    have ih' := ih fuel (by omega) (by omega)
    simp only [Task.perform] at ih'
    simp only [Task.perform, walk, live, body, if_neg (Nat.not_lt.2 near), new, ih']
    rcases last with last | last
    · rw [if_neg last]
    · simp only [last, ite_self]
  | fallback live body near new along zero next on ih ih' =>
    intro fuel hpos hfuel
    obtain ⟨fuel, rfl⟩ := Nat.exists_eq_succ_of_ne_zero (Nat.ne_of_gt hpos)
    simp only [Task.least] at hfuel ih ih'
    have ih1 := ih fuel (by omega) (by omega)
    have ih2 := ih' fuel (by omega) (by omega)
    simp only [Task.perform] at ih1 ih2
    simp only [Task.perform, walk, live, body, if_neg (Nat.not_lt.2 near), new, ih1, if_pos zero, next, sendToAlternate,
      ih2]
  | nowhere lands =>
    intro fuel _ _
    simp only [Task.perform, sendTo, lands]
  | taken lands =>
    intro fuel _ _
    simp only [Task.perform, sendTo, lands]
  | entered lands on ih =>
    intro fuel hpos hfuel
    simp only [Task.least] at hfuel ih
    have ih' := ih fuel hpos (by omega)
    simp only [Task.perform] at ih'
    simp only [Task.perform, sendTo, lands, ih']
  | nil => exact fun _ _ _ => rfl
  | cons accepts first rest ih ih' =>
    intro fuel hpos hfuel
    have ih1 := ih fuel hpos hfuel
    have ih2 := ih' fuel hpos hfuel
    simp only [Task.perform] at ih1 ih2
    simp only [Task.perform, sendAlong, accepts, if_true, ih1, ih2]
  | skip rejects rest ih =>
    intro fuel hpos hfuel
    have ih' := ih fuel hpos hfuel
    simp only [Task.perform] at ih'
    simp only [Task.perform, sendAlong, rejects, Bool.false_eq_true, if_false, ih']

theorem Runs.unique {t : Task} {p p' p'' : Progress} {n m : Nat} (h : Runs s t p n p') (h' : Runs s t p m p'') :
    n = m ∧ p' = p'' := by
  have enough : s.registry.settings.maxHops + 2 ≤ s.registry.settings.maxHops + 2 + t.least := Nat.le_add_right _ _
  have performed := h.eq_perform _ (Nat.succ_pos _) enough
  rw [h'.eq_perform _ (Nat.succ_pos _) enough] at performed
  exact (Prod.mk.inj performed.symm)

/-! ## What a run keeps -/

/-- **Nothing is lost**: queues, notices and what was finished stay, and nothing more is under way. -/
structure Grows (p p' : Progress) : Prop where
  queues : p.queues ⊆ p'.queues
  notices : p.notices ⊆ p'.notices
  done : ∀ d key n, p.visit? d key = some (.done n) → p'.visit? d key = some (.done n)
  underWay : ∀ d key, p'.visit? d key = some .underWay ↔ p.visit? d key = some .underWay

namespace Grows

variable {p p' p'' : Progress}

theorem refl (p : Progress) : Grows p p := ⟨fun _ h => h, fun _ h => h, fun _ _ _ h => h, fun _ _ => .rfl⟩

theorem trans (h : Grows p p') (h' : Grows p' p'') : Grows p p'' :=
  ⟨fun _ hq => h'.queues (h.queues hq), fun _ hn => h'.notices (h.notices hn),
    fun d key n hd => h'.done d key n (h.done d key n hd), fun d key => (h'.underWay d key).trans (h.underWay d key)⟩

theorem note (p : Progress) (ns : List Notice) : Grows p (p.note ns) :=
  ⟨fun _ h => h, fun _ h => List.mem_append_left _ h, fun _ _ _ h => h, fun _ _ => .rfl⟩

theorem reach (p : Progress) (q : DestinationId) : Grows p (p.reach q) := by
  refine ⟨fun i hi => ?_, fun n hn => ?_, fun d key n hd => ?_, fun d key => ?_⟩
  · rw [Progress.queues_reach]
    exact mem_listing.2 (.inl hi)
  · unfold Progress.reach
    split <;> exact hn
  · rwa [Progress.visit?_reach]
  · rw [Progress.visit?_reach]

/-- What was new, under way in between and is finished. -/
theorem finish {d : DestinationId} {key : String} (new : p.visit? d key = none)
    (h : Grows (p.mark d key .underWay) p') (n : Nat) : Grows p (p'.mark d key (.done n)) := by
  refine ⟨h.queues, h.notices, fun d' key' m hd => ?_, fun d' key' => ?_⟩
  · rw [Progress.visit?_mark]
    split
    · rename_i heq
      rw [heq.1, heq.2, new] at hd
      cases hd
    · rename_i hne
      refine h.done d' key' m ?_
      rwa [Progress.visit?_mark, if_neg hne]
  · rw [Progress.visit?_mark]
    split
    · rename_i heq
      rw [heq.1, heq.2, new]
      simp
    · rename_i hne
      rw [h.underWay d' key', Progress.visit?_mark, if_neg hne]

theorem isSome (h : Grows p p') {d : DestinationId} {key : String} (hv : (p.visit? d key).isSome = true) :
    (p'.visit? d key).isSome = true := by
  obtain ⟨v, hv⟩ := Option.isSome_iff_exists.1 hv
  cases v with
  | underWay => rw [(h.underWay d key).2 hv]; rfl
  | done n => rw [h.done d key n hv]; rfl

end Grows

/-- **A run loses nothing that was found or remembered.** -/
theorem Runs.grows {t : Task} {p p' : Progress} {n : Nat} (h : Runs s t p n p') : Grows p p' := by
  induction h with
  | gone => exact .refl _
  | limited => exact .note _ _
  | underWay => exact .refl _
  | remembered => exact .refl _
  | routed live body near new along last ih => exact .finish new ih _
  | fallback live body near new along zero next on ih ih' => exact .finish new (ih.trans ((Grows.note _ _).trans ih')) _
  | nowhere => exact .note _ _
  | taken => exact (Grows.note _ _).trans (.reach _ _)
  | entered lands on ih => exact (Grows.note _ _).trans ih
  | nil => exact .refl _
  | cons accepts first rest ih ih' => exact ih.trans ih'
  | skip rejects rest ih => exact (Grows.note _ _).trans ih

theorem Runs.grows_of_note {t : Task} {p p' : Progress} {n : Nat} {ns : List Notice} (h : Runs s t (p.note ns) n p') :
    Grows p p' :=
  (Grows.note p ns).trans h.grows

/-- An exchange is under way until the walk through it is over. -/
theorem Runs.visit?_marked {t : Task} {p p' : Progress} {n : Nat} {d : DestinationId} {key : String}
    (h : Runs s t (p.mark d key .underWay) n p') : p'.visit? d key = some .underWay :=
  (h.grows.underWay d key).2 (Progress.visit?_mark_self p d key .underWay)

/-- The run behind a walk that starts anew. -/
theorem runs_walkFrom (r : Registry) (modulus : Nat) (headers : Headers) (start : DestinationId) (key : String) :
    Runs ⟨r, headers, modulus⟩ (.enter start key 0) .start (walkFrom r modulus headers start key).1
      (walkFrom r modulus headers start key).2 :=
  runs_walk _ start key 0 .start (Nat.succ_pos _) (Nat.le_refl _)

end Routing
end MessageBroker
