import MessageBroker.Proofs.Routing.Delivers
/-!
# The order of bindings

What is delivered does not depend on the order in which the tables are gone through, so neither does what the walk finds
where it finds just that: if no exchange with an alternate leads to a cycle (`Registry.route_reordered`).  Otherwise the
order may tell.  An exchange that is met while one that it leads to is still under way counts that one for nothing, and
uses its alternate, which it would not have used if the walk had come to it first (`Registry.route_rounds_differ`).
-/
namespace MessageBroker

/-- A queue has as much room, and an exchange the same bindings, in whatever order. -/
inductive Destination.Body.Reordered : Destination.Body → Destination.Body → Prop where
  | queue {q q' : Queue} (room : q'.hasRoom = q.hasRoom) : Reordered (.queue q) (.queue q')
  | exchange {e e' : Exchange} (type : e'.type = e.type) (bindings : e.bindings.toList.Perm e'.bindings.toList) :
      Reordered (.exchange e) (.exchange e')

structure Destination.Reordered (x x' : Destination) : Prop where
  deleted : x'.deleted = x.deleted
  alternate : x'.alternate = x.alternate
  body : x.body.Reordered x'.body

theorem Destination.Body.Reordered.symm {c c' : Destination.Body} (h : c.Reordered c') : c'.Reordered c := by
  cases h with
  | queue room => exact .queue room.symm
  | exchange type bindings => exact .exchange type.symm bindings.symm

theorem Destination.Body.Reordered.of_exchange {e : Exchange} {c : Destination.Body}
    (h : Destination.Body.Reordered (.exchange e) c) :
    ∃ e', c = .exchange e' ∧ e'.type = e.type ∧ e.bindings.toList.Perm e'.bindings.toList := by
  cases h with
  | exchange type bindings => exact ⟨_, rfl, type, bindings⟩

theorem Destination.Reordered.symm {x x' : Destination} (h : x.Reordered x') : x'.Reordered x :=
  ⟨h.deleted.symm, h.alternate.symm, h.body.symm⟩

def Routing.Landing.isExchange : Routing.Landing → Bool
  | .exchange .. => true
  | _ => false

namespace Registry

/-- **The same destinations, but for the order of their bindings.** -/
structure Reordered (r r' : Registry) : Prop where
  length : r'.destinations.length = r.destinations.length
  same : ∀ d x x', r.get? d = some x → r'.get? d = some x' → x.Reordered x'

open Routing

variable {r r' : Registry} {headers : Headers} {d : DestinationId} {k : String}

namespace Reordered

theorem symm (h : Reordered r r') : Reordered r' r :=
  ⟨h.length.symm, fun d x x' hx hx' => (h.same d x' x hx' hx).symm⟩

theorem live? (h : Reordered r r') {x : Destination} (live : r.live? d = some x) :
    ∃ x', r'.live? d = some x' ∧ x.Reordered x' := by
  obtain ⟨hx, hl⟩ := live?_eq_some.1 live
  obtain ⟨x', hx'⟩ : ∃ x', r'.get? d = some x' :=
    ⟨_, List.getElem?_eq_getElem (by rw [h.length]; exact get?_lt hx)⟩
  have hs := h.same d x x' hx hx'
  exact ⟨x', live?_eq_some.2 ⟨hx', hs.deleted.trans hl⟩, hs⟩

theorem live?_eq_none (h : Reordered r r') (dead : r.live? d = none) : r'.live? d = none := by
  refine Option.eq_none_iff_forall_ne_some.2 fun x' hx' => ?_
  obtain ⟨x, hx, -⟩ := h.symm.live? hx'
  rw [dead] at hx
  cases hx

/-- A message lands where it did. -/
theorem landing (h : Reordered r r') : ∀ (n : Nat) (d : DestinationId),
    (Routing.landing r' n d).1 = (Routing.landing r n d).1
  | 0, _ => rfl
  | n + 1, d => by
    unfold Routing.landing
    cases live : r.live? d with
    | none => rw [h.live?_eq_none live]
    | some x =>
      obtain ⟨x', live', -, alternate, body⟩ := h.live? live
      rw [live']
      obtain ⟨name, durable, fallback, deleted, links, body₁⟩ := x
      obtain ⟨name', durable', fallback', deleted', links', body₂⟩ := x'
      cases body with
      | exchange type bindings => rfl
      | queue room =>
        rename_i q q'
        simp only [room]
        cases q.hasRoom with
        | true => rfl
        | false =>
          simp only [Bool.false_eq_true, if_false, alternate]
          cases Destination.alternate ⟨name, durable, fallback, deleted, links, .queue q⟩ with
          | none => rfl
          | some a =>
            simp only
            rw [h.landing n a]

theorem landingOf (h : Reordered r r') (d : DestinationId) :
    (Routing.landingOf r' d).1 = (Routing.landingOf r d).1 := by
  unfold Routing.landingOf
  rw [h.length]
  exact h.landing _ d

/-- An exchange forwards a message to where it did. -/
theorem onward (h : Reordered r r') {z : DestinationId × String} (hz : z ∈ r.onward headers d k) :
    z ∈ r'.onward headers d k := by
  obtain ⟨x, e, b, live, body, hb, rfl⟩ := mem_onward hz
  obtain ⟨x', live', -, -, hbody⟩ := h.live? live
  rw [body] at hbody
  obtain ⟨e', body', type, bindings⟩ := hbody.of_exchange
  rw [onward_eq live' body']
  refine List.mem_map.2 ⟨b, ?_, rfl⟩
  unfold Exchange.matching at hb ⊢
  rw [type]
  revert hb
  cases e.type <;> exact (bindings.filter _).mem_iff.1

theorem idle (h : Reordered r r') (hi : Idle r headers d k) : Idle r' headers d k := by
  induction hi with
  | nowhere lands => exact .nowhere (by rw [h.landingOf, lands])
  | exchange lands each last ih ih' =>
    refine .exchange (by rw [h.landingOf, lands]) (fun z hz => ih z (h.symm.onward hz)) fun x' a live' next => ?_
    obtain ⟨x, live, hx⟩ := h.symm.live? live'
    exact ih' x a live (hx.alternate.trans next)

theorem delivers (h : Reordered r r') {q : DestinationId} (hd : Delivers r headers d k q) :
    Delivers r' headers d k q := by
  induction hd with
  | taken lands => exact .taken (by rw [h.landingOf, lands])
  | onward lands step on ih => exact .onward (by rw [h.landingOf, lands]) (h.onward step) ih
  | fallback lands idle live next on ih =>
    obtain ⟨x', live', hx⟩ := h.live? live
    exact .fallback (by rw [h.landingOf, lands]) (fun z hz => h.idle (idle z (h.symm.onward hz))) live'
      (hx.alternate.trans next) ih

theorem leads (h : Reordered r r') (z z' : DestinationId × String) (hl : Leads r headers z z') :
    Leads r' headers z z' := by
  cases hl with
  | binding step lands => exact .binding (h.onward step) (by rw [h.landingOf]; exact lands)
  | alternate live next lands =>
    obtain ⟨x', live', hx⟩ := h.live? live
    exact .alternate live' (hx.alternate.trans next) (by rw [h.landingOf]; exact lands)

theorem calm (h : Reordered r r') {z : DestinationId × String} (hz : Calm r headers z) : Calm r' headers z :=
  fun z' hr ht => hz z' (Relation.ReflTransGen.mono h.symm.leads _ _ hr) (Relation.TransGen.mono h.symm.leads _ _ ht)

theorem settled (h : Reordered r r') {start : DestinationId} {key : String} (hs : Settled r headers start key) :
    Settled r' headers start key := by
  intro z hz x' a live' next
  obtain ⟨x, live, hx⟩ := h.symm.live? live'
  exact h.calm (hs z (Relation.ReflTransGen.mono h.symm.leads _ _ hz) x a live (hx.alternate.trans next))

end Reordered

variable {start : DestinationId} {message : Message} {key : String}

/-- What routing finds in one registry it finds in the other one. -/
theorem Reordered.route_subset (same : Reordered r r') (settled : Settled r message.headers start key)
    (smooth : Smooth r message.headers start key) (smooth' : Smooth r' message.headers start key)
    (properties : InstanceProperties) : (r.route start message key properties).1.queues ⊆
      (r'.route start message key properties).1.queues := by
  intro q hq
  obtain ⟨x, e, live, body⟩ := exchange_of_mem_route hq
  obtain ⟨x', live', -, -, hbody⟩ := same.live? live
  rw [body] at hbody
  obtain ⟨e', body', -⟩ := hbody.of_exchange
  have hd := (mem_route_iff_delivers live body settled smooth properties).1 hq
  exact (mem_route_iff_delivers live' body' (same.settled settled) smooth' properties).2 (same.delivers hd)

/-- **The queues that routing finds do not depend on the order of bindings**, if no exchange with an alternate leads to
a cycle. -/
theorem route_reordered (same : Reordered r r') (settled : Settled r message.headers start key)
    (smooth : Smooth r message.headers start key) (smooth' : Smooth r' message.headers start key)
    (properties : InstanceProperties) : (r.route start message key properties).1.queues.Perm
      (r'.route start message key properties).1.queues :=
  (List.perm_ext_iff_of_nodup (r.route_sound start message key properties).1
    (r'.route_sound start message key properties).1).2 fun _ =>
      ⟨fun hq => same.route_subset settled smooth smooth' properties hq,
        fun hq => same.symm.route_subset (same.settled settled) smooth' smooth properties hq⟩

/-! ## Telling whether registries are reordered -/

/-- What tells bindings apart that have no selector. -/
def signature (b : Binding) : String × DestinationId × BindingArguments := (b.key, b.destination, b.arguments)

theorem perm_of_signatures {bs bs' : List Binding} (h : ∀ b ∈ bs ++ bs', b.selector.isNone = true)
    (hp : (bs.map signature).Perm (bs'.map signature)) : bs.Perm bs' := by
  have hback : ∀ bs : List Binding, (∀ b ∈ bs, b.selector.isNone = true) →
      (bs.map signature).map (fun z => (⟨z.1, z.2.1, z.2.2, none⟩ : Binding)) = bs := fun bs hbs => by
    rw [List.map_map]
    refine (List.map_congr_left fun b hb => ?_).trans (List.map_id bs)
    obtain ⟨key, d, arguments, selector⟩ := b
    cases selector with
    | none => rfl
    | some s => cases hbs _ hb
  rw [← hback bs fun b hb => h b (List.mem_append_left _ hb), ← hback bs' fun b hb => h b (List.mem_append_right _ hb)]
  exact hp.map _

/-- Whether a destination is another one with its bindings in some order, as far as they have no selectors. -/
def reorders (x x' : Destination) : Bool :=
  x'.deleted == x.deleted && x'.alternate == x.alternate && match x.body, x'.body with
    | .queue q, .queue q' => q'.hasRoom == q.hasRoom
    | .exchange e, .exchange e' => e'.type == e.type &&
      (e.bindings.toList ++ e'.bindings.toList).all (·.selector.isNone) &&
      (e.bindings.toList.map signature).isPerm (e'.bindings.toList.map signature)
    | _, _ => false

theorem reordered_of_reorders {x x' : Destination} (h : reorders x x' = true) : x.Reordered x' := by
  unfold reorders at h
  simp only [Bool.and_eq_true, beq_iff_eq] at h
  obtain ⟨⟨deleted, alternate⟩, h⟩ := h
  refine ⟨deleted, alternate, ?_⟩
  revert h
  cases x.body with
  | queue q =>
    cases x'.body with
    | queue q' => exact fun h => .queue (eq_of_beq h)
    | exchange e' => exact fun h => by cases h
  | exchange e =>
    cases x'.body with
    | queue q' => exact fun h => by cases h
    | exchange e' =>
      simp only [Bool.and_eq_true, beq_iff_eq, List.all_eq_true, List.isPerm_iff]
      exact fun ⟨⟨type, plain⟩, hp⟩ => .exchange type (perm_of_signatures plain hp)

theorem Reordered.of_all (length : r'.destinations.length = r.destinations.length)
    (h : (r.destinations.zip r'.destinations).all (fun z => reorders z.1 z.2) = true) : Reordered r r' := by
  refine ⟨length, fun d x x' hx hx' => reordered_of_reorders ?_⟩
  have hz : (r.destinations.zip r'.destinations)[d]? = some (x, x') := List.getElem?_zip_eq_some.2 ⟨hx, hx'⟩
  exact List.all_eq_true.1 h _ (List.mem_of_getElem? hz)

/-- An exchange with an alternate leads to no cycle if it has no bindings and its alternate is a queue. -/
theorem settled_of_leaves {start : DestinationId} (h : ∀ d < r.destinations.length, ∀ x ∈ r.live? d, ∀ a ∈ x.alternate,
    x.bindings.toList.isEmpty = true ∧ (Routing.landingOf r a).1.isExchange = false) :
    Settled r headers start key := by
  intro z _ x a live next z' hr ht
  obtain ⟨hempty, hqueue⟩ := h z.1 (get?_lt (live?_eq_some.1 live).1) x live a next
  have hnone : ∀ y, ¬ Leads r headers z y := fun y hy => by
    cases hy with
    | binding step lands =>
      obtain ⟨x', e, b, live', body, hb, -⟩ := mem_onward step
      rw [live] at live'
      cases live'
      have hbind := mem_matching hb
      simp only [Destination.bindings, body, List.isEmpty_iff] at hempty
      rw [hempty] at hbind
      cases hbind
    | alternate live' next' lands =>
      rw [live] at live'
      cases live'
      rw [next] at next'
      cases next'
      rw [lands] at hqueue
      cases hqueue
  rcases hr.cases_head with rfl | ⟨y, hy, -⟩
  · obtain ⟨y, hy, -⟩ := Relation.TransGen.head'_iff.1 ht
    exact hnone y hy
  · exact hnone y hy

theorem smooth_of_all {start : DestinationId}
    (near : (walkFrom r counterModulus headers start key).2.notices.all
      (fun | .hopLimitReached .. => false | _ => true) = true)
    (counted : (walkFrom r counterModulus headers start key).1 < counterModulus) : Smooth r headers start key :=
  ⟨fun name k hn => (by cases List.all_eq_true.1 near _ hn), counted⟩

/-- Two exchanges that are bound to each other, and both to a third one, in this order or the other. -/
def rounds (alternate : Option String) (first second : String) : Registry :=
  (new {}).after
    [.createQueue { name := "q" },
      .createQueue { name := "spare" },
      .createExchange { name := "start" },
      .createExchange { name := "a" },
      .createExchange { name := "b", alternate },
      .bind "a" "b" "k" .empty false,
      .bind "a" "q" "k" .empty false,
      .bind "b" "a" "k" .empty false,
      .bind "start" first "k" .empty false,
      .bind "start" second "k" .empty false]

/-- With an exchange that has nothing but an alternate. -/
def withLeaf (r : Registry) : Registry :=
  r.after [.createExchange { name := "leaf", alternate := some "spare" }, .bind "start" "leaf" "k" .empty false]

/-- As long as no exchange on the cycle has an alternate, it does not matter where the cycle is entered. -/
theorem route_rounds : Reordered (withLeaf (rounds none "a" "b")) (withLeaf (rounds none "b" "a")) ∧
    ((withLeaf (rounds none "a" "b")).route 4 ⟨⟨none, none, none, [], false, [], none⟩, 0⟩ "k" []).1.queues.Perm
      ((withLeaf (rounds none "b" "a")).route 4 ⟨⟨none, none, none, [], false, [], none⟩, 0⟩ "k" []).1.queues := by
  have same : Reordered (withLeaf (rounds none "a" "b")) (withLeaf (rounds none "b" "a")) :=
    .of_all (by decide +kernel) (by decide +kernel)
  exact ⟨same, route_reordered same
    (settled_of_leaves (by decide +kernel)) (smooth_of_all (by decide +kernel) (by decide +kernel))
    (smooth_of_all (by decide +kernel) (by decide +kernel)) []⟩

/-- **Where an exchange on a cycle has an alternate, the order of bindings may decide whether it is used**, though
nothing comes to nothing and no limit is met. -/
theorem route_rounds_differ : ∃ r r', Reordered r r' ∧ Smooth r [] 4 "k" ∧ Smooth r' [] 4 "k" ∧
    ¬ (r.route 4 ⟨⟨none, none, none, [], false, [], none⟩, 0⟩ "k" []).1.queues.Perm
      (r'.route 4 ⟨⟨none, none, none, [], false, [], none⟩, 0⟩ "k" []).1.queues :=
  ⟨rounds (some "spare") "a" "b", rounds (some "spare") "b" "a", .of_all (by decide +kernel) (by decide +kernel),
    smooth_of_all (by decide +kernel) (by decide +kernel), smooth_of_all (by decide +kernel) (by decide +kernel),
    by decide +kernel⟩

end Registry
end MessageBroker
