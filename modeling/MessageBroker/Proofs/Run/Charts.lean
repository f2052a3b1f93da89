import MessageBroker.Proofs.Registry.Charts
import MessageBroker.Proofs.Run.Becomes
import MessageBroker.Proofs.Run.Refusals
/-!
# The binding tables of a running broker

The tables of all exchanges together stand for one map each, their charts.  Requests do to the charts what the operations
of finite maps do, and answer as these do; nothing else that a broker does changes them but the deletion of nodes that
links had asked for.  So after any run every table represents its chart (`charted_of_run`).
-/
namespace MessageBroker

/-- For each exchange, what it has bound. -/
abbrev Charts := DestinationId → BindingMap

/-- What is to be done to the bindings. -/
inductive BindingChange where
  | bind (exchange target : DestinationId) (key : String) (arguments : BindingArguments) (replace : Bool)
  | unbind (exchange target : DestinationId) (key : String)
  | delete (d : DestinationId)

namespace Charts

def empty : Charts := fun _ => .empty

/-- Does it, and answers what a request is answered. -/
def perform (c : Charts) : BindingChange → Bool × Charts
  | .bind e t key arguments replace =>
    (((c e).bind key t arguments replace).1, Function.update c e ((c e).bind key t arguments replace).2)
  | .unbind e t key => (((c e).unbind key t).1, Function.update c e ((c e).unbind key t).2)
  | .delete d => (true, fun e => if e = d then .empty else (c e).without d)

/-- After some changes, one after the other. -/
def after (c : Charts) (changes : List BindingChange) : Charts := changes.foldl (fun c change => (c.perform change).2) c

end Charts

namespace Registry

def charts (r : Registry) : Charts := fun e => ((r.get? e).map (·.bindings.chart)).getD .empty

def HasExchange (r : Registry) (e : DestinationId) : Prop := ((r.get? e).bind Destination.exchange?).isSome = true

instance (r : Registry) (e : DestinationId) : Decidable (r.HasExchange e) := by
  unfold HasExchange
  infer_instance

end Registry

/-- What a request asks for, as far as bindings go. -/
def TopologyRequest.change? (r : Registry) : TopologyRequest → Option BindingChange
  | .createQueue _ | .createExchange _ | .setAlternate _ _ => none
  | .bind exchange target key arguments replace =>
    (r.endpoints exchange target).toOption.map fun z => .bind z.1 z.2 key arguments replace
  | .bindHeld e t key arguments replace =>
    if r.HasExchange e then some (.bind e t key arguments replace) else none
  | .unbind exchange target key => (r.endpoints exchange target).toOption.map fun z => .unbind z.1 z.2 key
  | .unbindHeld e t key => some (.unbind e t key)
  | .delete name _ => (r.lookup name).map .delete

namespace Registry

variable {r r' : Registry} {d e t : DestinationId} {x : Destination} {key : String}

theorem charts_some (hx : r.get? e = some x) : r.charts e = x.bindings.chart := by
  unfold charts
  rw [hx]
  rfl

theorem charts_none (hx : r.get? e = none) : r.charts e = .empty := by
  unfold charts
  rw [hx]
  rfl

theorem charts_congr (h : ∀ i, r'.get? i = r.get? i) : r'.charts = r.charts := by
  funext i
  unfold charts
  rw [h]

theorem charts_modify (hx : r.get? d = some x) (f : Destination → Destination) :
    (r.modify d f).charts = Function.update r.charts d (f x).bindings.chart := by
  funext i
  by_cases hi : d = i
  · subst hi
    rw [Function.update_self, charts_some (by rw [get?_modify_self, hx]; rfl)]
  · rw [Function.update_of_ne (Ne.symm hi)]
    unfold charts
    rw [get?_modify_of_ne r hi]

/-- What leaves the bindings alone leaves the charts alone. -/
theorem charts_modify_of_bindings {f : Destination → Destination} (h : ∀ x, (f x).bindings = x.bindings) :
    (r.modify d f).charts = r.charts := by
  cases hx : r.get? d with
  | none =>
    unfold modify
    rw [List.modify_eq_self (List.getElem?_eq_none_iff.1 hx)]
  | some x => rw [charts_modify hx, h, ← charts_some hx, Function.update_eq_self]

theorem bindings_mapQueue (x : Destination) (f : Queue → Queue) : (x.mapQueue f).bindings = x.bindings := by
  obtain ⟨_, _, _, _, _, body⟩ := x
  cases body <;> rfl

theorem bindings_exchange {ex : Exchange} (body : x.body = .exchange ex) (f : BindingTable → BindingTable) :
    (x.mapBindings f).bindings = f x.bindings := by
  unfold Destination.mapBindings Destination.bindings
  rw [body]

theorem bindings_queue {q : Queue} (body : x.body = .queue q) (f : BindingTable → BindingTable) :
    (x.mapBindings f).bindings = x.bindings := by
  unfold Destination.mapBindings
  rw [body]

theorem hasExchange_iff : r.HasExchange e ↔ ∃ x ex, r.get? e = some x ∧ x.body = .exchange ex := by
  unfold HasExchange
  rw [Option.isSome_iff_exists]
  constructor
  · rintro ⟨ex, h⟩
    obtain ⟨x, hx, hex⟩ := Option.bind_eq_some_iff.1 h
    refine ⟨x, ex, hx, ?_⟩
    unfold Destination.exchange? at hex
    split at hex
    · cases hex
    · cases hex
      assumption
  · rintro ⟨x, ex, hx, body⟩
    refine ⟨ex, Option.bind_eq_some_iff.2 ⟨x, hx, ?_⟩⟩
    unfold Destination.exchange?
    rw [body]

/-! ## What each change does to the charts -/

theorem charts_publish (r : Registry) (c : Change) (d : DestinationId) : (r.publish c d).charts = r.charts :=
  charts_congr fun i => get?_publish r c d i

theorem charts_add {x : Destination} (blank : Blank x) : (r.add x).1.charts = r.charts := by
  funext i
  unfold charts
  rw [get?_add]
  by_cases hi : i = r.destinations.length
  · have hnone : r.get? i = none := List.getElem?_eq_none (Nat.le_of_eq hi.symm)
    rw [if_pos hi, hnone, Option.map_some, blank.unbound]
    exact BindingTable.chart_of_toList_eq_nil rfl
  · rw [if_neg hi]

theorem charts_bind {ex : Exchange} (hx : r.get? e = some x) (body : x.body = .exchange ex) (b : Binding)
    (replace : Bool) : ((x.bindings.bind b replace).1 != .refused,
      (r.modify e (·.mapBindings fun _ => (x.bindings.bind b replace).2)).charts) =
        r.charts.perform (.bind e b.destination b.key b.arguments replace) := by
  have h := x.bindings.chart_bind b replace
  rw [charts_modify hx, bindings_exchange body]
  simp only [Charts.perform, charts_some hx, ← h]

theorem charts_unbind (hx : r.get? e = some x) (t : DestinationId) (key : String) : ((x.bindings.unbind key t).1,
    (r.modify e (·.mapBindings fun _ => (x.bindings.unbind key t).2)).charts) = r.charts.perform (.unbind e t key) := by
  have h := x.bindings.chart_unbind key t
  have hsame : (x.mapBindings fun _ => (x.bindings.unbind key t).2).bindings = (x.bindings.unbind key t).2 := by
    obtain ⟨_, _, _, _, _, body⟩ := x
    cases body <;> rfl
  rw [charts_modify hx, hsame]
  simp only [Charts.perform, charts_some hx, ← h]

theorem chart_forget (d : DestinationId) (name : String) (i : DestinationId) (x : Destination) :
    (forget d name i x).bindings.chart = x.bindings.chart.without d := by
  have hsame : (forget d name i x).bindings = (x.bindings.removeDestination d).2 := by
    unfold forget
    obtain ⟨_, _, _, _, _, body⟩ := x
    cases body <;> (simp only; split <;> rfl)
  rw [hsame, BindingTable.chart_removeDestination]

/-- **A destination that leaves takes its pairs out of every chart**, and leaves none of its own. -/
theorem charts_deleted (h : r.Consistent) (name name' : String) :
    (((r.mapRegistered (forget d name)).depart d name').publish .deleted d).charts =
      (r.charts.perform (.delete d)).2 := by
  have hempty : BindingMap.empty.without d = .empty := by
    funext k j
    exact ite_self none
  rw [charts_publish]
  funext i
  simp only [Charts.perform]
  cases hi : r.get? i with
  | none =>
    have hnone : ((r.mapRegistered (forget d name)).depart d name').get? i = none := by
      rw [get?_depart, get?_mapRegistered, hi]
      rfl
    rw [charts_none hnone, charts_none hi, hempty, ite_self]
  | some y =>
    have hsome : ((r.mapRegistered (forget d name)).depart d name').get? i =
        some ((if d = i then bury else id) ((if i ∈ r.ids then forget d name i else id) y)) := by
      rw [get?_depart, get?_mapRegistered, hi]
      rfl
    rw [charts_some hsome, charts_some hi]
    by_cases hid : d = i
    · rw [if_pos hid, if_pos hid.symm]
      exact BindingTable.chart_of_toList_eq_nil (bindings_bury _)
    · rw [if_neg hid, if_neg (Ne.symm hid), id]
      by_cases hreg : i ∈ r.ids
      · rw [if_pos hreg, chart_forget]
      · -- what left the registry before has no bindings to lose
        rw [if_neg hreg, id]
        rw [BindingTable.chart_of_toList_eq_nil (h.cleared i y hi (h.deleted_of_left hi hreg)), hempty]

/-- **Whatever a broker does to its registry, it binds, unbinds and deletes.** -/
theorem Alters.charts (h : r.Alters r') (hc : r.Consistent) : ∃ changes, r'.charts = r.charts.after changes := by
  have none_of : ∀ {r'' : Registry}, r''.charts = r.charts → ∃ changes, r''.charts = r.charts.after changes :=
    fun heq => ⟨[], heq⟩
  have one_of : ∀ {r'' : Registry} (change : BindingChange), r''.charts = (r.charts.perform change).2 →
      ∃ changes, r''.charts = r.charts.after changes := fun change heq => ⟨[change], heq⟩
  cases h with
  | granted granted =>
    cases granted with
    | unchanged => exact none_of rfl
    | created x blank free suits => exact none_of (charts_add blank)
    | alternateSet name d x f found at_d suits => exact none_of (charts_modify_of_bindings fun _ => rfl)
    | bound e x y b replace at_e live target target_live other parsed =>
      cases body : x.body with
      | queue q =>
        refine none_of ?_
        rw [charts_modify at_e, bindings_queue body, ← charts_some at_e, Function.update_eq_self]
      | exchange ex =>
        exact one_of (.bind e b.destination b.key b.arguments replace)
          (congrArg Prod.snd (charts_bind at_e body b replace))
    | unbound e t key x at_e => exact one_of (.unbind e t key) (congrArg Prod.snd (charts_unbind at_e t key))
    | deleted name d x found at_d ordinary => exact one_of (.delete d) (charts_deleted hc name x.name)
  | queue d f => exact none_of (charts_modify_of_bindings fun x => bindings_mapQueue x f)
  | links d x links at_d =>
    refine none_of ?_
    rw [charts_modify at_d, show ({ x with links } : Destination).bindings = x.bindings from rfl, ← charts_some at_d,
      Function.update_eq_self]
  | dynamicNodes nodes => exact none_of rfl

/-! ## Selectors -/

/-- The selector of each binding is the one that its arguments mean. -/
def Compiled (r : Registry) : Prop :=
  ∀ e x, r.get? e = some x → ∀ b ∈ x.bindings.toList, b.arguments.selector = .ok b.selector

theorem get?_modify_cases {f : Destination → Destination} {x' : Destination} (hx' : (r.modify d f).get? e = some x') :
    r.get? e = some x' ∨ ∃ x, r.get? d = some x ∧ x' = f x ∧ e = d := by
  rw [get?_modify] at hx'
  obtain ⟨x, hx, rfl⟩ := Option.map_eq_some_iff.1 hx'
  by_cases hd : d = e
  · subst hd
    exact .inr ⟨x, hx, by rw [if_pos rfl], rfl⟩
  · rw [if_neg hd]
    exact .inl hx

/-- Changing a destination keeps what its bindings satisfy. -/
theorem Compiled.modify (h : r.Compiled) {f : Destination → Destination} (hf : ∀ x, r.get? d = some x →
    ∀ b ∈ (f x).bindings.toList, b ∈ x.bindings.toList ∨ b.arguments.selector = .ok b.selector) :
    (r.modify d f).Compiled := by
  intro e x' hx' b hb
  rcases get?_modify_cases hx' with hx | ⟨x, hx, rfl, -⟩
  · exact h e x' hx b hb
  · rcases hf x hx b hb with hb | hsel
    · exact h d x hx b hb
    · exact hsel

theorem Alters.compiled (h : r.Alters r') (hc : r.Compiled) : r'.Compiled := by
  cases h with
  | granted granted =>
    cases granted with
    | unchanged => exact hc
    | created x blank free suits =>
      intro e y hy b hb
      rw [get?_add] at hy
      split at hy
      · cases hy
        rw [blank.unbound] at hb
        cases hb
      · exact hc e y hy b hb
    | alternateSet name d x f found at_d suits => exact hc.modify fun _ _ _ hb => .inl hb
    | bound e x y b replace at_e live target target_live other parsed =>
      refine hc.modify fun z hz b' hb => ?_
      rw [at_e] at hz
      cases hz
      rcases BindingTable.mem_toList_bind (bindings_mapBindings hb) with hb | rfl
      · exact .inl hb
      · exact .inr (ok_of_toOption parsed)
    | unbound e t key x at_e =>
      refine hc.modify fun z hz b' hb => ?_
      rw [at_e] at hz
      cases hz
      exact .inl (BindingTable.mem_toList_removeWhere.1 (bindings_mapBindings hb)).1
    | deleted name d x found at_d ordinary =>
      intro e y hy b hb
      rw [get?_publish, get?_depart, get?_mapRegistered] at hy
      obtain ⟨z, hz, rfl⟩ := Option.map_eq_some_iff.1 hy
      obtain ⟨w, hw, rfl⟩ := Option.map_eq_some_iff.1 hz
      split at hb
      · rw [bindings_bury] at hb
        cases hb
      · rw [id] at hb
        split at hb
        · exact hc e w hw b (mem_bindings_forget hb).1
        · exact hc e w hw b hb
  | queue d f => exact hc.modify fun x _ b hb => .inl (by rwa [bindings_mapQueue] at hb)
  | links d x links at_d =>
    refine hc.modify fun y hy b hb => .inl ?_
    rw [at_d] at hy
    cases hy
    exact hb
  | dynamicNodes nodes => exact hc

theorem charts_new (settings : HostSettings) : (Registry.new settings).charts = Charts.empty := by
  funext e
  match e with
  | 0 => exact (charts_some rfl).trans (BindingTable.chart_of_toList_eq_nil rfl)
  | 1 => exact (charts_some rfl).trans (BindingTable.chart_of_toList_eq_nil rfl)
  | n + 2 => exact charts_none rfl

theorem compiled_new (settings : HostSettings) : (Registry.new settings).Compiled := by
  intro e x hx b hb
  match e with
  | 0 =>
    cases hx
    cases hb
  | 1 =>
    cases hx
    cases hb
  | n + 2 => cases hx

end Registry

/-- What a request needs to be granted, as far as it is about bindings. -/
def TopologyRequest.Permitted (r : Registry) : TopologyRequest → Prop
  | .createQueue _ | .createExchange _ | .setAlternate _ _ => False
  | .bind exchange target _ arguments _ => ∃ e t s, r.lookupExchange exchange = some e ∧ r.lookup target = some t ∧
      t ≠ e ∧ arguments.selector = .ok s
  | .bindHeld e t _ arguments _ => ∃ x y s, r.live? e = some x ∧ r.live? t = some y ∧ t ≠ e ∧ arguments.selector = .ok s
  | .unbind exchange target _ => ∃ e t, r.lookupExchange exchange = some e ∧ r.lookup target = some t
  | .unbindHeld _ _ _ => True
  | .delete name force => ∃ d x, r.lookup name = some d ∧ r.get? d = some x ∧ x.isSystem = false ∧
      (force = true ∨ r.dependants d name = [])

namespace Broker

open Registry

/-- **The bindings of a broker are finite maps**: they came about by binding, unbinding and deleting, each table
represents its map, and each request does to the maps what it asks for and is answered as they answer. -/
structure Charted (b : Broker) : Prop where
  changes : ∃ changes, b.registry.charts = Charts.empty.after changes
  represents : ∀ e x, b.registry.get? e = some x → x.bindings.Represents (b.registry.charts e)
  granted : ∀ q answer, b.reply q = .ok answer → match q.change? b.registry with
    | none => (b.administer q).registry.charts = b.registry.charts
    | some change => (answer, (b.administer q).registry.charts) = b.registry.charts.perform change
  refused : ∀ q e, b.reply q = .error e → (b.administer q).registry.charts = b.registry.charts
  /-- Nothing else than this has to be in order for a request to be granted. -/
  permitted : ∀ q, q.Permitted b.registry → ∃ answer, b.reply q = .ok answer

variable {b : Broker} {e t : DestinationId} {key : String} {arguments : BindingArguments} {replace : Bool}

theorem charts_created {r : Registry} (d : DestinationId) (h : r.charts = b.registry.charts) :
    (b.created r d).registry.charts = b.registry.charts := by
  unfold created
  split
  · rfl
  · exact h

theorem charts_createQueue (b : Broker) (q : QueueDeclaration) :
    (b.createQueue q).1.registry.charts = b.registry.charts := by
  unfold createQueue
  split
  · rfl
  · rename_i heq
    obtain ⟨f, -, -, hz⟩ := createQueue_eq_add heq
    cases hz
    exact charts_created _ (charts_add ⟨rfl, rfl, rfl, rfl, rfl⟩)

theorem charts_createExchange (b : Broker) (x : ExchangeDeclaration) :
    (b.createExchange x).1.registry.charts = b.registry.charts := by
  unfold createExchange
  split
  · rfl
  · rename_i heq
    obtain ⟨f, -, -, hz⟩ := createExchange_eq_add heq
    cases hz
    exact charts_created _ (charts_add ⟨rfl, rfl, rfl, rfl, rfl⟩)

theorem charts_setAlternate (b : Broker) (name : String) (alternate : Option String) :
    (b.setAlternate name alternate).1.registry.charts = b.registry.charts := by
  unfold setAlternate
  split
  · rfl
  · rename_i heq
    obtain ⟨d, x, f, -, -, -, hz⟩ := setAlternate_eq_modify heq
    cases hz
    exact charts_modify_of_bindings fun _ => rfl

/-- Binding to an exchange that is held. -/
theorem charts_bindTo (he : b.registry.HasExchange e) {answer : Bool}
    (h : (b.bindTo e t key arguments replace).2 = .ok answer) :
    (answer, (b.bindTo e t key arguments replace).1.registry.charts) =
      b.registry.charts.perform (.bind e t key arguments replace) := by
  unfold bindTo at h ⊢
  split
  · rename_i heq
    rw [heq] at h
    cases h
  · rename_i r outcome heq
    rw [heq] at h
    cases h
    obtain ⟨x, y, s, live, -, -, -, rfl, rfl⟩ := bind_eq_ok heq
    obtain ⟨x', ex, hx', body⟩ := hasExchange_iff.1 he
    have hx := (live?_eq_some.1 live).1
    rw [hx] at hx'
    cases hx'
    exact charts_bind hx body ⟨key, t, arguments, s⟩ replace

/-- What is held and is no exchange has no bindings, and gets none. -/
theorem charts_bindTo_of_not (he : ¬ b.registry.HasExchange e) :
    (b.bindTo e t key arguments replace).1.registry.charts = b.registry.charts := by
  unfold bindTo
  split
  · rfl
  · rename_i heq
    obtain ⟨x, y, s, live, -, -, -, rfl, rfl⟩ := bind_eq_ok heq
    have hx := (live?_eq_some.1 live).1
    cases body : x.body with
    | exchange ex => exact absurd (hasExchange_iff.2 ⟨x, ex, hx, body⟩) he
    | queue c =>
      refine (charts_modify hx _).trans ?_
      rw [bindings_queue body, ← charts_some hx, Function.update_eq_self]

theorem charts_unbindFrom (b : Broker) (e t : DestinationId) (key : String) :
    ((b.unbindFrom e t key).2, (b.unbindFrom e t key).1.registry.charts) =
      b.registry.charts.perform (.unbind e t key) := by
  have hunbind : ((b.registry.unbind e t key).2, (b.registry.unbind e t key).1.charts) =
      b.registry.charts.perform (.unbind e t key) := by
    unfold Registry.unbind
    cases hx : b.registry.get? e with
    | none =>
      have hempty : BindingMap.empty.set key t none = .empty := by
        funext k i
        exact ite_self none
      have hself : Function.update b.registry.charts e .empty = b.registry.charts := by
        rw [← charts_none hx, Function.update_eq_self]
      simp only [Charts.perform, BindingMap.unbind, charts_none hx, hempty, hself]
      rfl
    | some x => exact charts_unbind hx t key
  rw [← hunbind]
  unfold unbindFrom
  simp only
  split
  · rename_i hremoved
    rw [hremoved]
    rfl
  · rename_i hremoved
    rw [Bool.eq_false_iff.2 hremoved]

theorem charts_delete (hc : b.registry.Consistent) {name : String} {force : Bool}
    (h : (b.delete name force).2 = .ok ()) : ∃ d, b.registry.lookup name = some d ∧
      (true, (b.delete name force).1.registry.charts) = b.registry.charts.perform (.delete d) := by
  obtain ⟨d, x, ns, hd, -, -, -, heq⟩ := delete_granted b h
  refine ⟨d, hd, ?_⟩
  rw [heq]
  exact Prod.ext rfl (charts_deleted hc name x.name)

/-! ## Which requests are granted -/

theorem hasExchange_of_endpoints {r : Registry} {exchange target : String} {z : DestinationId × DestinationId}
    (h : r.endpoints exchange target = .ok z) : r.HasExchange z.1 := by
  have hl := (endpoints_eq_ok.1 h).1
  unfold lookupExchange at hl
  exact (Option.filter_eq_some_iff.1 hl).2

theorem reply_bindTo {x y : Destination} {s : Option Selector} (he : b.registry.live? e = some x)
    (ht : b.registry.live? t = some y) (hne : t ≠ e) (hs : arguments.selector = .ok s) :
    ∃ answer, (b.bindTo e t key arguments replace).2 = .ok answer := by
  obtain ⟨hx, hlive⟩ := live?_eq_some.1 he
  obtain ⟨hy, htarget⟩ := live?_eq_some.1 ht
  unfold bindTo Registry.bind
  simp [hx, hy, hne, hlive, hs, htarget]

theorem reply_delete {name : String} {force : Bool} {d : DestinationId} {x : Destination}
    (hd : b.registry.lookup name = some d) (hx : b.registry.get? d = some x) (ordinary : x.isSystem = false)
    (free : force = true ∨ b.registry.dependants d name = []) : (b.delete name force).2 = .ok () := by
  have h := delete_eq_ok.2 ⟨d, x, hd, hx, ordinary, free, rfl, rfl⟩
  unfold delete
  rw [h]

theorem live_of_lookup {r : Registry} (hc : r.Consistent) {name : String} {d : DestinationId}
    (h : r.lookup name = some d) : ∃ x, r.live? d = some x := by
  obtain ⟨x, hx, -⟩ := (hc.lookup_iff name d).1 h
  exact ⟨x, live?_eq_some.2 ⟨(registered?_eq_some.1 hx).2, hc.registered_live hx⟩⟩

theorem permitted_reply (hc : b.registry.Consistent) {q : TopologyRequest} (h : q.Permitted b.registry) :
    ∃ answer, b.reply q = .ok answer := by
  cases q with
  | createQueue q => exact h.elim
  | createExchange x => exact h.elim
  | setAlternate name alternate => exact h.elim
  | bind exchange target key arguments replace =>
    obtain ⟨e, t, s, he, ht, hne, hs⟩ := h
    have hz : b.registry.endpoints exchange target = .ok (e, t) := endpoints_eq_ok.2 ⟨he, ht⟩
    have hl : b.registry.lookup exchange = some e := by
      unfold lookupExchange at he
      exact (Option.filter_eq_some_iff.1 he).1
    obtain ⟨x, hx⟩ := live_of_lookup hc hl
    obtain ⟨y, hy⟩ := live_of_lookup hc ht
    simp only [reply, bind, hz]
    exact reply_bindTo hx hy hne hs
  | bindHeld e t key arguments replace =>
    obtain ⟨x, y, s, he, ht, hne, hs⟩ := h
    exact reply_bindTo he ht hne hs
  | unbind exchange target key =>
    obtain ⟨e, t, he, ht⟩ := h
    have hz : b.registry.endpoints exchange target = .ok (e, t) := endpoints_eq_ok.2 ⟨he, ht⟩
    simp only [reply, unbind, hz]
    exact ⟨_, rfl⟩
  | unbindHeld e t key => exact ⟨_, rfl⟩
  | delete name force =>
    obtain ⟨d, x, hd, hx, ordinary, free⟩ := h
    simp only [reply, reply_delete hd hx ordinary free]
    exact ⟨_, rfl⟩

/-- **What a granted request does to the charts** is what it asks for. -/
theorem charts_granted (hc : b.registry.Consistent) {q : TopologyRequest} {answer : Bool}
    (h : b.reply q = .ok answer) : match q.change? b.registry with
      | none => (b.administer q).registry.charts = b.registry.charts
      | some change => (answer, (b.administer q).registry.charts) = b.registry.charts.perform change := by
  cases q with
  | createQueue q => exact charts_createQueue b q
  | createExchange x => exact charts_createExchange b x
  | setAlternate name alternate => exact charts_setAlternate b name alternate
  | bind exchange target key arguments replace =>
    simp only [reply, administer, TopologyRequest.change?, bind] at h ⊢
    cases hz : b.registry.endpoints exchange target with
    | error e =>
      rw [hz] at h
      cases h
    | ok z =>
      rw [hz] at h
      exact charts_bindTo (hasExchange_of_endpoints hz) h
  | bindHeld e t key arguments replace =>
    simp only [TopologyRequest.change?]
    by_cases he : b.registry.HasExchange e
    · rw [if_pos he]
      exact charts_bindTo he h
    · rw [if_neg he]
      exact charts_bindTo_of_not he
  | unbind exchange target key =>
    simp only [reply, administer, TopologyRequest.change?, unbind] at h ⊢
    cases hz : b.registry.endpoints exchange target with
    | error e =>
      rw [hz] at h
      cases h
    | ok z =>
      rw [hz] at h
      cases h
      exact charts_unbindFrom b z.1 z.2 key
  | unbindHeld e t key =>
    cases h
    exact charts_unbindFrom b e t key
  | delete name force =>
    simp only [reply, administer, TopologyRequest.change?] at h ⊢
    cases hb : (b.delete name force).2 with
    | error e =>
      rw [hb] at h
      cases h
    | ok _ =>
      rw [hb] at h
      cases h
      obtain ⟨d, hd, hcharts⟩ := charts_delete hc hb
      rw [hd]
      exact hcharts

end Broker

end MessageBroker
