import MessageBroker.Proofs.Broker.Asides
import MessageBroker.Proofs.Broker.Resolving
/-!
# What becomes of unsettled deliveries

A link keeps its unsettled deliveries in a map, and an open transaction the dispositions that it owes.  What an
operation does to all of these, and what it sends, is told by a list of marks (`Settles`); marks add up
(`Settles.trans`).  How one delivery stands after an operation follows from the marks that are about it
(`Settles.unsettled?`).
-/
namespace MessageBroker

/-- One thing that happens to unsettled deliveries, or to the dispositions that transactions owe. -/
inductive Mark where
  /-- A delivery stands as unsettled, in a state that its sender is to be told. -/
  | recorded (l : LinkId) (tag : DeliveryTag) (state : DeliveryState)
  | sent (a : SettlementAction)
  | begun (i : TransactionId)
  | owed (i : TransactionId) (a : SettlementAction)
  | closed (i : TransactionId)
  /-- A link forgets all deliveries but those that it keeps. -/
  | forgotten (l : LinkId) (kept : DeliveryTag → Bool)

namespace Mark

def onMaps : Mark → List Unsettled → List Unsettled
  | recorded l tag state, us => us.modify l (·.record tag (some state))
  | sent a, us => us.modify a.link (Broker.settleOrRecord · a.disposition)
  | forgotten l kept, us => us.modify l (·.filter fun e => kept e.1)
  | _, us => us

def onDebts (i : TransactionId) : Mark → Option (List SettlementAction) → Option (List SettlementAction)
  | begun j, as => if j = i then some [] else as
  | owed j a, as => if j = i then as.map (· ++ [a]) else as
  | closed j, as => if j = i then none else as
  | _, as => as

def sent? : Mark → Option SettlementAction
  | sent a => some a
  | _ => none

/-- What a mark makes of one delivery on a link that there is. -/
def onEntry (l : LinkId) (tag : DeliveryTag) :
    Mark → Option (Option DeliveryState) → Option (Option DeliveryState)
  | recorded k t state, e => if k = l ∧ t = tag then some (some state) else e
  | sent a, e =>
    if a.link = l ∧ a.disposition.tag = tag then if a.disposition.settled then none else some a.disposition.state
    else e
  | forgotten k kept, e => if k = l ∧ kept tag = false then none else e
  | _, e => e

end Mark

/-! ## Maps of unsettled deliveries -/

namespace Unsettled

theorem state?_filter (u : Unsettled) (kept : DeliveryTag → Bool) (tag : DeliveryTag) :
    state? (u.filter fun e => kept e.1) tag = if kept tag = false then none else u.state? tag := by
  unfold state?
  induction u with
  | nil => simp
  | cons e u ih =>
    obtain ⟨t, s⟩ := e
    by_cases ht : tag = t
    · subst ht
      cases hk : kept tag with
      | true => simp [hk]
      | false => simpa [hk] using ih
    · cases hk : kept t <;> simp [hk, List.lookup_cons, beq_eq_false_iff_ne.2 ht, ih]

theorem remove_of_not_contains {u : Unsettled} {tag : DeliveryTag} (h : u.contains tag = false) : u.remove tag = u := by
  unfold contains state? at h
  rw [Option.isSome_eq_false_iff, Option.isNone_iff_eq_none, List.lookup_eq_none_iff] at h
  refine List.filter_eq_self.2 fun e he => ?_
  exact bne_iff_ne.2 fun ht => bne_iff_ne.1 (h e he) ht.symm

theorem state?_settleOrRecord (u : Unsettled) (d : Disposition) (tag : DeliveryTag) :
    (Broker.settleOrRecord u d).state? tag =
      if d.tag = tag then if d.settled then none else some d.state else u.state? tag := by
  unfold Broker.settleOrRecord
  by_cases ht : d.tag = tag
  · subst ht
    rw [if_pos rfl]
    split
    · exact state?_remove_self u d.tag
    · exact state?_record_self u d.tag d.state
  · rw [if_neg ht]
    split
    · exact state?_remove_of_ne u (Ne.symm ht)
    · exact state?_record_of_ne u (Ne.symm ht) d.state

end Unsettled

/-- **A mark makes of each delivery what it says.** -/
theorem Mark.state?_onMaps {us : List Unsettled} {l : LinkId} (hl : l < us.length) (m : Mark) (tag : DeliveryTag) :
    ((m.onMaps us)[l]?.bind (·.state? tag)) = m.onEntry l tag (us[l]?.bind (·.state? tag)) := by
  have hmodify : ∀ (k : LinkId) (f : Unsettled → Unsettled),
      ((us.modify k f)[l]?.bind (·.state? tag)) = if k = l then (f us[l]).state? tag else us[l].state? tag := by
    intro k f
    rw [List.getElem?_modify, List.getElem?_eq_getElem hl]
    by_cases h : k = l <;> simp [h]
  have hsame : (us[l]?.bind (·.state? tag)) = us[l].state? tag := by rw [List.getElem?_eq_getElem hl]; rfl
  cases m with
  | recorded k t state =>
    simp only [onMaps, onEntry, hmodify, hsame]
    by_cases hk : k = l
    · by_cases ht : t = tag
      · subst ht
        simp [hk, Unsettled.state?_record_self]
      · simp [hk, ht, Unsettled.state?_record_of_ne _ (Ne.symm ht)]
    · simp [hk]
  | sent a =>
    simp only [onMaps, onEntry, hmodify, hsame, Unsettled.state?_settleOrRecord]
    by_cases hk : a.link = l <;> simp [hk]
  | forgotten k kept =>
    simp only [onMaps, onEntry, hmodify, hsame, Unsettled.state?_filter]
    by_cases hk : k = l <;> simp [hk]
  | begun j => rfl
  | owed j a => rfl
  | closed j => rfl

theorem Mark.length_onMaps (m : Mark) (us : List Unsettled) : (m.onMaps us).length = us.length := by
  cases m <;> simp [onMaps]

theorem Mark.state?_foldl_onMaps {l : LinkId} (tag : DeliveryTag) : ∀ (ms : List Mark) {us : List Unsettled},
    l < us.length → ((ms.foldl (fun us m => m.onMaps us) us)[l]?.bind (·.state? tag)) =
      ms.foldl (fun e m => m.onEntry l tag e) (us[l]?.bind (·.state? tag))
  | [], _, _ => rfl
  | m :: ms, us, hl => by
    have hl' : l < (m.onMaps us).length := by rwa [m.length_onMaps]
    rw [List.foldl_cons, state?_foldl_onMaps tag ms hl', m.state?_onMaps hl, List.foldl_cons]

/-! ## What marks are about -/

namespace Mark

/-- Whether a mark is about one delivery on a link. -/
def About (l : LinkId) (tag : DeliveryTag) : Mark → Prop
  | recorded k t _ => k = l ∧ t = tag
  | sent a => a.link = l ∧ a.disposition.tag = tag
  | forgotten k kept => k = l ∧ kept tag = false
  | _ => False

/-- A mark about another delivery leaves this one as it stands. -/
theorem onEntry_of_other {l : LinkId} {tag : DeliveryTag} {m : Mark} (h : ¬ m.About l tag)
    (e : Option (Option DeliveryState)) : m.onEntry l tag e = e := by
  cases m <;> first | rfl | exact if_neg h

theorem foldl_onEntry_induction {l : LinkId} {tag : DeliveryTag} {P : Option (Option DeliveryState) → Prop}
    (ms : List Mark) {e : Option (Option DeliveryState)}
    (h : ∀ m ∈ ms, m.About l tag → ∀ e, P e → P (m.onEntry l tag e)) (he : P e) :
    P (ms.foldl (fun e m => m.onEntry l tag e) e) :=
  List.foldlRecOn (motive := P) ms _ he fun e he m hm => by
    by_cases ha : m.About l tag
    · exact h m hm ha e he
    · rwa [onEntry_of_other ha]

theorem foldl_onEntry_of_others {l : LinkId} {tag : DeliveryTag} {ms : List Mark} (h : ∀ m ∈ ms, ¬ m.About l tag)
    (e : Option (Option DeliveryState)) : ms.foldl (fun e m => m.onEntry l tag e) e = e :=
  foldl_onEntry_induction (P := (· = e)) ms (fun m hm ha => absurd ha (h m hm)) rfl

/-- What is owed after a mark was owed before, or is owed because of it. -/
theorem mem_onDebts {i : TransactionId} {a : SettlementAction} {m : Mark} {o : Option (List SettlementAction)}
    {as : List SettlementAction} (h : m.onDebts i o = some as) (ha : a ∈ as) :
    (∃ as, o = some as ∧ a ∈ as) ∨ m = .owed i a := by
  cases m with
  | owed j a' =>
    simp only [onDebts] at h
    split at h
    · rename_i hj
      obtain ⟨as', rfl, rfl⟩ := Option.map_eq_some_iff.1 h
      rcases List.mem_append.1 ha with ha | ha
      · exact .inl ⟨as', rfl, ha⟩
      · rw [List.mem_singleton.1 ha, hj]
        exact .inr rfl
    · exact .inl ⟨as, h, ha⟩
  | begun j =>
    simp only [onDebts] at h
    split at h
    · cases h
      cases ha
    · exact .inl ⟨as, h, ha⟩
  | closed j =>
    simp only [onDebts] at h
    split at h
    · cases h
    · exact .inl ⟨as, h, ha⟩
  | recorded => exact .inl ⟨as, h, ha⟩
  | sent => exact .inl ⟨as, h, ha⟩
  | forgotten => exact .inl ⟨as, h, ha⟩

theorem mem_foldl_onDebts {i : TransactionId} {a : SettlementAction} : ∀ (ms : List Mark)
    {o : Option (List SettlementAction)} {as : List SettlementAction},
    ms.foldl (fun as m => m.onDebts i as) o = some as → a ∈ as → (∃ as, o = some as ∧ a ∈ as) ∨ .owed i a ∈ ms
  | [], _, as, h, ha => .inl ⟨as, h, ha⟩
  | m :: ms, o, as, h, ha => by
    rw [List.foldl_cons] at h
    rcases mem_foldl_onDebts ms h ha with ⟨as', h', ha'⟩ | hm
    · rcases mem_onDebts h' ha' with ho | rfl
      · exact .inl ho
      · exact .inr List.mem_cons_self
    · exact .inr (List.mem_cons_of_mem _ hm)

end Mark

namespace Broker

/-! ## What an operation does -/

/-- The unsettled deliveries of each link. -/
def maps (b : Broker) : List Unsettled := b.links.map (·.unsettled)

/-- How a delivery stands that is not settled. -/
def unsettled? (b : Broker) (l : LinkId) (tag : DeliveryTag) : Option (Option DeliveryState) :=
  (b.link? l).bind (·.unsettled.state? tag)

/-- What an open transaction owes. -/
def debts? (b : Broker) (i : TransactionId) : Option (List SettlementAction) := (b.account i).map Prod.snd

/-- **What an operation does to unsettled deliveries**, and what it sends and owes. -/
structure Settles (b b' : Broker) (ms : List Mark) : Prop where
  maps : b'.maps = ms.foldl (fun us m => m.onMaps us) b.maps
  debts : ∀ i, b'.debts? i = ms.foldl (fun as m => m.onDebts i as) (b.debts? i)
  outbox : b'.outbox = b.outbox ++ b.letters (ms.filterMap Mark.sent?)
  ears : ∀ l, b'.ear? l = b.ear? l
  begun : b.transactions.length ≤ b'.transactions.length

variable {b b' b'' : Broker} {ms ms' : List Mark}

theorem unsettled?_eq (b : Broker) (l : LinkId) (tag : DeliveryTag) :
    b.unsettled? l tag = b.maps[l]?.bind (·.state? tag) := by
  unfold unsettled? maps link?
  rw [List.getElem?_map]
  cases b.links[l]? <;> rfl

theorem debts?_eq_none {i : TransactionId} : b.debts? i = none ↔ b.active? i = none := by
  rw [debts?, Option.map_eq_none_iff, account_eq_none]

theorem Settles.refl (b : Broker) : Settles b b [] :=
  ⟨rfl, fun _ => rfl, (List.append_nil _).symm, fun _ => rfl, Nat.le_refl _⟩

theorem Settles.trans (h : Settles b b' ms) (h' : Settles b' b'' ms') : Settles b b'' (ms ++ ms') := by
  refine ⟨?_, fun i => ?_, ?_, fun l => (h'.ears l).trans (h.ears l), Nat.le_trans h.begun h'.begun⟩
  · rw [List.foldl_append, ← h.maps, h'.maps]
  · rw [List.foldl_append, ← h.debts, h'.debts]
  · rw [h'.outbox, h.outbox, letters_congr h.ears, List.filterMap_append, letters_append, List.append_assoc]

theorem Settles.quiet (h : Settles b b' ms) (h' : Settles b' b'' []) : Settles b b'' ms := by
  have := h.trans h'
  rwa [List.append_nil] at this

/-- **How a delivery stands is what the marks have made of it.** -/
theorem Settles.unsettled? (h : Settles b b' ms) {l : LinkId} (hl : (b.link? l).isSome = true) (tag : DeliveryTag) :
    b'.unsettled? l tag = ms.foldl (fun e m => m.onEntry l tag e) (b.unsettled? l tag) := by
  obtain ⟨x, hx⟩ := Option.isSome_iff_exists.1 hl
  have hlt : l < b.maps.length := by
    unfold Broker.maps
    rw [List.length_map]
    exact (List.getElem?_eq_some_iff.1 hx).1
  rw [unsettled?_eq, unsettled?_eq, h.maps, Mark.state?_foldl_onMaps tag ms hlt]

/-! ## Operations without marks -/

theorem maps_congr (h : b'.links = b.links) : b'.maps = b.maps := by
  unfold maps
  rw [h]

theorem debts?_congr (h : b'.transactions = b.transactions) (i : TransactionId) : b'.debts? i = b.debts? i := by
  unfold debts?
  rw [account_congr h]

theorem Settles.of_kept (links : b'.links = b.links) (transactions : b'.transactions = b.transactions)
    (outbox : b'.outbox = b.outbox) : Settles b b' [] :=
  ⟨maps_congr links, debts?_congr transactions, by rw [outbox]; exact (List.append_nil _).symm, ear?_congr links,
    Nat.le_of_eq (by rw [transactions])⟩

theorem Aside.debts? (h : Aside b b') (i : TransactionId) : b'.debts? i = b.debts? i := by
  unfold Broker.debts?
  rw [(h .autoCommit).account]
  simp

theorem Aside.outbox (h : Aside b b') : b'.outbox = b.outbox ++ b.letters [] := (h .autoCommit).yields.outbox

/-- What is done aside from publishing and answering, and keeps unsettled deliveries as they are. -/
theorem Aside.quiet (h : Aside b b') (maps : b'.maps = b.maps) : Settles b b' [] :=
  ⟨maps, h.debts?, h.outbox, (h .autoCommit).ears, (h .autoCommit).yields.begun⟩

theorem Aside.forgets (h : Aside b b') {l : LinkId} {kept : DeliveryTag → Bool}
    (maps : b'.maps = b.maps.modify l (·.filter fun e => kept e.1)) : Settles b b' [.forgotten l kept] :=
  ⟨maps, h.debts?, h.outbox, (h .autoCommit).ears, (h .autoCommit).yields.begun⟩

theorem maps_modifyLink (b : Broker) (l : LinkId) {f : Link → Link} {g : Unsettled → Unsettled}
    (hf : ∀ x, (f x).unsettled = g x.unsettled) : (b.modifyLink l f).maps = b.maps.modify l g := by
  unfold maps modifyLink
  refine List.ext_getElem? fun i => ?_
  simp only [List.getElem?_map, List.getElem?_modify]
  cases b.links[i]? with
  | none => rfl
  | some x => by_cases h : l = i <;> simp [h, hf]

/-- A change of a link that is none of its unsettled deliveries. -/
theorem maps_modifyLink_self (b : Broker) (l : LinkId) {f : Link → Link} (hf : ∀ x, (f x).unsettled = x.unsettled) :
    (b.modifyLink l f).maps = b.maps := by
  rw [maps_modifyLink b l (g := id) hf]
  exact List.modify_id ..

theorem settles_note (b : Broker) (n : Notice) : Settles b (b.note n) [] := .of_kept rfl rfl rfl

/-- A change of a link that is neither about deliveries nor about who takes dispositions. -/
theorem settles_modifyLink (b : Broker) (l : LinkId) {f : Link → Link} (hu : ∀ x, (f x).unsettled = x.unsettled)
    (ho : ∀ x, (f x).receiverOpen = x.receiverOpen) : Settles b (b.modifyLink l f) [] := by
  refine ⟨maps_modifyLink_self b l hu, debts?_congr rfl, (List.append_nil _).symm, fun i => ?_, Nat.le_refl _⟩
  unfold ear? link? modifyLink
  rw [List.getElem?_modify]
  cases b.links[i]? with
  | none => rfl
  | some x => by_cases h : l = i <;> simp [h, ho]

/-! ## Links -/

theorem Administered.links (h : Administered b b') : b'.links = b.links := by
  cases h <;> rfl

theorem links_createDynamic (b : Broker) (name : String) : (b.createDynamic name).1.links = b.links := by
  have h1 := (administered_createQueue b { name := b.registry.nextDynamicName name }).links
  unfold createDynamic
  split <;> (rename_i heq; rwa [heq] at h1)

theorem links_deleteDynamic (b : Broker) (name : String) : (b.deleteDynamic name).1.links = b.links := by
  have h1 := (administered_delete b name false).links
  unfold deleteDynamic
  split <;> (rename_i heq; rwa [heq] at h1)

theorem settles_register (b : Broker) (name : String) (r : Receiver) : Settles b (b.register name r) [] := by
  refine (linkSteps_aside.register b name r).quiet (maps_congr ?_)
  unfold register linkAdded
  split
  · rfl
  · split <;> rfl

theorem settles_unregister (b : Broker) (name : String) (r : Receiver) : Settles b (b.unregister name r) [] := by
  refine (linkSteps_aside.unregister b name r).quiet (maps_congr ?_)
  unfold unregister linkRemoved
  split
  · rfl
  · split <;> rfl

/-- **Giving a link another receiver** has nothing to do with deliveries, whichever receiver it is. -/
theorem settles_setReceiver (b : Broker) (l : LinkId) (next : Option Receiver) :
    Settles b (b.setReceiver l next) [] := by
  unfold setReceiver
  split
  · exact .refl b
  rename_i link _
  split
  · exact .refl b
  refine .quiet ?_ (settles_modifyLink _ l (fun _ => rfl) fun _ => rfl)
  refine .quiet ?_ (settles_note _ _)
  cases link.receiver with
  | none =>
    cases next with
    | none => exact .refl b
    | some r => exact settles_register b _ r
  | some old =>
    have h1 := settles_unregister b link.name old
    cases next with
    | none => exact h1
    | some r => exact h1.quiet (settles_register _ _ r)

theorem settles_dropDynamicNode (b : Broker) (l : LinkId) : Settles b (b.dropDynamicNode l) [] := by
  refine (linkSteps_aside.dropDynamicNode b l).quiet ?_
  unfold dropDynamicNode
  split
  · rfl
  split
  · rfl
  rename_i node _
  have h1 := maps_modifyLink_self b l (f := fun x => { x with dynamicNode := none }) fun _ => rfl
  have h2 := links_deleteDynamic (b.modifyLink l fun x => { x with dynamicNode := none }) node
  simp only
  split <;> (rename_i heq; rw [heq] at h2; exact (maps_congr h2).trans h1)

theorem settles_suspend (b : Broker) (l : LinkId) : Settles b (b.suspend l) [] := by
  unfold suspend
  split
  · exact .refl b
  refine .quiet ?_ (settles_note _ _)
  exact (settles_setReceiver b l none).quiet (settles_modifyLink _ l (fun _ => rfl) fun _ => rfl)

theorem settles_clearLink (b : Broker) (l : LinkId) :
    Settles b (b.modifyLink l clearLink) [.forgotten l fun _ => false] := by
  refine Aside.forgets (linkSteps_aside.modify b l (f := clearLink) (fun _ => rfl) fun _ => rfl) ?_
  exact maps_modifyLink b l fun x => (List.filter_eq_nil_iff.2 fun _ _ => Bool.false_ne_true).symm

/-- A link that there is not has no map to change. -/
theorem modify_of_no_link {l : LinkId} (h : b.link? l = none) (f : Unsettled → Unsettled) :
    b.maps.modify l f = b.maps := by
  refine List.modify_eq_self ?_
  unfold maps
  rw [List.length_map]
  exact List.getElem?_eq_none_iff.1 h

theorem settles_of_no_link {l : LinkId} (h : b.link? l = none) (kept : DeliveryTag → Bool) :
    Settles b b [.forgotten l kept] := (Aside.refl b).forgets (modify_of_no_link h _).symm

/-- **A link that is torn down forgets all of its deliveries.** -/
theorem settles_teardown (b : Broker) (l : LinkId) (how : LinkEnd) :
    Settles b (b.teardown l how) [.forgotten l fun _ => false] := by
  unfold teardown
  split
  · exact settles_of_no_link ‹_› _
  refine .quiet ?_ (settles_note _ _)
  exact ((settles_setReceiver b l none).trans (settles_dropDynamicNode _ l)).trans (settles_clearLink _ l)

/-- Forgetting none of its deliveries, a link keeps its map. -/
theorem Settles.keeping (h : Settles b b' []) (l : LinkId) {kept : DeliveryTag → Bool} (hk : ∀ tag, kept tag = true) :
    Settles b b' [.forgotten l kept] := by
  refine ⟨?_, h.debts, h.outbox, h.ears, h.begun⟩
  have hid : (fun u : Unsettled => u.filter fun e => kept e.1) = id :=
    funext fun u => List.filter_eq_self.2 fun e _ => hk e.1
  rw [h.maps]
  simp only [List.foldl_cons, List.foldl_nil, Mark.onMaps, hid, List.modify_id]

theorem settles_detach (b : Broker) (l : LinkId) (request : Option Detach) :
    Settles b (b.detach l request).1 [.forgotten l fun _ => (b.detach l request).2 == .suspended] := by
  unfold detach
  split
  · exact settles_of_no_link ‹_› _
  have h1 : Settles b (b.modifyLink l fun x => { x with state := .detaching }) [] :=
    settles_modifyLink b l (fun _ => rfl) fun _ => rfl
  simp only
  generalize detachOutcome _ _ request = outcome
  cases outcome with
  | closed => exact h1.trans (settles_teardown _ l _)
  | destroyed => exact h1.trans (settles_teardown _ l _)
  | suspended => exact (h1.trans (settles_suspend _ l)).keeping l fun _ => rfl

theorem maps_of_link? {l : LinkId} {link : Link} (hl : b.link? l = some link) : b.maps[l]? = some link.unsettled := by
  unfold link? at hl
  rw [maps, List.getElem?_map, hl]
  rfl

/-- What matters of a change is what it makes of the map that is there. -/
theorem maps_modify_congr {us : List Unsettled} {l : LinkId} {u : Unsettled} (hu : us[l]? = some u)
    {f g : Unsettled → Unsettled} (h : f u = g u) : us.modify l f = us.modify l g := by
  refine List.ext_getElem? fun i => ?_
  simp only [List.getElem?_modify]
  by_cases hi : l = i
  · subst hi
    simp [hu, h]
  · simp [hi]

theorem settles_receiveDisposition {l : LinkId} {link : Link} (hl : b.link? l = some link) (tag : DeliveryTag)
    (settled : Bool) : Settles b (b.receiveDisposition l link tag settled)
      [.forgotten l fun t => !settled || t != tag] := by
  unfold receiveDisposition
  cases settled with
  | false => exact (Settles.refl b).keeping l fun _ => rfl
  | true =>
    simp only [Bool.true_and, Bool.not_true, Bool.false_or]
    split
    · refine .quiet ?_ (settles_note _ _)
      have h1 : Aside b (b.modifyLink l fun x => { x with unsettled := x.unsettled.remove tag }) :=
        linkSteps_aside.modify b l (fun _ => rfl) fun _ => rfl
      exact h1.forgets (maps_modifyLink b l fun _ => rfl)
    · -- the delivery is not on the map, so there is nothing to forget
      rename_i hc
      refine (Aside.refl b).forgets ((List.modify_id ..).symm.trans (maps_modify_congr (maps_of_link? hl) ?_))
      exact (Unsettled.remove_of_not_contains (Bool.eq_false_iff.2 hc)).symm

/-! ## Attaching -/

theorem settles_ensureAttached (b : Broker) (link : Link) : Settles b (b.ensureAttached link).1 [] := by
  unfold ensureAttached
  split
  · exact .refl b
  · exact settles_note b _

theorem settles_start (b : Broker) (l : LinkId) (link : Link) : Settles b (b.start l link).1 [] := by
  have h1 := settles_ensureAttached b link
  unfold start
  split
  · rename_i heq
    rwa [heq] at h1
  · rename_i heq
    rw [heq] at h1
    refine .quiet ?_ (settles_note _ _)
    exact h1.quiet (settles_modifyLink _ l (fun _ => rfl) fun _ => rfl)

theorem settles_dynamicNode (b : Broker) (l : LinkId) (link : Link) : Settles b (b.dynamicNode l link).1 [] := by
  refine (linkSteps_aside.dynamicNode b l link).quiet ?_
  unfold dynamicNode
  split
  · rfl
  have h1 := links_createDynamic b link.name
  split
  · rename_i heq
    rw [heq] at h1
    exact maps_congr h1
  · rename_i heq
    rw [heq] at h1
    refine Eq.trans ?_ (maps_congr h1)
    exact maps_modifyLink_self _ l fun _ => rfl

theorem settles_receiverFor (b : Broker) (l : LinkId) (link : Link) (target : Target) :
    Settles b (b.receiverFor l link target).1 [] := by
  unfold receiverFor
  simp only
  split
  · have h1 := settles_dynamicNode b l link
    split
    · rename_i heq
      rwa [heq] at h1
    · rename_i heq
      rw [heq] at h1
      exact h1.quiet (.of_kept rfl rfl rfl)
  · split
    · exact .of_kept rfl rfl rfl
    · exact .of_kept rfl rfl rfl
    · split <;> exact .of_kept rfl rfl rfl

/-- The deliveries that an attach leaves on the map: all that it names, or all if its list may lack some. -/
def keptBy (a : Attach) (tag : DeliveryTag) : Bool := a.incomplete || (a.unsettled.getD []).contains tag

theorem settles_reconcile {l : LinkId} {link : Link} (hu : b.maps[l]? = some link.unsettled) (a : Attach) :
    Settles b (b.reconcile l link a) [.forgotten l (keptBy a)] := by
  unfold reconcile
  cases ha : a.incomplete with
  | true => exact (Settles.refl b).keeping l fun tag => by simp [keptBy, ha]
  | false =>
    have h1 : Aside b (b.modifyLink l fun x => { x with unsettled := link.unsettled.retain (a.unsettled.getD []) }) :=
      linkSteps_aside.modify b l (fun _ => rfl) fun _ => rfl
    have h2 : Settles b _ [.forgotten l (keptBy a)] := h1.forgets <| by
      rw [maps_modifyLink b l (g := fun _ => link.unsettled.retain (a.unsettled.getD [])) fun _ => rfl]
      refine maps_modify_congr hu ?_
      simp [Unsettled.retain, keptBy, ha]
    simp only [Bool.false_eq_true, if_false]
    split
    · exact h2
    · exact h2.quiet (settles_note _ _)

theorem settles_completeAttach {l : LinkId} {link : Link} (hu : b.maps[l]? = some link.unsettled) (a : Attach)
    (requested : Target) (r : Receiver) (target : Target) :
    Settles b (b.completeAttach l link a requested r target) [.forgotten l (keptBy a)] := by
  unfold completeAttach
  simp only
  refine .quiet ?_ (settles_note _ _)
  refine .quiet ?_ (settles_modifyLink _ l (fun _ => rfl) fun _ => rfl)
  refine .quiet ?_ (settles_setReceiver _ l _)
  have h1 := settles_modifyLink b l (f := fun x => { x with capabilities := grantedCapabilities requested r })
    (fun _ => rfl) fun _ => rfl
  refine h1.trans (settles_reconcile ?_ a)
  rw [h1.maps]
  exact hu

theorem settles_failAttach (b : Broker) (l : LinkId) (link : Link) {e : LinkError} (he : e.isFatal = true) :
    Settles b (b.failAttach l link e).1 [.forgotten l fun _ => false] := by
  unfold failAttach
  simp only [he, if_true]
  exact (settles_note b _).trans (settles_teardown _ l _)

theorem settles_attachReceived {l : LinkId} {link : Link} (hl : b.link? l = some link) (source : Option Source)
    (a : Attach) : Settles b (b.attachReceived l link source a).1
      [.forgotten l fun tag => (b.attachReceived l link source a).2.isOk && keptBy a tag] := by
  unfold attachReceived
  simp only
  have h1 : Settles b (b.modifyLink l fun x => { x with
      source := source <|> x.source, state := .attaching, settleMode := a.settleMode <|> x.settings.settleMode }) [] :=
    settles_modifyLink b l (fun _ => rfl) fun _ => rfl
  split
  · exact h1.trans (settles_failAttach _ l link rfl)
  · rename_i target _
    have h2 := settles_receiverFor (b.modifyLink l fun x => { x with
      source := source <|> x.source, state := .attaching, settleMode := a.settleMode <|> x.settings.settleMode })
      l link target
    split
    · rename_i heq
      rw [heq] at h2
      exact (h1.trans h2).trans (settles_failAttach _ l link rfl)
    · rename_i heq
      rw [heq] at h2
      have h3 := h1.trans h2
      refine h3.trans (settles_completeAttach ?_ a target _ _)
      rw [h3.maps]
      exact maps_of_link? hl

theorem settles_establish {l : LinkId} {link : Link} (hl : b.link? l = some link) (a : Attach) :
    Settles b (b.establish l link a).1 [.forgotten l fun tag => (b.establish l link a).2.isOk && keptBy a tag] := by
  unfold establish
  split
  · exact settles_failAttach b l link rfl
  · exact settles_attachReceived hl _ a

theorem settles_resume {l : LinkId} {link : Link} (hl : b.link? l = some link) (a : Attach) :
    Settles b (b.resume l link a).1 [.forgotten l fun tag => (b.resume l link a).2.isOk && keptBy a tag] := by
  unfold resume
  split
  · exact settles_failAttach b l link rfl
  split
  · exact settles_failAttach b l link rfl
  split
  · exact settles_failAttach b l link rfl
  · exact settles_attachReceived hl _ a

theorem settles_reattach {l : LinkId} {link : Link} (hl : b.link? l = some link) (a : Attach) :
    Settles b (b.reattach l link a).1 [.forgotten l fun tag => (b.reattach l link a).2.isOk && keptBy a tag] := by
  unfold reattach
  split
  · exact settles_failAttach b l link rfl
  · exact settles_attachReceived hl _ a

theorem settles_recover {l : LinkId} {link : Link} (hl : b.link? l = some link) (a : Attach) :
    Settles b (b.recover l link a).1 [.forgotten l fun tag => (b.recover l link a).2.isOk && keptBy a tag] := by
  unfold recover
  split
  · exact settles_failAttach b l link rfl
  · exact settles_attachReceived hl _ a

/-- An attach that is turned away at once leaves the link alone. -/
theorem settles_attach {l : LinkId} {link : Link} (hl : b.link? l = some link) (a : Attach) :
    Settles b (b.attach l link a).1 [.forgotten l fun tag =>
      link.state != .unattached || (b.attach l link a).2.isOk && keptBy a tag] := by
  unfold attach
  split
  · rename_i hs
    exact (Settles.refl b).keeping l fun tag => by rw [hs, Bool.true_or]
  · rename_i hs
    rw [Bool.not_eq_true] at hs
    simp only [hs, Bool.false_or]
    split
    · exact settles_recover hl a
    split
    · exact settles_establish hl a
    · exact settles_resume hl a

/-! ## Dispositions -/

theorem settles_sendDisposition (b : Broker) (l : LinkId) (d : Disposition) :
    Settles b (b.sendDisposition l d) [.sent ⟨l, d⟩] := by
  have h := does_sendDisposition b l d
  refine ⟨?_, fun i => ?_, h.yields.outbox, h.ears, h.yields.begun⟩
  · unfold sendDisposition
    split
    · exact (modify_of_no_link ‹_› _).symm
    · have h1 : (b.modifyLink l fun x => { x with unsettled := settleOrRecord x.unsettled d }).maps =
          b.maps.modify l (settleOrRecord · d) := maps_modifyLink b l fun _ => rfl
      refine Eq.trans (maps_congr ?_) h1
      unfold dispatch
      split <;> rfl
  · unfold debts?
    rw [h.account]
    simp [Transaction.later, Mark.onDebts]

theorem settles_fire : ∀ (as : List SettlementAction) (b : Broker), Settles b (b.fire as) (as.map .sent)
  | [], b => .refl b
  | a :: as, b => (settles_sendDisposition b a.link a.disposition).trans (settles_fire as _)

/-! ## Transactions -/

/-- Changing a transaction is nothing to links, and sends nothing. -/
theorem Settles.of_modifyTransaction (i : TransactionId) {f : LocalTransaction → LocalTransaction}
    (hsent : ms.filterMap Mark.sent? = []) (hmaps : ms.foldl (fun us m => m.onMaps us) b.maps = b.maps)
    (debts : ∀ j, (b.modifyTransaction i f).debts? j = ms.foldl (fun as m => m.onDebts j as) (b.debts? j)) :
    Settles b (b.modifyTransaction i f) ms := by
  obtain ⟨ts, heq, hlen⟩ := b.modifyTransaction_eq i f
  refine ⟨?_, debts, ?_, ear?_modifyTransaction b i f, ?_⟩
  · rw [hmaps, heq]
    rfl
  · rw [hsent, heq]
    exact (List.append_nil _).symm
  · rw [heq]
    exact Nat.le_of_eq hlen.symm

theorem settles_close (b : Broker) (i : TransactionId) : Settles b (b.close i) [.closed i] := by
  refine .of_modifyTransaction i rfl rfl fun j => ?_
  have h : (b.close i).debts? j = if j = i then none else b.debts? j := by
    unfold debts? account
    rw [active?_close]
    split <;> rfl
  rw [← close, h]
  by_cases hj : j = i
  · simp [Mark.onDebts, hj]
  · simp [Mark.onDebts, hj, Ne.symm hj]

/-- What is owed is owed if the transaction is open, and sent at once if it is not. -/
theorem settles_owe (b : Broker) (i : TransactionId) (a : SettlementAction) :
    Settles b (b.owe i a) [if (b.debts? i).isSome then .owed i a else .sent a] := by
  have hopen : (b.debts? i).isSome = (b.active? i).isSome := by
    rw [debts?, account, Option.isSome_map, Option.isSome_map]
  rw [hopen]
  unfold owe
  cases h : b.active? i with
  | none => exact settles_fire [a] b
  | some t =>
    refine .of_modifyTransaction i rfl rfl fun j => ?_
    unfold debts? account
    rw [active?_modifyTransaction b i (f := fun t => { t with actions := t.actions ++ [a] }) (fun _ => rfl)]
    by_cases hj : i = j <;> simp [Mark.onDebts, hj, Function.comp_def]

theorem settles_begin (b : Broker) : Settles b b.begin.1 [.begun b.begin.2] := by
  refine ⟨rfl, fun i => ?_, (List.append_nil _).symm, fun _ => rfl, List.length_append ▸ Nat.le_add_right _ _⟩
  unfold debts?
  rw [account_begin]
  by_cases hi : i = b.begin.2
  · simp [Mark.onDebts, hi]
  · simp [Mark.onDebts, hi, Ne.symm hi]

theorem settles_doom (b : Broker) (t : Transaction) : Settles b (b.doom t) [] := by
  refine (aside_doom b t).quiet (maps_congr ?_)
  unfold doom
  cases t with
  | autoCommit => rfl
  | inside id =>
    simp only
    split
    · rfl
    · obtain ⟨ts, heq, -⟩ := b.modifyTransaction_eq id fun t => { t with rollbackOnly := true }
      rw [heq]
      rfl

/-- What comes of the end of a transaction: it is closed, and what it owes is sent. -/
def resolving (b : Broker) (i : TransactionId) : List Mark :=
  ((b.debts? i).map fun as => .closed i :: as.map .sent).getD []

theorem mem_resolving {i : TransactionId} {m : Mark} (h : m ∈ b.resolving i) :
    ∃ as, b.debts? i = some as ∧ (m = .closed i ∨ ∃ a ∈ as, m = .sent a) := by
  unfold resolving at h
  cases ho : b.debts? i with
  | none => simp [ho] at h
  | some as =>
    refine ⟨as, rfl, ?_⟩
    rcases List.mem_cons.1 (by simpa [ho] using h : m ∈ Mark.closed i :: as.map .sent) with h | h
    · exact .inl h
    · obtain ⟨a, ha, rfl⟩ := List.mem_map.1 h
      exact .inr ⟨a, ha, rfl⟩

theorem settles_discard (b : Broker) (ps : List PendingEnqueue) : Settles b (b.discard ps) [] := .of_kept rfl rfl rfl

theorem settles_place (b : Broker) (q : DestinationId) (entry : QueueEntry) : Settles b (b.place q entry) [] := by
  refine .of_kept ?_ ?_ ?_ <;> (unfold place; split <;> rfl)

theorem settles_placeHeld (ps : List PendingEnqueue) (b : Broker) : Settles b (b.placeHeld ps) [] := by
  unfold placeHeld
  induction ps generalizing b with
  | nil => exact .refl b
  | cons p ps ih =>
    have h1 : Settles b ((b.place p.queue p.entry).release p.entry.message.id) [] :=
      (settles_place b p.queue p.entry).quiet (.of_kept rfl rfl rfl)
    exact h1.trans (ih _)

/-- What is done once a transaction is closed and what it held back is dealt with. -/
theorem Settles.resolving {i : TransactionId} {t : LocalTransaction} (ht : b.active? i = some t)
    (h : Settles (b.close i) b' []) (n : Notice) : Settles b ((b'.fire t.actions).note n) (b.resolving i) := by
  have hmarks : b.resolving i = [.closed i] ++ t.actions.map .sent := by
    simp [Broker.resolving, debts?, account, ht]
  rw [hmarks]
  exact (((settles_close b i).quiet h).trans (settles_fire t.actions b')).quiet (settles_note _ n)

theorem resolving_of_not_open {i : TransactionId} (h : b.active? i = none) : b.resolving i = [] := by
  simp [resolving, debts?, account, h]

/-- After its end a transaction owes nothing any more, and every other one what it owed. -/
theorem Settles.debts_of_resolving {i : TransactionId} (h : Settles b b' (b.resolving i)) (j : TransactionId) :
    b'.debts? j = if j = i then none else b.debts? j := by
  have hsent : ∀ (as : List SettlementAction) (x : Option (List SettlementAction)),
      (as.map Mark.sent).foldl (fun x m => m.onDebts j x) x = x := fun as x => by
    induction as with
    | nil => rfl
    | cons a as ih => exact ih
  rw [h.debts]
  unfold Broker.resolving
  cases ho : b.debts? i with
  | none => by_cases hj : j = i <;> simp [hj, ho]
  | some as =>
    rw [Option.map_some, Option.getD_some, List.foldl_cons, hsent, Mark.onDebts]
    by_cases hj : j = i
    · simp [hj]
    · simp [hj, Ne.symm hj]

theorem settles_persist (b : Broker) (records : List StoreRecord) : Settles b (b.persist records).1 [] := by
  rw [persist_fst]
  exact .of_kept rfl rfl rfl

/-- **A commit closes its transaction and sends what that owes**, granted or not. -/
theorem settles_commit (b : Broker) (i : TransactionId) : Settles b (b.commit i).1 (b.resolving i) := by
  unfold commit
  cases ht : b.active? i with
  | none =>
    rw [resolving_of_not_open ht]
    exact .refl b
  | some t =>
    simp only
    split
    · exact .resolving ht (settles_discard _ t.pending) _
    · have hp := settles_persist (b.close i)
        (t.pending.filterMap fun p => (b.close i).recordFor p.queue p.entry.message)
      split
      · rename_i heq
        rw [heq] at hp
        exact .resolving ht (hp.quiet (settles_discard _ t.pending)) _
      · rename_i heq
        rw [heq] at hp
        exact .resolving ht (hp.quiet (settles_placeHeld t.pending _)) _

theorem settles_rollback (b : Broker) (i : TransactionId) : Settles b (b.rollback i).1 (b.resolving i) := by
  unfold rollback
  cases ht : b.active? i with
  | none =>
    rw [resolving_of_not_open ht]
    exact .refl b
  | some t => exact .resolving ht (settles_discard _ t.pending) _

/-! ## Publishing -/

theorem settles_holdAll (i : TransactionId) (entry : QueueEntry) (qs : List DestinationId) (b : Broker) :
    Settles b (qs.foldl (fun b q => b.hold i q entry) b) [] := by
  induction qs generalizing b with
  | nil => exact .refl b
  | cons q qs ih =>
    have h1 : Settles b (b.hold i q entry) [] := by
      refine .quiet (.of_modifyTransaction i rfl rfl fun j => ?_) (.of_kept rfl rfl rfl)
      unfold debts? account
      rw [active?_modifyTransaction b i (f := fun t => { t with pending := t.pending ++ [⟨q, entry⟩] }) fun _ => rfl]
      by_cases hj : i = j <;> simp [hj, Function.comp_def]
    exact h1.trans (ih _)

theorem settles_placeOn (entry : QueueEntry) (qs : List DestinationId) (b : Broker) :
    Settles b (qs.foldl (·.place · entry) b) [] := by
  induction qs generalizing b with
  | nil => exact .refl b
  | cons q qs ih => exact (settles_place b q entry).trans (ih _)

/-- **Sending a routing result** answers nothing. -/
theorem settles_send (b : Broker) (result : RoutingResult) (t : Transaction) :
    Settles b (b.send result t).1 [] := by
  unfold send
  cases t with
  | autoCommit =>
    have hp := settles_persist b (result.queues.filterMap (b.recordFor · result.message))
    simp only
    split
    · rename_i heq
      rwa [heq] at hp
    · rename_i heq
      rw [heq] at hp
      exact hp.quiet (settles_placeOn _ result.queues _)
  | inside i =>
    simp only
    split
    · exact .refl b
    · exact settles_holdAll i _ _ b

end Broker
end MessageBroker
