import MessageBroker.Proofs.Broker.Links
import MessageBroker.Proofs.Broker.Resolving
import MessageBroker.Proofs.Registry.Consistency
/-!
# What every operation upholds

A message is counted for each of its entries on queues and in open transactions; what it is counted for beyond that is
its surplus.  Every operation leaves the surplus of every message as it was, and keeps the registry's invariant
(`Upholds`).  One that fails has not even moved an entry (`Untouched`).
-/
namespace MessageBroker

/-- What a transaction holds back, until it is resolved. -/
def LocalTransaction.withheld (t : LocalTransaction) : List QueueEntry :=
  if t.resolved then [] else t.pending.map (·.entry)

namespace Registry.Consistent

variable {r : Registry}

/-- What is on a queue is no concern of the invariant. -/
theorem mapQueue (h : r.Consistent) (d : DestinationId) (f : Queue → Queue) :
    (r.modify d (·.mapQueue f)).Consistent := by
  have hsame : ∀ x : Destination, Alike x (x.mapQueue f) ∧ (x.mapQueue f).bindings = x.bindings ∧
      (x.mapQueue f).fallback = x.fallback := fun x => by
    obtain ⟨_, _, _, _, _, body⟩ := x
    cases body <;> exact ⟨⟨rfl, rfl, rfl, rfl⟩, rfl, rfl⟩
  cases hx : r.get? d with
  | none =>
    unfold Registry.modify
    rw [List.modify_eq_self (List.getElem?_eq_none_iff.1 hx)]
    exact h
  | some x =>
    obtain ⟨alike, bindings, fallback⟩ := hsame x
    exact h.modify hx alike (fun b hb => .inl (by rwa [bindings] at hb)) fun a ha => .inl (by rwa [fallback] at ha)

theorem links (h : r.Consistent) {d : DestinationId} {x : Destination} (hx : r.get? d = some x)
    (links : List PublishingLink) : (r.modify d fun _ => { x with links }).Consistent :=
  h.modify hx ⟨rfl, rfl, rfl, rfl⟩ (fun _ hb => .inl hb) fun _ ha => .inl ha

theorem dynamicNodes (h : r.Consistent) (nodes : List DestinationId) :
    ({ r with dynamicNodes := nodes } : Registry).Consistent :=
  h.of_map (fun _ x => x) rfl (fun _ => rfl) rfl (fun _ => Option.map_id'.symm) (fun _ x _ => .refl x)
    (fun _ _ _ _ hb => .inl hb) fun _ _ _ _ ha => .inl ha

end Registry.Consistent

namespace Broker

open Registry

/-- The entries of a message that open transactions hold back. -/
def withheld (b : Broker) (m : MessageId) : Nat := copiesIn m (b.transactions.flatMap LocalTransaction.withheld)

/-- What a message is counted for beyond its entries on queues and in open transactions. -/
def surplus (b : Broker) (m : MessageId) : Int := b.references.count m - (b.registry.copies m + b.withheld m : Nat)

/-- **An operation keeps the registry's invariant, and the surplus of every message.** -/
structure Upholds (b b' : Broker) : Prop where
  consistent : b.registry.Consistent → b'.registry.Consistent
  surplus : ∀ m, b'.surplus m = b.surplus m

/-- **An operation moves no entry**, and leaves every count as it was. -/
structure Untouched (b b' : Broker) : Prop where
  registry : b'.registry = b.registry
  count : ∀ m, b'.references.count m = b.references.count m
  withheld : ∀ m, b'.withheld m = b.withheld m

variable {b b' b'' : Broker} {m : MessageId}

theorem Upholds.refl (b : Broker) : Upholds b b := ⟨id, fun _ => rfl⟩

theorem Upholds.trans (h : Upholds b b') (h' : Upholds b' b'') : Upholds b b'' :=
  ⟨fun hc => h'.consistent (h.consistent hc), fun m => (h'.surplus m).trans (h.surplus m)⟩

theorem Untouched.refl (b : Broker) : Untouched b b := ⟨rfl, fun _ => rfl, fun _ => rfl⟩

theorem Untouched.trans (h : Untouched b b') (h' : Untouched b' b'') : Untouched b b'' :=
  ⟨h'.registry.trans h.registry, fun m => (h'.count m).trans (h.count m), fun m => (h'.withheld m).trans (h.withheld m)⟩

theorem Untouched.upholds (h : Untouched b b') : Upholds b b' := by
  refine ⟨fun hc => by rwa [h.registry], fun m => ?_⟩
  unfold Broker.surplus
  rw [h.registry, h.count, h.withheld]

theorem surplus_acquire (b : Broker) (m' : MessageId) :
    (b.acquire m').surplus m = b.surplus m + if m = m' then 1 else 0 := by
  have h := b.references.count_acquire m' m
  unfold Broker.surplus withheld
  simp only [acquire, h]
  omega

theorem surplus_release (b : Broker) (m' : MessageId) :
    (b.release m').surplus m = b.surplus m - if m = m' then 1 else 0 := by
  have h := b.references.count_release m' m
  unfold Broker.surplus withheld
  simp only [release, h]
  omega

theorem surplus_releaseEntries (b : Broker) (es : List QueueEntry) :
    (b.releaseEntries es).surplus m = b.surplus m - copiesIn m es := by
  have h := b.references.count_releaseAll (es.map (·.message.id)) m
  unfold Broker.surplus withheld
  simp only [releaseEntries, h, count_map_id]
  omega

/-! ## Administration and links -/

theorem Administered.upholds (h : Administered b b') : Upholds b b' := by
  cases h with
  | refused ns => exact ⟨id, fun _ => rfl⟩
  | granted granted copies ns =>
    refine ⟨fun hc => granted.consistent hc, fun m => ?_⟩
    have hm := copies m
    unfold Broker.surplus withheld
    simp only [noteAll, hm]
  | deleted granted es copies ns =>
    refine ⟨fun hc => granted.consistent hc, fun m => ?_⟩
    have hm := copies m
    refine (surplus_releaseEntries _ es).trans ?_
    unfold Broker.surplus withheld
    simp only
    omega

/-- **Administration and what is done with links uphold everything.** -/
theorem linkSteps_upholds : LinkSteps Upholds where
  refl := .refl
  trans := .trans
  administered := Administered.upholds
  modifyLink := fun _ _ _ _ _ => ⟨id, fun _ => rfl⟩
  receivers := fun _ _ => ⟨id, fun _ => rfl⟩
  dynamicNodes := fun _ nodes => ⟨fun hc => hc.dynamicNodes nodes, fun _ => rfl⟩
  links := fun b d x links hx => by
    refine ⟨fun hc => hc.links hx links, fun m => ?_⟩
    have h : (b.registry.modify d fun _ => { x with links }).copies m = b.registry.copies m :=
      copies_modify_of_entries fun y hy => by
        rw [hx] at hy
        cases hy
        rfl
    unfold Broker.surplus withheld
    simp only [h]

theorem upholds_note (b : Broker) (n : Notice) : Upholds b (b.note n) := ⟨id, fun _ => rfl⟩

theorem untouched_note (b : Broker) (n : Notice) : Untouched b (b.note n) := ⟨rfl, fun _ => rfl, fun _ => rfl⟩

theorem untouched_noteAll (b : Broker) (ns : List Notice) : Untouched b (b.noteAll ns) :=
  ⟨rfl, fun _ => rfl, fun _ => rfl⟩

theorem untouched_persist (b : Broker) (records : List StoreRecord) : Untouched b (b.persist records).1 := by
  rw [persist_fst]
  exact ⟨rfl, fun _ => rfl, fun _ => rfl⟩

/-! ## Placing and taking -/

/-- What is on a queue changes the number of entries by what is put there. -/
theorem copies_mapQueue {r : Registry} {q : DestinationId} {x : Destination} {c : Queue} (hx : r.get? q = some x)
    (body : x.body = .queue c) (f : Queue → Queue) : (r.modify q (·.mapQueue f)).copies m + copiesIn m c.entries =
      r.copies m + copiesIn m (f c).entries := by
  have h := copies_modify (m := m) hx (·.mapQueue f)
  simpa only [Destination.mapQueue, Destination.entries, body] using h

theorem upholds_place {q : DestinationId} (hq : b.registry.HasQueue q) (entry : QueueEntry) :
    Upholds b (b.place q entry) := by
  unfold place
  split
  · exact .refl b
  · obtain ⟨x, hx, hk⟩ := hq
    obtain ⟨c, body⟩ : ∃ c, x.body = .queue c := by
      unfold Destination.kind at hk
      split at hk
      · exact ⟨_, ‹_›⟩
      · cases hk
    refine ⟨fun hc => hc.mapQueue q _, fun m => ?_⟩
    have h := copies_mapQueue (m := m) hx body fun c => { c with entries := c.entries ++ [entry] }
    rw [copiesIn_append, copiesIn_singleton] at h
    rw [surplus_acquire]
    unfold Broker.surplus withheld
    by_cases hm : m = entry.message.id
    · rw [if_pos hm] at h ⊢
      simp only
      omega
    · rw [if_neg hm] at h ⊢
      simp only
      omega

theorem upholds_placeAll : ∀ (ps : List PendingEnqueue) (b : Broker), (∀ p ∈ ps, b.registry.HasQueue p.queue) →
    Upholds b (ps.foldl (fun b p => b.place p.queue p.entry) b)
  | [], b, _ => .refl b
  | p :: ps, b, h => by
    have hp := h p List.mem_cons_self
    exact (upholds_place hp p.entry).trans
      (upholds_placeAll ps _ fun p' hp' => (does_place hp p.entry).hasQueue (h p' (List.mem_cons_of_mem _ hp')))

/-- Placing what was held back releases it where it was held. -/
theorem surplus_placeHeld : ∀ (ps : List PendingEnqueue) (b : Broker), (∀ p ∈ ps, b.registry.HasQueue p.queue) →
    (b.registry.Consistent → (b.placeHeld ps).registry.Consistent) ∧
      ∀ m, (b.placeHeld ps).surplus m = b.surplus m - copiesIn m (ps.map (·.entry))
  | [], b, _ => ⟨id, fun m => by simp [placeHeld, copiesIn]⟩
  | p :: ps, b, h => by
    have hp := h p List.mem_cons_self
    have h1 := upholds_place hp p.entry
    have hd := (does_place hp p.entry).aside (aside_release _ p.entry.message.id)
    obtain ⟨hc, hs⟩ := surplus_placeHeld ps ((b.place p.queue p.entry).release p.entry.message.id)
      fun p' hp' => hd.hasQueue (h p' (List.mem_cons_of_mem _ hp'))
    refine ⟨fun h0 => hc (h1.consistent h0), fun m => ?_⟩
    have hm := hs m
    rw [surplus_release, h1.surplus] at hm
    have hfold : b.placeHeld (p :: ps) = ((b.place p.queue p.entry).release p.entry.message.id).placeHeld ps := rfl
    rw [hfold, hm, List.map_cons, copiesIn_cons]
    split <;> omega

/-- **Who takes an entry off a queue holds its message.** -/
theorem surplus_pop (b : Broker) (q : DestinationId) : (b.registry.Consistent → (b.pop q).1.registry.Consistent) ∧
    ∀ m, (b.pop q).1.surplus m = b.surplus m + copiesIn m (b.pop q).2.toList := by
  unfold pop
  split
  · rename_i entry rest heq
    obtain ⟨x, hx, hes⟩ := Option.map_eq_some_iff.1 heq
    obtain ⟨c, body⟩ : ∃ c, x.body = .queue c := by
      unfold Destination.entries at hes
      split at hes
      · exact ⟨_, ‹_›⟩
      · cases hes
    simp only [Destination.entries, body] at hes
    refine ⟨fun hc => hc.mapQueue q _, fun m => ?_⟩
    have h := copies_mapQueue (m := m) hx body fun c => { c with entries := rest }
    rw [hes, ← List.singleton_append, copiesIn_append] at h
    unfold Broker.surplus withheld
    simp only [Option.toList_some] at h ⊢
    omega
  · exact ⟨id, fun m => by simp [copiesIn]⟩

/-! ## Transactions -/

theorem withheld_modifyTransaction {id : TransactionId} {t : LocalTransaction} (ht : b.transaction? id = some t)
    (f : LocalTransaction → LocalTransaction) :
    (b.modifyTransaction id f).withheld m + copiesIn m t.withheld = b.withheld m + copiesIn m (f t).withheld := by
  unfold transaction? at ht
  split at ht
  · cases ht
  · rename_i hid
    unfold modifyTransaction withheld
    rw [if_neg hid]
    exact copiesIn_flatMap_modify m LocalTransaction.withheld f ht

/-- A change of a transaction that leaves what it holds back. -/
theorem untouched_modifyTransaction (id : TransactionId) {f : LocalTransaction → LocalTransaction}
    (hf : ∀ t, (f t).withheld = t.withheld) : Untouched b (b.modifyTransaction id f) := by
  unfold modifyTransaction
  split
  · exact .refl b
  · exact ⟨rfl, fun _ => rfl, fun m => copiesIn_flatMap_modify_of_eq m fun t _ => hf t⟩

theorem surplus_modifyTransaction {id : TransactionId} {t : LocalTransaction} (ht : b.transaction? id = some t)
    (f : LocalTransaction → LocalTransaction) : (b.modifyTransaction id f).surplus m =
      b.surplus m + copiesIn m t.withheld - copiesIn m (f t).withheld := by
  have h := withheld_modifyTransaction (m := m) ht f
  have hsame : (b.modifyTransaction id f).registry = b.registry ∧
      (b.modifyTransaction id f).references = b.references := by
    unfold modifyTransaction
    split <;> exact ⟨rfl, rfl⟩
  unfold Broker.surplus
  rw [hsame.1, hsame.2]
  omega

theorem registry_modifyTransaction (b : Broker) (id : TransactionId) (f : LocalTransaction → LocalTransaction) :
    (b.modifyTransaction id f).registry = b.registry := by
  unfold modifyTransaction
  split <;> rfl

theorem active?_eq_some {id : TransactionId} {t : LocalTransaction} :
    b.active? id = some t ↔ b.transaction? id = some t ∧ t.resolved = false := by
  simp [active?, Option.filter_eq_some_iff]

theorem withheld_of_open {t : LocalTransaction} (h : t.resolved = false) : t.withheld = t.pending.map (·.entry) := by
  unfold LocalTransaction.withheld
  rw [h]
  rfl

theorem upholds_hold {id : TransactionId} {t : LocalTransaction} (ht : b.active? id = some t) (q : DestinationId)
    (entry : QueueEntry) : Upholds b (b.hold id q entry) := by
  obtain ⟨ht, hopen⟩ := active?_eq_some.1 ht
  unfold hold
  refine ⟨fun hc => ?_, fun m => ?_⟩
  · simp only [acquire, registry_modifyTransaction]
    exact hc
  · rw [surplus_acquire, surplus_modifyTransaction ht, withheld_of_open hopen,
      withheld_of_open (t := { t with pending := t.pending ++ [⟨q, entry⟩] }) hopen, List.map_append, copiesIn_append,
      List.map_singleton, copiesIn_singleton]
    split <;> omega

theorem upholds_holdAll {id : TransactionId} : ∀ (ps : List PendingEnqueue) (b : Broker),
    (b.account id).isSome = true → Upholds b (ps.foldl (fun b p => b.hold id p.queue p.entry) b)
  | [], b, _ => .refl b
  | p :: ps, b, h => by
    have ha := h
    unfold account at ha
    rw [Option.isSome_map] at ha
    obtain ⟨t, ht⟩ := Option.isSome_iff_exists.1 ha
    exact (upholds_hold ht p.queue p.entry).trans (upholds_holdAll ps _ ((does_hold b id p.queue p.entry).isOpen h))

theorem untouched_doom (b : Broker) (t : Transaction) : Untouched b (b.doom t) := by
  unfold doom
  split
  · exact .refl b
  · simp only
    split
    · exact .refl b
    · refine .trans ?_ (untouched_note _ _)
      exact untouched_modifyTransaction _ fun _ => rfl

/-! ## Dispositions -/

theorem upholds_sendDisposition (b : Broker) (l : LinkId) (d : Disposition) : Upholds b (b.sendDisposition l d) := by
  unfold sendDisposition
  split
  · exact .refl b
  · unfold dispatch
    split <;> exact ⟨id, fun _ => rfl⟩

theorem upholds_fire : ∀ (as : List SettlementAction) (b : Broker), Upholds b (b.fire as)
  | [], b => .refl b
  | a :: as, b => (upholds_sendDisposition b a.link a.disposition).trans (upholds_fire as _)

theorem upholds_owe (b : Broker) (id : TransactionId) (a : SettlementAction) : Upholds b (b.owe id a) := by
  unfold owe
  split
  · exact upholds_fire [a] b
  · refine Untouched.upholds ?_
    exact untouched_modifyTransaction id fun _ => rfl

/-! ## The end of a transaction -/

/-- **Closing a transaction leaves what it held back to be released.** -/
theorem surplus_close {id : TransactionId} {t : LocalTransaction} (ht : b.active? id = some t) :
    (b.close id).surplus m = b.surplus m + copiesIn m (t.pending.map (·.entry)) := by
  obtain ⟨ht, hopen⟩ := active?_eq_some.1 ht
  unfold close
  rw [surplus_modifyTransaction ht, withheld_of_open hopen]
  simp [LocalTransaction.withheld, copiesIn]

/-- A transaction that is closed, and then releases what it held back. -/
theorem Upholds.of_close {id : TransactionId} {t : LocalTransaction} (ht : b.active? id = some t)
    (hc : (b.close id).registry.Consistent → b'.registry.Consistent)
    (hs : ∀ m, b'.surplus m = (b.close id).surplus m - copiesIn m (t.pending.map (·.entry))) : Upholds b b' := by
  refine ⟨fun h => hc (by unfold close; rwa [registry_modifyTransaction]), fun m => ?_⟩
  rw [hs, surplus_close ht]
  omega

theorem upholds_discard {id : TransactionId} {t : LocalTransaction} (ht : b.active? id = some t)
    (h : Untouched (b.close id) b') : Upholds b (b'.discard t.pending) := by
  refine .of_close ht (fun hc => h.upholds.consistent hc) fun m => ?_
  unfold discard
  rw [surplus_releaseEntries, h.upholds.surplus]

theorem upholds_commit (b : Broker) (id : TransactionId)
    (hq : ∀ t, b.active? id = some t → ∀ p ∈ t.pending, b.registry.HasQueue p.queue) :
    Upholds b (b.commit id).1 := by
  unfold commit
  split
  · exact .refl b
  rename_i t ht
  simp only
  split
  · exact ((upholds_discard ht (.refl _)).trans (upholds_fire _ _)).trans (upholds_note _ _)
  · have hp := untouched_persist (b.close id)
      (t.pending.filterMap fun p => (b.close id).recordFor p.queue p.entry.message)
    split
    · rename_i heq
      rw [heq] at hp
      exact ((upholds_discard ht hp).trans (upholds_fire _ _)).trans (upholds_note _ _)
    · rename_i b1 heq
      rw [heq] at hp
      have hreg : b1.registry = b.registry := hp.registry.trans (registry_modifyTransaction b id _)
      obtain ⟨hc, hs⟩ := surplus_placeHeld t.pending b1 fun p hp' => by rw [hreg]; exact hq t ht p hp'
      have h1 : Upholds b (b1.placeHeld t.pending) := by
        refine .of_close ht (fun h0 => hc (hp.upholds.consistent h0)) fun m => ?_
        rw [hs, hp.upholds.surplus]
      exact (h1.trans (upholds_fire _ _)).trans (upholds_note _ _)

theorem upholds_rollback (b : Broker) (id : TransactionId) : Upholds b (b.rollback id).1 := by
  unfold rollback
  split
  · exact .refl b
  · rename_i t ht
    exact ((upholds_discard ht (.refl _)).trans (upholds_fire _ _)).trans (upholds_note _ _)

theorem upholds_begin (b : Broker) : Upholds b b.begin.1 := by
  refine ⟨id, fun m => ?_⟩
  have h : b.begin.1.withheld m = b.withheld m := by
    simp [begin, note, withheld, LocalTransaction.withheld, LocalTransaction.new]
  unfold Broker.surplus
  rw [h]
  rfl

end Broker
end MessageBroker
