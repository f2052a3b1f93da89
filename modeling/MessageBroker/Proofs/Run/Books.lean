import MessageBroker.Proofs.Run.Effects
/-!
# The books of a run

What a broker holds back and owes can be read off the history: an open transaction has just what was published and
answered in it since it was begun, in that order, and a transaction is open from when it is begun until it is first
resolved (`Books`).  Every run keeps these books (`books_of_run`).
-/
namespace MessageBroker

/-- What was published in a transaction for its end. -/
def buffered (past : List Step) (i : TransactionId) : List PendingEnqueue := past.flatMap (·.buffers i)

/-- The dispositions that are owed to the end of a transaction. -/
def owed (past : List Step) (i : TransactionId) : List SettlementAction := past.flatMap (·.owes i)

/-- A transaction was begun and has not been resolved. -/
def Unresolved (past : List Step) (i : TransactionId) : Prop :=
  (∃ s ∈ past, s.begun? = some i) ∧ ∀ s ∈ past, s.resolved? ≠ some i

/-- What a step places after a history: what it publishes outside transactions, and if it is a commit that is granted
what was published for it. -/
def placedBy (past : List Step) (s : Step) : List PendingEnqueue :=
  s.publishes ++ (s.committed?.map (buffered past)).getD []

/-- What is placed in a history that goes on from another one. -/
def placements : List Step → List Step → List PendingEnqueue
  | _, [] => []
  | past, s :: rest => placedBy past s ++ placements (past ++ [s]) rest

theorem placements_append (xs : List Step) : ∀ (past ys : List Step),
    placements past (xs ++ ys) = placements past xs ++ placements (past ++ xs) ys := by
  induction xs with
  | nil => exact fun past ys => by rw [List.append_nil]; rfl
  | cons s xs ih =>
    intro past ys
    rw [List.cons_append, placements, placements, ih, List.append_assoc, List.append_assoc, List.singleton_append]

theorem buffered_snoc (past : List Step) (s : Step) (i : TransactionId) :
    buffered (past ++ [s]) i = buffered past i ++ s.buffers i := by
  unfold buffered
  rw [List.flatMap_append, List.flatMap_singleton]

theorem owed_snoc (past : List Step) (s : Step) (i : TransactionId) :
    owed (past ++ [s]) i = owed past i ++ s.owes i := by
  unfold owed
  rw [List.flatMap_append, List.flatMap_singleton]

theorem placements_snoc (past : List Step) (s : Step) :
    placements [] (past ++ [s]) = placements [] past ++ placedBy past s := by
  rw [placements_append, List.nil_append, placements, placements, List.append_nil]

/-- **The broker's transactions are what the history makes them**, and what flowed through the queues is what the
history says. -/
structure Books (start : Registry) (past : List Step) (w : World) : Prop where
  plain : w.broker.Plain
  results : ∀ r ∈ w.results, w.broker.registry.Aimed r.placements
  held : ∀ i, ∀ p ∈ buffered past i, w.broker.registry.HasQueue p.queue
  account : ∀ i c, w.broker.account i = some c → c = (buffered past i, owed past i)
  isOpen : ∀ i, (w.broker.account i).isSome = true ↔ Unresolved past i
  /-- Nothing has happened in a transaction that was not begun. -/
  fresh : ∀ i, w.broker.transactions.length < i → buffered past i = [] ∧ owed past i = [] ∧
    ∀ s ∈ past, s.begun? ≠ some i ∧ s.resolved? ≠ some i
  flow : Registry.Flow start w.broker.registry (past.flatMap Step.taken) (placements [] past)

namespace Books

variable {start : Registry} {past : List Step} {w : World}

theorem account_of_unresolved (h : Books start past w) {i : TransactionId} (hi : Unresolved past i) :
    w.broker.account i = some (buffered past i, owed past i) := by
  obtain ⟨c, hc⟩ := Option.isSome_iff_exists.1 ((h.isOpen i).2 hi)
  rw [hc, h.account i c hc]

theorem account_of_not_unresolved (h : Books start past w) {i : TransactionId} (hi : ¬ Unresolved past i) :
    w.broker.account i = none :=
  Option.not_isSome_iff_eq_none.1 fun hs => hi ((h.isOpen i).1 hs)

theorem effect (h : Books start past w) (e : Event) : (w.take e).Effect :=
  w.take_effect h.plain h.results (fun i c hc p hp => h.held i p (by rw [h.account i c hc] at hp; exact hp)) e

/-- What a step finds in a transaction that it resolves is what the history put there. -/
theorem account_of_resolved (h : Books start past w) {e : Event} {i : TransactionId}
    (hi : (w.take e).resolved? = some i) :
    (w.take e).before.broker.account i = some (buffered past i, owed past i) := by
  obtain ⟨c, hc⟩ := Option.isSome_iff_exists.1 ((h.effect e).isOpen i (.inr (.inr hi)))
  rw [hc, h.account i c hc]

theorem releases_eq (h : Books start past w) (e : Event) :
    (w.take e).releases = ((w.take e).committed?.map (buffered past)).getD [] := by
  unfold Step.releases
  cases hi : (w.take e).committed? with
  | none => rfl
  | some i => simp [h.account_of_resolved (Step.resolved?_of_committed? hi)]

theorem redeems_eq (h : Books start past w) (e : Event) :
    (w.take e).redeems = ((w.take e).resolved?.map (owed past)).getD [] := by
  unfold Step.redeems
  cases hi : (w.take e).resolved? with
  | none => rfl
  | some i => simp [h.account_of_resolved hi]

theorem buffers_hasQueue (h : Books start past w) (e : Event) (i : TransactionId) :
    ∀ p ∈ (w.take e).buffers i, w.broker.registry.HasQueue p.queue := by
  intro p hp
  unfold Step.buffers at hp
  cases hpub : (w.take e).publication? with
  | none => simp [hpub] at hp
  | some pub =>
    have haimed := ((h.effect e).aimed pub hpub).made p
    rw [hpub, Option.map_some, Option.getD_some, Transaction.later] at hp
    split at hp
    · exact haimed hp
    · cases hp

/-- Nothing happens in a transaction that is not open. -/
theorem quiet (h : Books start past w) (e : Event) {i : TransactionId} (hi : w.broker.account i = none) :
    (w.take e).buffers i = [] ∧ (w.take e).owes i = [] ∧ (w.take e).resolved? ≠ some i := by
  have hnot : ¬ ((w.take e).before.broker.account i).isSome = true := fun hs => by
    have hi' : (w.take e).before.broker.account i = none := hi
    rw [hi'] at hs
    cases hs
  refine ⟨Decidable.byContradiction fun hb => hnot ((h.effect e).isOpen i (.inl ?_)),
    Decidable.byContradiction fun ho => hnot ((h.effect e).isOpen i (.inr (.inl ?_))),
    fun hr => hnot ((h.effect e).isOpen i (.inr (.inr hr)))⟩
  · exact hb
  · exact ho

theorem fresh_of_begun (h : Books start past w) {e : Event} {i : TransactionId} (hi : (w.take e).begun? = some i) :
    w.broker.transactions.length < i := by
  obtain ⟨rfl, -⟩ := (h.effect e).begun i hi
  exact Nat.lt_succ_self _

/-- What is on the books of a transaction stays empty as long as it is not begun. -/
theorem fresh_snoc (h : Books start past w) (e : Event) {i : TransactionId} (hi : w.broker.transactions.length < i) :
    buffered (past ++ [w.take e]) i = [] ∧ owed (past ++ [w.take e]) i = [] := by
  obtain ⟨hbuf, howed, -⟩ := h.fresh i hi
  obtain ⟨hb, ho, -⟩ := h.quiet e (Broker.account_eq_none_of_lt hi)
  rw [buffered_snoc, owed_snoc, hbuf, howed, hb, ho]
  exact ⟨rfl, rfl⟩

theorem account_take (h : Books start past w) (e : Event) {i : TransactionId}
    {c : List PendingEnqueue × List SettlementAction} (hc : (w.take e).after.broker.account i = some c) :
    c = (buffered (past ++ [w.take e]) i, owed (past ++ [w.take e]) i) := by
  rw [(h.effect e).account] at hc
  split at hc
  · rename_i hb
    obtain ⟨hbuf, howed⟩ := h.fresh_snoc e (h.fresh_of_begun hb)
    cases hc
    rw [hbuf, howed]
  · split at hc
    · cases hc
    · obtain ⟨c', hc', rfl⟩ := Option.map_eq_some_iff.1 hc
      rw [h.account i c' hc', buffered_snoc, owed_snoc]

theorem isOpen_take (h : Books start past w) (e : Event) (i : TransactionId) :
    ((w.take e).after.broker.account i).isSome = true ↔ Unresolved (past ++ [w.take e]) i := by
  rw [(h.effect e).account]
  unfold Unresolved
  rw [List.forall_mem_append, List.forall_mem_singleton]
  by_cases hb : (w.take e).begun? = some i
  · rw [if_pos hb]
    have hlt := h.fresh_of_begun hb
    refine ⟨fun _ => ⟨⟨_, List.mem_append_right _ (List.mem_singleton_self _), hb⟩, ?_, ?_⟩, fun _ => rfl⟩
    · exact fun s hs => ((h.fresh i hlt).2.2 s hs).2
    · exact (h.quiet e (Broker.account_eq_none_of_lt hlt)).2.2
  · rw [if_neg hb]
    have hex : (∃ s ∈ past ++ [w.take e], s.begun? = some i) ↔ ∃ s ∈ past, s.begun? = some i := by
      simp [or_and_right, exists_or, hb]
    rw [hex]
    by_cases hr : (w.take e).resolved? = some i
    · rw [if_pos hr]
      exact ⟨fun hs => (by cases hs), fun hs => absurd hr hs.2.2⟩
    · rw [if_neg hr, Option.isSome_map]
      exact (h.isOpen i).trans ⟨fun hs => ⟨hs.1, hs.2, hr⟩, fun hs => ⟨hs.1, hs.2.1⟩⟩

/-- **A step keeps the books.** -/
theorem take (h : Books start past w) (e : Event) : Books start (past ++ [w.take e]) (w.take e).after := by
  have heff := h.effect e
  obtain ⟨sent, hy, -⟩ := heff.yields
  refine ⟨hy.plain h.plain, fun r hr => ?_, fun i p hp => ?_, fun i c hc => h.account_take e hc, h.isOpen_take e,
    fun i hi => ?_, ?_⟩
  · rcases heff.results r hr with hr | hr
    · exact hy.flow.keeps_aimed (h.results r hr)
    · exact hy.flow.keeps_aimed hr
  · rw [buffered_snoc, List.mem_append] at hp
    rcases hp with hp | hp
    · exact hy.flow.hasQueue (h.held i p hp)
    · exact hy.flow.hasQueue (h.buffers_hasQueue e i p hp)
  · have hlt : w.broker.transactions.length < i := Nat.lt_of_le_of_lt hy.begun hi
    obtain ⟨hbuf, howed⟩ := h.fresh_snoc e hlt
    rw [List.forall_mem_append, List.forall_mem_singleton]
    refine ⟨hbuf, howed, (h.fresh i hlt).2.2, fun hbeg => ?_, ?_⟩
    · rw [(heff.begun i hbeg).2] at hi
      exact Nat.lt_irrefl i hi
    · exact (h.quiet e (Broker.account_eq_none_of_lt hlt)).2.2
  · rw [List.flatMap_append, List.flatMap_singleton, placements_snoc, placedBy, ← h.releases_eq e]
    exact h.flow.trans hy.flow

theorem new (settings : HostSettings) (store : Store) (principal : Principal) :
    Books (.new settings) [] (.new settings store principal) := by
  have hnone : ∀ i, (World.new settings store principal).broker.account i = none := fun i => by
    rw [Broker.account_eq_none]
    unfold Broker.active? Broker.transaction?
    split <;> rfl
  refine ⟨fun l x r hx => ?_, fun r hr => ?_, fun i p hp => ?_, fun i c hc => ?_, fun i => ?_, fun i _ => ?_, .refl _⟩
  · cases hx
  · cases hr
  · cases hp
  · rw [hnone] at hc
    cases hc
  · rw [hnone]
    exact ⟨fun hs => (by cases hs), fun hs => by obtain ⟨⟨s, hs, -⟩, -⟩ := hs; cases hs⟩
  · exact ⟨rfl, rfl, fun _ hs => by cases hs⟩

end Books

/-- **Every run keeps the books.** -/
theorem books_of_run (settings : HostSettings) (store : Store) (principal : Principal) (es : List Event) :
    Books (.new settings) ((World.new settings store principal).history es)
      ((World.new settings store principal).after es) :=
  World.history_induction (fun _ _ e h => h.take e) es [] _ (.new settings store principal)

end MessageBroker
