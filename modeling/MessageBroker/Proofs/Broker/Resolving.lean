import MessageBroker.Proofs.Broker.Publishing
/-!
# What resolving does

A disposition is sent, or owed until its transaction ends.  However a transaction is resolved, it is closed and all
that it owes is sent; what it held back is placed if its commit is granted, and dropped otherwise
(`commit_resolves`, `rollback_resolves`).
-/
namespace MessageBroker
namespace Broker

open Registry

variable {b b' : Broker} {ps : List PendingEnqueue} {as : List SettlementAction}

/-! ## Dispositions -/

theorem does_sendDisposition (b : Broker) (l : LinkId) (d : Disposition) :
    Does b (b.sendDisposition l d) .autoCommit [] [⟨l, d⟩] := by
  unfold sendDisposition
  cases hl : b.link? l with
  | none =>
    have hletters : b.letters [⟨l, d⟩] = [] := by simp [letters, heard, ear?, hl]
    have h := Aside.refl b .autoCommit
    refine ⟨?_, fun i => ?_, h.ears⟩
    · rw [hletters]
      exact h.yields
    · simp [Transaction.later]
  | some link =>
    simp only
    have h1 : Aside b (b.modifyLink l fun x => { x with unsettled := settleOrRecord x.unsettled d }) :=
      aside_modifyLink b l (fun _ => rfl) fun _ _ hr => .inl hr
    have h2 := h1.trans (aside_note _
      (.dispositionSent link.name d.tag.hex (DeliveryState.displayOf d.state) d.settled))
    refine h2.then ?_
    have hheard : b.ear? l = some link.receiverOpen := by simp [ear?, hl]
    rw [← (h2 .autoCommit).ears] at hheard
    generalize Broker.note (b.modifyLink l _) _ = b1 at hheard ⊢
    unfold dispatch
    cases hopen : link.receiverOpen with
    | true =>
      rw [hopen] at hheard
      refine ⟨.of_links (.refl _) ?_ rfl (Nat.le_refl _), fun i => ?_, fun _ => rfl⟩
      · simp [letters, heard, hheard, Transaction.now]
      · have haccount : Broker.account { b1 with outbox := b1.outbox ++ [(l, d)] } i = b1.account i :=
          account_congr rfl i
        simp [Transaction.later, haccount]
    | false =>
      rw [hopen] at hheard
      have h3 := aside_note b1 (.dispositionDropped d.tag.hex) .autoCommit
      refine ⟨?_, fun i => ?_, h3.ears⟩
      · have hletters : b1.letters [⟨l, d⟩] = [] := by simp [letters, heard, hheard]
        rw [hletters]
        simpa [letters] using h3.yields
      · simpa [Transaction.later] using h3.account i

theorem does_fire : ∀ (as : List SettlementAction) (b : Broker), Does b (b.fire as) .autoCommit [] as
  | [], b => Aside.refl b _
  | a :: as, b => (does_sendDisposition b a.link a.disposition).trans (does_fire as _)

/-- What is owed to an open transaction is sent no sooner than it ends. -/
theorem does_owe {id : TransactionId} (h : (b.account id).isSome = true) (a : SettlementAction) :
    Does b (b.owe id a) (.inside id) [] [a] := by
  unfold account at h
  rw [Option.isSome_map] at h
  obtain ⟨t, ht⟩ := Option.isSome_iff_exists.1 h
  unfold owe
  rw [ht]
  exact does_modifyTransaction id (fun _ => rfl) (fun _ => (List.append_nil _).symm) fun _ => rfl

/-! ## The end of a transaction -/

/-- **A transaction is resolved**: these entries are placed and these dispositions sent. -/
structure Resolves (b b' : Broker) (id : TransactionId) (ps : List PendingEnqueue) (as : List SettlementAction) :
    Prop where
  yields : Yields b b' [] ps (b.letters as)
  account : ∀ i, b'.account i = if i = id then none else b.account i

theorem active?_close (b : Broker) (id i : TransactionId) :
    (b.close id).active? i = if i = id then none else b.active? i := by
  unfold close active?
  rw [transaction?_modifyTransaction]
  by_cases h : i = id
  · subst h
    rw [if_pos rfl, if_pos rfl]
    cases b.transaction? i <;> rfl
  · rw [if_neg h, if_neg (Ne.symm h)]
    cases b.transaction? i <;> rfl

/-- What is done once a transaction is closed resolves it. -/
theorem Does.resolves {id : TransactionId} (h : Does (b.close id) b' .autoCommit ps as) : Resolves b b' id ps as := by
  have hclose : Yields b (b.close id) [] [] [] := yields_modifyTransaction b id _
  refine ⟨?_, fun i => ?_⟩
  · rw [← letters_congr (b := b) (ear?_modifyTransaction b id _)]
    exact hclose.trans h.yields
  · rw [h.account]
    unfold Broker.account
    rw [active?_close]
    split
    · rfl
    · cases b.active? i <;> simp [Transaction.later]

theorem account_eq_none {id : TransactionId} : b.account id = none ↔ b.active? id = none := by
  unfold account
  rw [Option.map_eq_none_iff]

/-- **A transaction that is not open cannot be resolved**, and nothing comes of trying. -/
theorem commit_of_not_open {id : TransactionId} (h : b.account id = none) :
    b.commit id = (b, .error (.notFound id)) := by
  unfold commit
  rw [account_eq_none.1 h]

theorem rollback_of_not_open {id : TransactionId} (h : b.account id = none) :
    b.rollback id = (b, .error (.notFound id)) := by
  unfold rollback
  rw [account_eq_none.1 h]

theorem aside_discard (b : Broker) (ps : List PendingEnqueue) : Aside b (b.discard ps) :=
  .of_flow (.refl _) rfl rfl rfl

/-- **A commit resolves an open transaction**, in whichever way it ends; it places something only if it is granted. -/
theorem commit_resolves {id : TransactionId} (h : b.account id = some (ps, as))
    (hq : ∀ p ∈ ps, b.registry.HasQueue p.queue) : (∀ j, (b.commit id).2 ≠ .error (.notFound j)) ∧
      Resolves b (b.commit id).1 id (match (b.commit id).2 with | .ok _ => ps | .error _ => []) as := by
  obtain ⟨t, ht, hacc⟩ := Option.map_eq_some_iff.1 h
  cases hacc
  have hclose : Yields b (b.close id) [] [] [] := yields_modifyTransaction b id _
  unfold commit
  rw [ht]
  simp only
  split
  · refine ⟨by simp, ?_⟩
    exact Does.resolves (((aside_discard _ t.pending).then (does_fire t.actions _)).aside (aside_note _ _))
  · have hp := aside_persist (b.close id) (t.pending.filterMap fun p => (b.close id).recordFor p.queue p.entry.message)
    split
    · rename_i b1 e heq
      rw [heq] at hp
      refine ⟨by simp, ?_⟩
      have h1 := (hp.trans (aside_discard b1 t.pending)).then (does_fire t.actions _)
      exact Does.resolves (h1.aside (aside_note _ _))
    · rename_i b1 heq
      rw [heq] at hp
      refine ⟨by simp, ?_⟩
      have h1 : Does b1 (b1.placeHeld t.pending) .autoCommit t.pending [] := does_placeHeld t.pending b1 fun p hp' =>
        (hp .autoCommit).hasQueue (hclose.flow.hasQueue (hq p hp'))
      have h2 := (h1.trans (does_fire t.actions _)).aside (aside_note _ (.committed id t.pending.length))
      rw [List.append_nil] at h2
      exact Does.resolves (hp.then h2)

theorem rollback_resolves {id : TransactionId} (h : b.account id = some (ps, as)) :
    (b.rollback id).2 = .ok () ∧ Resolves b (b.rollback id).1 id [] as := by
  obtain ⟨t, ht, hacc⟩ := Option.map_eq_some_iff.1 h
  cases hacc
  unfold rollback
  rw [ht]
  exact ⟨rfl, Does.resolves (((aside_discard _ t.pending).then (does_fire t.actions _)).aside (aside_note _ _))⟩

/-! ## The beginning of a transaction -/

/-- A transaction is begun empty, and all others are left alone. -/
theorem active?_begin (b : Broker) (i : TransactionId) :
    b.begin.1.active? i = if i = b.begin.2 then some .new else b.active? i := by
  unfold begin active? transaction?
  simp only [note]
  by_cases h : i = b.transactions.length + 1
  · subst h
    rw [if_pos rfl, if_neg (Nat.succ_ne_zero _), Nat.add_sub_cancel, List.getElem?_concat_length]
    rfl
  · rw [if_neg h]
    by_cases hi : i = 0
    · rw [if_pos hi, if_pos hi]
    · have hpos := Nat.pos_of_ne_zero hi
      rw [if_neg hi, if_neg hi]
      rcases Nat.lt_or_ge (i - 1) b.transactions.length with hlt | hge
      · rw [List.getElem?_append_left hlt]
      · have hne : i - 1 ≠ b.transactions.length := fun he => h (by rw [← he, Nat.sub_add_cancel hpos])
        rw [List.getElem?_eq_none hge, List.getElem?_eq_none]
        rw [List.length_append, List.length_singleton]
        exact Nat.lt_of_le_of_ne hge (Ne.symm hne)

theorem account_begin (b : Broker) (i : TransactionId) :
    b.begin.1.account i = if i = b.begin.2 then some ([], []) else b.account i := by
  unfold account
  rw [active?_begin]
  split <;> rfl

/-- Only transactions that were begun are open. -/
theorem account_eq_none_of_lt {i : TransactionId} (h : b.transactions.length < i) : b.account i = none := by
  rw [account_eq_none]
  unfold active? transaction?
  rw [if_neg (Nat.ne_of_gt (Nat.lt_of_le_of_lt (Nat.zero_le _) h)),
    List.getElem?_eq_none (Nat.le_sub_one_of_lt h)]
  rfl

end Broker
end MessageBroker
