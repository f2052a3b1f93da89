import MessageBroker.Proofs.Run
/-!
# What a step does

Each step publishes and answers as its event and its answer say, in no transaction or in one, begins a transaction or
resolves one (`Step.Effect`).  What a step says of itself is read off the world before it, so it can be told of every
step of a history; that it also does just that is `take_effect`.
-/
namespace MessageBroker
namespace Step

/-! ## What a step says of itself -/

/-- What a delivery came to that was processed in this step, and was not resumed. -/
def verdict? (s : Step) : Option Broker.Verdict :=
  match s.event, s.answer with
  | .deliver l d, .delivered (.ok ()) => if d.resume then none else s.before.broker.verdict? l d
  | _, _ => none

/-- A delivery was to be resumed. -/
def resumes (s : Step) : Bool :=
  match s.event with
  | .deliver _ d => d.resume
  | _ => false

/-- What was published successfully in this step, and in which transaction. -/
def publication? (s : Step) : Option (Transaction × List PendingEnqueue) :=
  match s.event, s.answer with
  | .send i t, .sent (.ok _) => s.before.results[i]?.map fun result => (t, result.placements)
  | _, _ => s.verdict?.map fun v => (v.transaction, v.placements)

/-- What was taken off a queue in this step. -/
def taken (s : Step) : List PendingEnqueue :=
  match s.event, s.answer with
  | .pop q, .popped entry => entry.toList.map (⟨q, ·⟩)
  | _, _ => []

def begun? (s : Step) : Option TransactionId :=
  match s.answer with
  | .begun id => some id
  | _ => none

/-- The transaction that was resolved in this step, if it was found. -/
def resolved? (s : Step) : Option TransactionId :=
  match s.event, s.answer with
  | .resolve _ _, .resolved (.error (.notFound _)) => none
  | .resolve _ id, .resolved _ => some id
  | _, _ => none

/-- The transaction whose commit was granted in this step. -/
def committed? (s : Step) : Option TransactionId :=
  match s.event, s.answer with
  | .resolve .commit id, .resolved (.ok ()) => some id
  | _, _ => none

/-- What was published in this step for the end of a transaction. -/
def buffers (s : Step) (i : TransactionId) : List PendingEnqueue :=
  (s.publication?.map fun p => p.1.later i p.2).getD []

/-- The disposition that is owed to the end of a transaction because of this step. -/
def owes (s : Step) (i : TransactionId) : List SettlementAction :=
  (s.verdict?.map fun v => v.transaction.later i [v.action]).getD []

/-- What was published in this step outside transactions. -/
def publishes (s : Step) : List PendingEnqueue := (s.publication?.map fun p => p.1.now p.2).getD []

/-- The disposition that is sent at once because of this step. -/
def answers (s : Step) : List SettlementAction := (s.verdict?.map fun v => v.transaction.now [v.action]).getD []

/-- What is owed because of a step is what its delivery came to. -/
theorem verdict?_of_owes {s : Step} {i : TransactionId} {a : SettlementAction} (h : s.owes i = [a]) :
    ∃ v, s.verdict? = some v ∧ v.transaction = .inside i ∧ v.action = a := by
  unfold owes at h
  cases hv : s.verdict? with
  | none => simp [hv] at h
  | some v =>
    rw [hv, Option.map_some, Option.getD_some, Transaction.later] at h
    split at h
    · rename_i hi
      exact ⟨v, rfl, hi, List.singleton_inj.1 h⟩
    · cases h

/-- A commit that is granted resolves its transaction. -/
theorem resolved?_of_committed? {s : Step} {i : TransactionId} (h : s.committed? = some i) : s.resolved? = some i := by
  unfold committed? at h
  split at h
  · rename_i he ha
    cases h
    simp [resolved?, he, ha]
  · cases h

/-! ## What a step does -/

/-- What an open transaction had held back, if its commit was granted in this step. -/
def releases (s : Step) : List PendingEnqueue := ((s.committed?.bind s.before.broker.account).map Prod.fst).getD []

/-- What an open transaction owed, if it was resolved in this step. -/
def redeems (s : Step) : List SettlementAction := ((s.resolved?.bind s.before.broker.account).map Prod.snd).getD []

/-- **A step does what it says**: it takes, places and sends this, and changes what transactions hold back and owe
accordingly.  Of a delivery that is resumed nothing is said but that it only sends. -/
structure Effect (s : Step) : Prop where
  yields : ∃ sent, Broker.Yields s.before.broker s.after.broker s.taken (s.publishes ++ s.releases) sent ∧
    (s.resumes = false → sent = s.before.broker.letters (s.answers ++ s.redeems))
  account : ∀ i, s.after.broker.account i = if s.begun? = some i then some ([], []) else
    if s.resolved? = some i then none
    else (s.before.broker.account i).map fun c => (c.1 ++ s.buffers i, c.2 ++ s.owes i)
  /-- Transactions are numbered as they are begun. -/
  begun : ∀ i, s.begun? = some i → i = s.before.broker.transactions.length + 1 ∧
    s.after.broker.transactions.length = i
  /-- Only an open transaction has anything held back, or is resolved. -/
  isOpen : ∀ i, s.buffers i ≠ [] ∨ s.owes i ≠ [] ∨ s.resolved? = some i → (s.before.broker.account i).isSome = true
  aimed : ∀ p, s.publication? = some p → s.before.broker.registry.Aimed p.2
  results : ∀ r ∈ s.after.results, r ∈ s.before.results ∨ s.before.broker.registry.Aimed r.placements

/-- Nothing is said to be published, answered, taken, begun or resolved. -/
structure Silent (s : Step) : Prop where
  verdict : s.verdict? = none
  publication : s.publication? = none
  taken : s.taken = []
  begun : s.begun? = none
  resolved : s.resolved? = none
  committed : s.committed? = none

theorem Silent.effect {s : Step} {sent : List (LinkId × Disposition)} (h : s.Silent)
    (yields : Broker.Yields s.before.broker s.after.broker [] [] sent) (hsent : s.resumes = false → sent = [])
    (account : ∀ i, s.after.broker.account i = s.before.broker.account i)
    (results : ∀ r ∈ s.after.results, r ∈ s.before.results ∨ s.before.broker.registry.Aimed r.placements) :
    s.Effect := by
  have hp : s.publishes ++ s.releases = [] := by simp [publishes, releases, h.publication, h.committed]
  have ha : s.answers ++ s.redeems = [] := by simp [answers, redeems, h.verdict, h.resolved]
  refine ⟨⟨sent, ?_, fun hr => ?_⟩, fun i => ?_, fun i hi => ?_, fun i hi => ?_, fun p hp' => ?_, results⟩
  · rw [h.taken, hp]
    exact yields
  · rw [ha, hsent hr]
    rfl
  · simp [account, h.begun, h.resolved, buffers, owes, h.publication, h.verdict]
  · rw [h.begun] at hi
    cases hi
  · simp [buffers, owes, h.publication, h.verdict, h.resolved] at hi
  · rw [h.publication] at hp'
    cases hp'

theorem Silent.of_aside {s : Step} (h : s.Silent) (aside : Broker.Aside s.before.broker s.after.broker)
    (results : s.after.results = s.before.results) : s.Effect := by
  have hd := aside .autoCommit
  have hy : Broker.Yields s.before.broker s.after.broker [] [] [] := hd.yields
  refine h.effect hy (fun _ => rfl) (fun i => ?_) fun r hr => .inl (results ▸ hr)
  rw [hd.account]
  simp

theorem Effect.of_does {s : Step} {t : Transaction} {ps : List PendingEnqueue} {as : List SettlementAction}
    (h : Broker.Does s.before.broker s.after.broker t ps as) (publication : s.publication? = some (t, ps))
    (answers : s.answers = t.now as) (owes : ∀ i, s.owes i = t.later i as)
    (isOpen : ∀ id, t = .inside id → ps ≠ [] ∨ as ≠ [] → (s.before.broker.account id).isSome = true)
    (aimed : s.before.broker.registry.Aimed ps)
    (rest : s.taken = [] ∧ s.begun? = none ∧ s.resolved? = none ∧ s.committed? = none)
    (results : ∀ r ∈ s.after.results, r ∈ s.before.results ∨ s.before.broker.registry.Aimed r.placements) :
    s.Effect := by
  obtain ⟨taken, begun, resolved, committed⟩ := rest
  have hbuffers : ∀ i, s.buffers i = t.later i ps := fun i => by simp [buffers, publication]
  have hreleases : s.releases = [] := by simp [releases, committed]
  have hredeems : s.redeems = [] := by simp [redeems, resolved]
  have hpublishes : s.publishes = t.now ps := by simp [publishes, publication]
  refine ⟨⟨t.now (s.before.broker.letters as), ?_, fun _ => ?_⟩, fun i => ?_, fun i hi => ?_, fun i hi => ?_,
    fun p hp => ?_, results⟩
  · rw [taken, hpublishes, hreleases, List.append_nil]
    exact h.yields
  · rw [answers, hredeems, List.append_nil]
    cases t <;> rfl
  · simp [h.account, begun, resolved, hbuffers, owes]
  · rw [begun] at hi
    cases hi
  · rw [hbuffers, owes, resolved] at hi
    unfold Transaction.later at hi
    split at hi
    · rename_i ht
      exact isOpen i ht (by simpa using hi)
    · simp at hi
  · rw [publication] at hp
    cases hp
    exact aimed

end Step

namespace World

open Broker

/-- A delivery that came to something was new, and was received on a link that there is. -/
theorem take_of_verdict? {w : World} {l : LinkId} {d : Delivery} {v : Broker.Verdict}
    (h : (w.take (.deliver l d)).verdict? = some v) : d.resume = false ∧ w.broker.verdict? l d = some v ∧
      ∃ link b, w.broker.link? l = some link ∧ w.broker.receive l link d = (b, .ok ()) ∧
        w.take (.deliver l d) = ⟨w, .deliver l d, .delivered (.ok ()), { w with broker := b }⟩ := by
  unfold Step.verdict? take step at h
  cases hl : w.broker.link? l with
  | none =>
    simp only [hl] at h
    cases h
  | some link =>
    simp only [hl] at h
    cases hr : w.broker.receive l link d with
    | mk b result =>
      rw [hr] at h
      cases result with
      | error e => cases h
      | ok u =>
        cases hres : d.resume with
        | true => simp [hres] at h
        | false =>
          refine ⟨rfl, by simpa [hres] using h, link, b, rfl, hr, ?_⟩
          simp only [take, step, hl, hr]

theorem effect_deliver (w : World) (hp : w.broker.Plain) (l : LinkId) (d : Delivery) :
    (w.take (.deliver l d)).Effect := by
  unfold take step
  cases hl : w.broker.link? l with
  | none =>
    simp only [hl]
    exact Step.Silent.of_aside ⟨rfl, rfl, rfl, rfl, rfl, rfl⟩ (.refl _) rfl
  | some link =>
    simp only [hl]
    cases hres : d.resume with
    | true =>
      obtain ⟨as, h⟩ := does_receive_resumed w.broker l link hres
      generalize w.broker.receive l link d = o at h ⊢
      obtain ⟨b, result⟩ := o
      have hv : ∀ after, Step.verdict? ⟨w, .deliver l d, .delivered result, after⟩ = none := fun after => by
        unfold Step.verdict?
        split
        · rename_i heq _
          cases heq
          rw [if_pos hres]
        · rfl
      have hsilent : Step.Silent ⟨w, .deliver l d, .delivered result, { w with broker := b }⟩ :=
        ⟨hv _, by simp [Step.publication?, hv], rfl, rfl, rfl, rfl⟩
      refine hsilent.effect h.yields (fun hr => ?_) (fun i => ?_) fun r hr => .inl hr
      · exact absurd hres (by simpa [Step.resumes] using hr)
      · rw [h.account]
        simp [Transaction.later]
    | false =>
      have h := handled_receive hl hp hres
      generalize w.broker.receive l link d = o at h ⊢
      cases h with
      | failed h => exact Step.Silent.of_aside ⟨rfl, rfl, rfl, rfl, rfl, rfl⟩ h rfl
      | @processed b v decided aimed isOpen h =>
        have hv : Step.verdict? ⟨w, .deliver l d, .delivered (.ok ()), { w with broker := b }⟩ = some v := by
          simp [Step.verdict?, hres, decided]
        refine Step.Effect.of_does h (by simp [Step.publication?, hv]) (by simp [Step.answers, hv])
          (fun i => by simp [Step.owes, hv]) (fun id hid _ => isOpen id hid) aimed ⟨rfl, rfl, rfl, rfl⟩
          fun r hr => .inl hr

theorem effect_send (w : World) (hr : ∀ r ∈ w.results, w.broker.registry.Aimed r.placements) (i : Nat)
    (t : Transaction) : (w.take (.send i t)).Effect := by
  unfold take step
  cases hi : w.results[i]? with
  | none =>
    simp only [hi]
    exact Step.Silent.of_aside ⟨rfl, rfl, rfl, rfl, rfl, rfl⟩ (.refl _) rfl
  | some result =>
    simp only [hi]
    have aimed := hr result (List.mem_of_getElem? hi)
    have h := attempts_send (t := t) aimed
    have hopen : ∀ id n, t = .inside id → (w.broker.send result t).2 = .ok n → result.placements ≠ [] →
        (w.broker.account id).isSome = true := fun id n ht hn => by
      subst ht
      exact isOpen_of_send hn
    generalize w.broker.send result t = o at h hopen ⊢
    cases h with
    | failed h => exact Step.Silent.of_aside ⟨rfl, rfl, rfl, rfl, rfl, rfl⟩ h rfl
    | @done b n h =>
      refine Step.Effect.of_does h (by simp [Step.publication?, hi]) (by simp [Step.answers, Step.verdict?])
        (fun i => by simp [Step.owes, Step.verdict?]) (fun id hid hne => ?_) aimed ⟨rfl, rfl, rfl, rfl⟩
        fun r hr => .inl hr
      rcases hne with hne | hne
      · exact hopen id n hid rfl hne
      · exact absurd rfl hne

/-- An attempt to resolve a transaction that is found resolves it. -/
theorem resolved?_of_found (w w' : World) (how : Resolution) (id : TransactionId)
    {result : Except TransactionError Unit} (found : ∀ j, result ≠ .error (.notFound j)) :
    Step.resolved? ⟨w, .resolve how id, .resolved result, w'⟩ = some id := by
  unfold Step.resolved?
  split
  · rename_i heq
    cases heq
    exact absurd rfl (found _)
  · rename_i heq _
    cases heq
    rfl
  · rename_i hno
    exact absurd rfl (hno how id result rfl)

theorem effect_of_resolves {w : World} {b : Broker} {how : Resolution} {id : TransactionId}
    {result : Except TransactionError Unit} {held ps : List PendingEnqueue} {as : List SettlementAction}
    (hopen : w.broker.account id = some (held, as)) (h : Resolves w.broker b id ps as)
    (found : ∀ j, result ≠ .error (.notFound j))
    (placed : Step.releases ⟨w, .resolve how id, .resolved result, { w with broker := b }⟩ = ps) :
    Step.Effect ⟨w, .resolve how id, .resolved result, { w with broker := b }⟩ := by
  have hresolved := resolved?_of_found w { w with broker := b } how id found
  have hredeems : Step.redeems ⟨w, .resolve how id, .resolved result, { w with broker := b }⟩ = as := by
    unfold Step.redeems
    rw [hresolved]
    simp [hopen]
  refine ⟨⟨w.broker.letters as, ?_, fun _ => ?_⟩, fun i => ?_, fun i hi => ?_, fun i hi => ?_,
    fun p hp => (by cases hp), fun r hr => .inl hr⟩
  · rw [placed]
    exact h.yields
  · rw [hredeems]
    rfl
  · rw [hresolved, h.account i]
    by_cases hi : i = id
    · simp [hi, Step.begun?]
    · simp [hi, Ne.symm hi, Step.begun?, Step.buffers, Step.owes, Step.publication?, Step.verdict?]
  · cases hi
  · rw [hresolved] at hi
    rcases hi with hi | hi | hi
    · exact absurd rfl hi
    · exact absurd rfl hi
    · cases hi
      rw [hopen]
      rfl

/-- **A transaction that is not open is not found**, and the world stays as it is. -/
theorem take_resolve_of_not_open {w : World} {id : TransactionId} (h : w.broker.account id = none)
    (how : Resolution) : w.take (.resolve how id) = ⟨w, .resolve how id, .resolved (.error (.notFound id)), w⟩ := by
  have hnone : w.broker.resolve id how = (w.broker, .error (.notFound id)) := by
    cases how with
    | commit => exact commit_of_not_open h
    | rollback => exact rollback_of_not_open h
  unfold take step
  simp only [hnone]

/-- **A transaction that is open is resolved.** -/
theorem effect_resolve_of_open {w : World} {held : List PendingEnqueue} {as : List SettlementAction}
    {id : TransactionId} (hopen : w.broker.account id = some (held, as))
    (hq : ∀ p ∈ held, w.broker.registry.HasQueue p.queue) (how : Resolution) :
    (w.take (.resolve how id)).Effect ∧ (w.take (.resolve how id)).resolved? = some id := by
  unfold take step
  cases how with
  | commit =>
    obtain ⟨hfound, h⟩ := commit_resolves hopen hq
    simp only [Broker.resolve]
    generalize w.broker.commit id = o at hfound h ⊢
    obtain ⟨b, result⟩ := o
    refine ⟨effect_of_resolves hopen h hfound ?_, resolved?_of_found _ _ _ _ hfound⟩
    cases result with
    | ok u => simp [Step.releases, Step.committed?, hopen]
    | error e => rfl
  | rollback =>
    obtain ⟨hok, h⟩ := rollback_resolves hopen
    simp only [Broker.resolve]
    generalize w.broker.rollback id = o at hok h ⊢
    obtain ⟨b, result⟩ := o
    cases hok
    exact ⟨effect_of_resolves hopen h (fun j hj => by cases hj) rfl, rfl⟩

theorem effect_resolve (w : World)
    (hq : ∀ i c, w.broker.account i = some c → ∀ p ∈ c.1, w.broker.registry.HasQueue p.queue) (how : Resolution)
    (id : TransactionId) : (w.take (.resolve how id)).Effect := by
  cases hopen : w.broker.account id with
  | none =>
    rw [take_resolve_of_not_open hopen]
    exact Step.Silent.of_aside ⟨rfl, rfl, rfl, rfl, rfl, by cases how <;> rfl⟩ (.refl _) rfl
  | some c => exact (effect_resolve_of_open hopen (hq id c hopen) how).1

theorem effect_begin (w : World) : (w.take .begin).Effect := by
  have hnone : w.broker.account w.broker.begin.2 = none := account_eq_none_of_lt (Nat.lt_succ_self _)
  refine ⟨⟨[], .of_links (.refl _) (List.append_nil _).symm rfl ?_, fun _ => rfl⟩, fun i => ?_, fun i hi => ?_,
    fun i hi => ?_, fun p hp => (by cases hp), fun r hr => .inl hr⟩
  · exact Nat.le_of_lt (by simp [take, step, Broker.begin, Broker.note])
  · have h := account_begin w.broker i
    by_cases hi : i = w.broker.begin.2
    · rw [if_pos hi] at h
      simpa [take, step, Step.begun?, hi] using h
    · rw [if_neg hi] at h
      simpa [take, step, Step.begun?, Step.resolved?, Step.buffers, Step.owes, Step.publication?, Step.verdict?, hi,
        Ne.symm hi] using h
  · simp only [take, step, Step.begun?, Option.some.injEq] at hi
    subst hi
    simp [take, step, Broker.begin, Broker.note]
  · simp [take, step, Step.resolved?, Step.buffers, Step.owes, Step.publication?, Step.verdict?] at hi

theorem effect_pop (w : World) (q : DestinationId) : (w.take (.pop q)).Effect := by
  refine ⟨⟨[], yields_pop w.broker q, fun _ => rfl⟩, fun i => ?_, fun i hi => ?_, fun i hi => ?_,
    fun p hp => (by cases hp), fun r hr => .inl hr⟩
  · have h := account_pop w.broker q i
    simpa [take, step, Step.begun?, Step.resolved?, Step.buffers, Step.owes, Step.publication?, Step.verdict?] using h
  · cases hi
  · simp [take, step, Step.resolved?, Step.buffers, Step.owes, Step.publication?, Step.verdict?] at hi

/-- **What a step does**, in a world whose routing results and transactions are for queues that were made. -/
theorem take_effect (w : World) (hp : w.broker.Plain)
    (hr : ∀ r ∈ w.results, w.broker.registry.Aimed r.placements)
    (hq : ∀ i c, w.broker.account i = some c → ∀ p ∈ c.1, w.broker.registry.HasQueue p.queue) (e : Event) :
    (w.take e).Effect := by
  cases e with
  | administer q => exact Step.Silent.of_aside ⟨rfl, rfl, rfl, rfl, rfl, rfl⟩ (linkSteps_aside.administer _ q) rfl
  | route exchange message key properties =>
    have h : Aside w.broker (w.take (.route exchange message key properties)).after.broker := aside_noteAll _ _
    have hd := h .autoCommit
    have hsilent : (w.take (.route exchange message key properties)).Silent := ⟨rfl, rfl, rfl, rfl, rfl, rfl⟩
    refine hsilent.effect hd.yields (fun _ => rfl) (fun i => ?_) fun r hr => ?_
    · rw [hd.account]
      simp [take]
    · rcases List.mem_append.1 hr with hr | hr
      · exact .inl hr
      · rw [List.mem_singleton.1 hr]
        exact .inr (Registry.aimed_of_sound (w.broker.registry.route_sound exchange message key properties))
  | send i t => exact effect_send w hr i t
  | pop q => exact effect_pop w q
  | drop i =>
    unfold take step
    cases hi : w.held[i]? with
    | none =>
      simp only [hi]
      exact Step.Silent.of_aside ⟨rfl, rfl, rfl, rfl, rfl, rfl⟩ (.refl _) rfl
    | some entry =>
      simp only [hi]
      exact Step.Silent.of_aside ⟨rfl, rfl, rfl, rfl, rfl, rfl⟩ (aside_release _ _) rfl
  | begin => exact effect_begin w
  | doom t => exact Step.Silent.of_aside ⟨rfl, rfl, rfl, rfl, rfl, rfl⟩ (aside_doom _ t) rfl
  | resolve how id => exact effect_resolve w hq how id
  | failStore failing =>
    exact Step.Silent.of_aside ⟨rfl, rfl, rfl, rfl, rfl, rfl⟩ (.of_flow (.refl _) rfl rfl rfl) rfl
  | session s => exact Step.Silent.of_aside ⟨rfl, rfl, rfl, rfl, rfl, rfl⟩ (.of_flow (.refl _) rfl rfl rfl) rfl
  | link name settings formats receiverOpen =>
    have hsilent : (w.take (.link name settings formats receiverOpen)).Silent := ⟨rfl, rfl, rfl, rfl, rfl, rfl⟩
    exact hsilent.effect (yields_newLink _ name settings formats receiverOpen) (fun _ => rfl)
      (fun i => account_congr rfl i) fun r hr => .inl hr
  | attach l how a =>
    exact Step.Silent.of_aside ⟨rfl, rfl, rfl, rfl, rfl, rfl⟩
      (linkSteps_aside.withLink (fun link => linkSteps_aside.attachAs _ l link a how) l) rfl
  | start l =>
    exact Step.Silent.of_aside ⟨rfl, rfl, rfl, rfl, rfl, rfl⟩
      (linkSteps_aside.withLink (fun link => linkSteps_aside.start _ l link) l) rfl
  | deliver l d => exact effect_deliver w hp l d
  | disposition l tag settled =>
    exact Step.Silent.of_aside ⟨rfl, rfl, rfl, rfl, rfl, rfl⟩
      (linkSteps_aside.withLink (fun link => linkSteps_aside.receiveDisposition _ l link tag settled) l) rfl
  | detach l d => exact Step.Silent.of_aside ⟨rfl, rfl, rfl, rfl, rfl, rfl⟩ (linkSteps_aside.detach _ l d) rfl
  | destroy l => exact Step.Silent.of_aside ⟨rfl, rfl, rfl, rfl, rfl, rfl⟩ (linkSteps_aside.teardown _ l .destroyed) rfl

end World
end MessageBroker
