import MessageBroker.Proofs.Broker.Failing
import MessageBroker.Proofs.Broker.Settling
/-!
# How a delivery is received

A delivery that is processed is recorded if its outcome has a state for the sender, and then answered or owed; one that
is resumed is answered once more with the outcome that is on record; one that fails is neither (`reception_receive`).
A receiver that was handed to the link may in the meantime end the transaction of the delivery.
-/
namespace MessageBroker
namespace Broker

/-- What a receiver that a message is handed to does to its transaction: nothing, or it ends it. -/
inductive Meddles (b : Broker) (r : Receiver) : Transaction → List Mark → Prop where
  | not (t : Transaction) : Meddles b r t []
  | ends (disloyal : ¬ r.Loyal) (i : TransactionId) : Meddles b r (.inside i) (b.resolving i)

/-- What is recorded of a delivery before it is answered. -/
def recording (a : SettlementAction) : List Mark := a.disposition.state.toList.map (.recorded a.link a.disposition.tag)

/-- How a delivery is answered in transaction `t`.  If it is answered at once, that overwrites what was recorded. -/
def answering (b : Broker) (a : SettlementAction) : Transaction → List Mark
  | .autoCommit => [.sent a]
  | .inside i => if (b.debts? i).isSome then recording a ++ [.owed i a] else [.sent a]

variable {b b' : Broker} {t : Transaction} {ms : List Mark}

/-! ## Handing over -/

theorem settles_routeTo (b : Broker) (resolved : Resolved) (message : Message) :
    Settles b (b.routeTo resolved message).1 [] := by
  unfold routeTo
  split
  · exact .of_kept rfl rfl rfl
  · exact .refl b

theorem settles_sendToNode (b : Broker) (resolved : Resolved) (message : Message) (t : Transaction) (discard : Bool)
    (address : String) : Settles b (b.sendToNode resolved message t discard address).1 [] := by
  have h1 := settles_routeTo b resolved message
  unfold sendToNode enqueueRouted
  generalize b.routeTo resolved message = o at h1 ⊢
  obtain ⟨b1, result⟩ := o
  simp only
  split
  · exact h1
  · have h2 := h1.quiet (settles_send b1 result t)
    split <;> (rename_i heq; rwa [heq] at h2)

/-- **Handing a message over** answers nothing, unless the receiver ends the transaction. -/
theorem settles_outcomeOf (b : Broker) (source : Source) (r : Receiver) (message : Message) (t : Transaction) :
    ∃ ms, Meddles b r t ms ∧ Settles b (b.outcomeOf source r message t).1 ms := by
  unfold outcomeOf
  split
  · refine ⟨[], .not t, ?_⟩
    split <;> exact .refl b
  unfold sendToReceiver
  cases hk : r.kind with
  | node d key discard => exact ⟨[], .not t, settles_sendToNode b _ message t discard _⟩
  | relay discard =>
    refine ⟨[], .not t, ?_⟩
    cases message.address with
    | none => exact .refl b
    | some address =>
      simp only
      cases b.registry.resolve address with
      | none => exact .refl b
      | some resolved => exact settles_sendToNode b resolved message t discard address
  | scripted s =>
    have hdisloyal : s.resolve.isSome = true → ¬ r.Loyal := fun hs hl => by
      rw [hl s hk] at hs
      cases hs
    cases t with
    | autoCommit => exact ⟨[], .not _, .refl b⟩
    | inside i =>
      simp only
      cases hres : s.resolve with
      | none => exact ⟨[], .not _, .refl b⟩
      | some how =>
        refine ⟨b.resolving i, .ends (hdisloyal (by rw [hres]; rfl)) i, ?_⟩
        cases how with
        | commit => exact settles_commit b i
        | rollback => exact settles_rollback b i

/-! ## Answering -/

/-- Sending a disposition overwrites what was recorded under its tag. -/
theorem settleOrRecord_record (u : Unsettled) (d : Disposition) (s : Option DeliveryState) :
    settleOrRecord (u.record d.tag s) d = settleOrRecord u d := by
  have hremove : (u.record d.tag s).remove d.tag = u.remove d.tag := by
    simp [Unsettled.record, Unsettled.remove]
  unfold settleOrRecord
  split
  · exact hremove
  · exact congrArg (List.cons (d.tag, d.state)) hremove

theorem Settles.of_recorded {a : SettlementAction} (h : Settles b b' (recording a ++ [.sent a])) :
    Settles b b' [.sent a] := by
  unfold recording at h
  cases hs : a.disposition.state with
  | none => simpa [hs] using h
  | some s =>
    rw [hs] at h
    refine ⟨?_, h.debts, h.outbox, h.ears, h.begun⟩
    refine h.maps.trans (List.ext_getElem? fun i => ?_)
    simp only [Option.toList_some, List.map_cons, List.map_nil, List.cons_append, List.nil_append, List.foldl_cons,
      List.foldl_nil, Mark.onMaps, List.getElem?_modify]
    by_cases hi : a.link = i <;> cases b.maps[i]? <;> simp [hi, settleOrRecord_record]

theorem settles_answer (b : Broker) (l : LinkId) (t : Transaction) (d : Disposition) :
    Settles b (b.answer l t d) (b.answering ⟨l, d⟩ t) := by
  have h : ∀ b1, Settles b b1 (recording ⟨l, d⟩) → (∀ i, b1.debts? i = b.debts? i) →
      Settles b (match t with | .autoCommit => b1.sendDisposition l d | .inside id => b1.owe id ⟨l, d⟩)
        (b.answering ⟨l, d⟩ t) := fun b1 h1 hdebts => by
    cases t with
    | autoCommit => exact (h1.trans (settles_sendDisposition b1 l d)).of_recorded
    | inside i =>
      have h2 := h1.trans (settles_owe b1 i ⟨l, d⟩)
      rw [hdebts] at h2
      simp only [answering]
      cases ho : (b.debts? i).isSome with
      | true => simpa [ho] using h2
      | false => exact Settles.of_recorded (by simpa [ho] using h2)
  unfold answer
  cases hs : d.state with
  | none => exact h b (by simpa [recording, hs] using Settles.refl b) fun _ => rfl
  | some s =>
    have h1 : Aside b (b.modifyLink l fun x => { x with unsettled := x.unsettled.record d.tag (some s) }) :=
      aside_modifyLink b l (fun _ => rfl) fun _ _ hr => .inl hr
    have hrecording : recording ⟨l, d⟩ = [.recorded l d.tag s] := by simp [recording, hs]
    refine h _ ?_ h1.debts?
    rw [hrecording]
    exact ⟨maps_modifyLink b l fun _ => rfl, h1.debts?, h1.outbox, (h1 .autoCommit).ears, Nat.le_refl _⟩

theorem settles_complete (b : Broker) (l : LinkId) (link : Link) (d : Delivery) (message : Message) (t : Transaction)
    (settled : Bool) (outcome : Outcome) {a : SettlementAction}
    (ha : a = ⟨l, d.tag, stateFor (link.source.getD {}) t outcome, settled⟩) :
    Settles b (b.complete l link d message t settled outcome) (b.answering a t) := by
  subst ha
  unfold complete
  simp only
  have h1 : Settles b (if mistaken (link.source.getD {}) outcome then b.doom t else b) [] := by
    split
    · exact settles_doom b t
    · exact .refl b
  generalize (if mistaken (link.source.getD {}) outcome then b.doom t else b) = b1 at h1 ⊢
  have h2 := h1.trans (settles_answer b1 l t ⟨d.tag, stateFor (link.source.getD {}) t outcome, settled⟩)
  have hanswer : ∀ a, b1.answering a t = b.answering a t := fun a => by
    unfold answering
    simp only [h1.debts]
    rfl
  rw [hanswer] at h2
  refine .quiet ?_ (settles_note _ _)
  exact h2.quiet (.of_kept rfl rfl rfl)

/-! ## One delivery -/

/-- **How a delivery ends**: it fails, it is answered once more, or it is processed as was decided. -/
inductive Reception (b : Broker) (l : LinkId) (link : Link) (d : Delivery) : Broker × Except LinkError Unit → Prop where
  | failed {b' : Broker} {e : LinkError} {ms : List Mark}
      (meddled : ms = [] ∨ ∃ i, d.transaction? = some i ∧ ms = b.resolving i)
      (h : Settles b b' ms) : Reception b l link d (b', .error e)
  | resumed {b' : Broker} {o : Outcome} (resumes : d.resume = true)
      (stood : b.unsettled? l d.tag = some (some (.final o)))
      (h : Settles b b' [.sent ⟨l, d.tag, some (.final o), link.settlesFirst d.settleMode⟩]) :
      Reception b l link d (b', .ok ())
  | answered {b' : Broker} {v : Verdict} (new : d.resume = false) (free : b.unsettled? l d.tag = none)
      (decided : b.verdict? l d = some v) (outside : v.transaction = .autoCommit)
      (h : Settles b b' [.sent v.action]) : Reception b l link d (b', .ok ())
  | owed {b' : Broker} {v : Verdict} {i : TransactionId} (new : d.resume = false) (free : b.unsettled? l d.tag = none)
      (decided : b.verdict? l d = some v) (inside : v.transaction = .inside i) (isOpen : (b.debts? i).isSome = true)
      (h : Settles b b' (recording v.action ++ [.owed i v.action])) : Reception b l link d (b', .ok ())
  /-- The transaction was ended before the disposition could be owed to its end. -/
  | overtaken {b' : Broker} {v : Verdict} {i : TransactionId} (new : d.resume = false)
      (free : b.unsettled? l d.tag = none) (decided : b.verdict? l d = some v) (inside : v.transaction = .inside i)
      (isOpen : (b.debts? i).isSome = true) (ended : b'.debts? i = none)
      (disloyal : ∃ r, link.receiver = some r ∧ ¬ r.Loyal)
      (h : Settles b b' (b.resolving i ++ [.sent v.action])) : Reception b l link d (b', .ok ())

/-- What becomes of a delivery whose message is read and whose transaction is found. -/
inductive Handed (b : Broker) (link : Link) (v : Option Verdict) (t : Transaction) :
    Broker × Except LinkError Unit → Prop where
  | failed {b' : Broker} {e : LinkError} {ms : List Mark} (meddled : ms = [] ∨ ∃ i, t = .inside i ∧ ms = b.resolving i)
      (h : Settles b b' ms) : Handed b link v t (b', .error e)
  | processed {b' b'' : Broker} {w : Verdict} {r : Receiver} {ms : List Mark} (decided : v = some w)
      (same : w.transaction = t) (handed : link.receiver = some r) (meddles : Meddles b r t ms) (h : Settles b b' ms)
      (h' : Settles b' b'' (b'.answering w.action t)) : Handed b link v t (b'', .ok ())

theorem handed_deliver (b : Broker) (l : LinkId) (link : Link) (d : Delivery) (message : Message) (t : Transaction) :
    Handed b link (b.verdictIn l link d message t) t
      (b.deliver l link d message t (link.settlesFirst d.settleMode)) := by
  unfold deliver verdictIn
  split
  · exact .failed (.inl rfl) (.refl b)
  split
  · exact .failed (.inl rfl) (.refl b)
  rename_i r heq
  obtain ⟨ms, hm, h⟩ := settles_outcomeOf b (link.source.getD {}) r message t
  rw [heq]
  simp only [Option.bind_eq_bind, Option.bind_some]
  generalize b.outcomeOf (link.source.getD {}) r message t = o at h ⊢
  obtain ⟨b1, result⟩ := o
  cases result with
  | error e =>
    refine .failed ?_ h
    cases hm with
    | not => exact .inl rfl
    | ends disloyal i => exact .inr ⟨i, rfl, rfl⟩
  | ok outcome => exact .processed rfl rfl heq hm h (settles_complete b1 l link d message t _ outcome rfl)

theorem unsettled?_eq_none {l : LinkId} {link : Link} {d : Delivery} {message : Message} (hl : b.link? l = some link)
    (h : decode link d = .ok message) : b.unsettled? l d.tag = none := by
  unfold unsettled?
  rw [hl]
  unfold decode at h
  split at h
  · cases h
  · rename_i hc
    simpa [Unsettled.contains] using hc

theorem debts?_isSome {t : Transaction} {d : Delivery} (ht : b.transactionOf d = .ok t) {i : TransactionId}
    (hi : t = .inside i) : (b.debts? i).isSome = true := by
  unfold debts?
  rw [Option.isSome_map]
  exact isOpen_of_transactionOf ht hi

theorem reception_process {l : LinkId} {link : Link} {d : Delivery} (hl : b.link? l = some link)
    (hnew : d.resume = false) : Reception b l link d (b.process l link d (link.settlesFirst d.settleMode)) := by
  unfold process
  cases hm : decode link d with
  | error e => exact .failed (.inl rfl) (.refl b)
  | ok message =>
    simp only
    cases ht : b.transactionOf d with
    | error e => exact .failed (.inl rfl) (.refl b)
    | ok t =>
      have ha : Settles b (b.acquire message.id) [] := .of_kept rfl rfl rfl
      have hr : ∀ b' : Broker, Settles b' (b'.release message.id) [] := fun _ => .of_kept rfl rfl rfl
      have hv : b.verdict? l d = (b.acquire message.id).verdictIn l link d message t := by
        unfold verdict?
        simp [hl, hm, ht, Except.toOption]
      have h := handed_deliver (b.acquire message.id) l link d message t
      rw [← hv] at h
      simp only
      generalize (b.acquire message.id).deliver l link d message t _ = o at h ⊢
      cases h with
      | failed meddled h =>
        refine .failed ?_ ((ha.trans h).quiet ((settles_doom _ t).quiet (hr _)))
        rcases meddled with hms | ⟨i, hi, hms⟩
        · exact .inl hms
        · exact .inr ⟨i, by rw [← id?_of_transactionOf ht, hi]; rfl, hms⟩
      | @processed b1 b2 v r ms decided same handed meddles h h' =>
        have h1 := ha.trans (h.trans (h'.quiet (hr _)))
        have hopen : ∀ i, t = .inside i → (b.debts? i).isSome = true := fun i => debts?_isSome ht
        have hfree := unsettled?_eq_none hl hm
        cases meddles with
        | not =>
          cases t with
          | autoCommit => exact .answered hnew hfree decided same h1
          | inside i =>
            -- nothing has ended the transaction, so it still is open
            have hdebts : b1.debts? i = b.debts? i := h.debts i
            rw [answering, hdebts, if_pos (hopen i rfl)] at h1
            exact .owed hnew hfree decided same (hopen i rfl) h1
        | ends disloyal i =>
          have hdebts : b1.debts? i = none := (h.debts_of_resolving i).trans (if_pos rfl)
          rw [answering, hdebts] at h1 h'
          refine .overtaken hnew hfree decided same (hopen i rfl) ?_ ⟨r, handed, disloyal⟩ h1
          exact (h'.debts i).trans hdebts

/-- **How a delivery is received**, by whichever receiver. -/
theorem reception_receive {l : LinkId} {link : Link} (hl : b.link? l = some link) (d : Delivery) :
    Reception b l link d (b.receive l link d) := by
  unfold receive ensureAttached
  split
  · rename_i heq
    split at heq
    · cases heq
    · cases heq
      exact .failed (.inl rfl) (settles_note b _)
  · rename_i heq
    split at heq
    · cases heq
      cases hres : d.resume with
      | true =>
        simp only [if_true]
        unfold resumeDelivery
        split
        · rename_i o ho
          refine .resumed hres ?_ ((settles_note b _).trans (settles_sendDisposition _ l _))
          rw [unsettled?, hl]
          exact ho
        · exact .failed (.inl rfl) (.refl b)
      | false =>
        have h := reception_process hl hres
        simp only [Bool.false_eq_true, if_false]
        generalize b.process l link d _ = o at h ⊢
        obtain ⟨b1, result⟩ := o
        cases result with
        | ok u => exact h
        | error e =>
          cases h with
          | failed meddled h => exact .failed meddled (h.quiet (settles_note _ _))
    · cases heq

end Broker
end MessageBroker
