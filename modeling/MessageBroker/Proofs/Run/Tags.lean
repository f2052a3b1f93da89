import MessageBroker.Proofs.Run.Marks
/-!
# Tags in use, and tags that are forgotten

While the disposition of a delivery is owed to an open transaction, its tag is in use, if the delivery has been recorded
and nothing else is owed under the tag (`tag_in_use_of_course`).  A tag that its link has forgotten comes back without a
new delivery only by the end of a transaction that still owed an unsettled disposition for it
(`forgotten_of_course`).
-/
namespace MessageBroker

/-- **A course of events**, in which links may also be handed receivers of any kind. -/
inductive Course (first : World) : List Step → World → Prop where
  | start : Course first [] first
  | event {past : List Step} {w : World} (h : Course first past w) (e : Event) :
      Course first (past ++ [w.take e]) (w.take e).after
  | handed {past : List Step} {w : World} (h : Course first past w) (l : LinkId) (r : Option Receiver) :
      Course first past { w with broker := w.broker.setReceiver l r }

theorem course_of_run (w : World) (es : List Event) : Course w (w.history es) (w.after es) :=
  World.history_induction (P := Course w) (fun _ _ e h => h.event e) es [] w .start

namespace Broker

/-- A transaction is open and owes this disposition. -/
def Owes (b : Broker) (i : TransactionId) (a : SettlementAction) : Prop := ∃ as, b.debts? i = some as ∧ a ∈ as

end Broker

/-- **What a step can do under a tag that it takes no new delivery under**: it repeats an outcome that is on record, or
ends a transaction that owed a disposition for it, or its link forgets it. -/
theorem Step.Explains.about {s : Step} {m : Mark} {l : LinkId} {tag : DeliveryTag} (h : s.Explains m)
    (about : m.About l tag) (untaken : s.takes l tag = false) :
    (∃ d o settled, s.event = .deliver l d ∧ m = .sent ⟨l, tag, some (.final o), settled⟩ ∧
        s.before.broker.unsettled? l tag = some (some (.final o))) ∨
      (∃ i a, m = .sent a ∧ a.link = l ∧ a.disposition.tag = tag ∧ s.before.broker.Owes i a ∧
        s.after.broker.debts? i = none) ∨
      ∃ kept, m = .forgotten l kept ∧ kept tag = false ∧ s.forgets l tag = true := by
  cases h with
  | recorded taken =>
    obtain ⟨rfl, rfl⟩ := about
    exact absurd (untaken.symm.trans taken) Bool.false_ne_true
  | answered taken =>
    obtain ⟨rfl, rfl⟩ := about
    exact absurd (untaken.symm.trans taken) Bool.false_ne_true
  | @repeated a d o event stood same =>
    obtain ⟨k, t, state, settled⟩ := a
    obtain ⟨rfl, rfl⟩ := about
    cases same
    exact .inl ⟨d, o, settled, event, rfl, stood⟩
  | redeemed owed mem ended => exact .inr (.inl ⟨_, _, rfl, about.1, about.2, ⟨_, owed, mem⟩, ended⟩)
  | forgotten forgets =>
    obtain ⟨rfl, hkept⟩ := about
    exact .inr (.inr ⟨_, rfl, hkept, forgets tag hkept⟩)
  | begun => exact about.elim
  | owed => exact about.elim
  | closed => exact about.elim

namespace Step.Marked

variable {s : Step} {ms : List Mark}

/-- What is owed after a step was owed before, or its delivery is taken in this step. -/
theorem owes (h : s.Marked ms) {i : TransactionId} {a : SettlementAction} (ha : s.after.broker.Owes i a) :
    s.before.broker.Owes i a ∨ s.takes a.link a.disposition.tag = true := by
  obtain ⟨as, has, hmem⟩ := ha
  rw [h.debts] at has
  rcases Mark.mem_foldl_onDebts ms has hmem with ho | hm
  · exact .inl ho
  · cases h.explained _ hm with
    | owed taken => exact .inr taken

/-- A transaction that was begun and is closed stays closed. -/
theorem stays_closed (h : s.Marked ms) {i : TransactionId} (hi : i ≤ s.before.broker.transactions.length)
    (hc : s.before.broker.debts? i = none) : s.after.broker.debts? i = none := by
  have hkeep : ∀ m ∈ ms, m.onDebts i none = none := fun m hm => by
    cases m with
    | begun j =>
      cases h.explained _ hm with
      | begun =>
        have hne : s.before.broker.transactions.length + 1 ≠ i := fun hj => Nat.not_succ_le_self _ (hj ▸ hi)
        exact if_neg hne
    | owed j a => by_cases hj : j = i <;> simp [Mark.onDebts, hj]
    | closed j => by_cases hj : j = i <;> simp [Mark.onDebts, hj]
    | recorded => rfl
    | sent => rfl
    | forgotten => rfl
  rw [h.debts, hc]
  exact List.foldlRecOn (motive := (· = none)) ms _ rfl fun o ho m hm => by rw [ho, hkeep m hm]

end Step.Marked

namespace Broker

variable {b b' : Broker}

/-- Only transactions that were begun are open. -/
theorem begun_of_open {i : TransactionId} (h : b.debts? i ≠ none) : i ≤ b.transactions.length := by
  refine Nat.le_of_not_lt fun hlt => h ?_
  rw [debts?, account_eq_none_of_lt hlt]
  rfl

theorem Settles.owes {ms : List Mark} (h : Settles b b' ms) {i : TransactionId} {a : SettlementAction}
    (ha : b'.Owes i a) : b.Owes i a ∨ .owed i a ∈ ms := by
  obtain ⟨as, has, hmem⟩ := ha
  rw [h.debts] at has
  exact Mark.mem_foldl_onDebts ms has hmem

theorem Settles.unsettled?_of_quiet (h : Settles b b' []) (l : LinkId) (tag : DeliveryTag) :
    b'.unsettled? l tag = b.unsettled? l tag := by
  rw [unsettled?_eq, unsettled?_eq, h.maps]
  rfl

end Broker

/-! ## Tags in use -/

/-- **A tag is in use** for a delivery of transaction `i`: the delivery is on record, and nothing is owed under its tag
by any other transaction. -/
structure InUse (b : Broker) (l : LinkId) (tag : DeliveryTag) (i : TransactionId) (state : DeliveryState) : Prop where
  entry : b.unsettled? l tag = some (some state)
  alone : ∀ j a, b.Owes j a → a.link = l → a.disposition.tag = tag → j = i

/-- A delivery that is owed to its transaction is recorded first, unless its outcome has no state for the sender. -/
theorem inUse_of_owed {w : World} {l : LinkId} {d : Delivery} {i : TransactionId} {a : SettlementAction}
    (owed : (w.take (.deliver l d)).owes i = [a]) (supported : a.disposition.state.isSome = true)
    (alone : ∀ j a', w.broker.Owes j a' → a'.link = l → a'.disposition.tag ≠ d.tag) :
    i ≤ w.broker.transactions.length ∧ ∃ state, state.isTerminal = false ∧
      ((w.take (.deliver l d)).after.broker.debts? i ≠ none →
        InUse (w.take (.deliver l d)).after.broker l d.tag i state) := by
  obtain ⟨v, hv, hi, rfl⟩ := Step.verdict?_of_owes owed
  obtain ⟨hnew, hdecided, link, b, hl, hr, htake⟩ := World.take_of_verdict? hv
  obtain ⟨-, link', message, r, outcome, hl', -, -, -, ha⟩ := Broker.fixes_of_verdict? hdecided
  rw [htake]
  obtain ⟨state, hstate⟩ := Option.isSome_iff_exists.1 supported
  have hterminal : state.isTerminal = false := by
    simp only [ha, Broker.stateFor, hi] at hstate
    split at hstate <;> cases hstate
    rfl
  have hrecording : Broker.recording v.action = [.recorded l d.tag state] := by
    rw [Broker.recording, hstate, ha]
    rfl
  have h := Broker.reception_receive hl d
  rw [hr] at h
  cases h with
  | resumed resumes => exact absurd (hnew.symm.trans resumes) Bool.false_ne_true
  | answered new free decided outside =>
    rw [hdecided] at decided
    cases decided
    cases hi.symm.trans outside
  | @owed b' v' j new free decided inside isOpen h =>
    rw [hdecided] at decided
    cases decided
    cases hi.symm.trans inside
    refine ⟨Broker.begun_of_open (Option.isSome_iff_ne_none.1 isOpen), state, hterminal, fun _ => ⟨?_, ?_⟩⟩
    · rw [h.unsettled? (by rw [hl]; rfl), free, hrecording]
      simp [Mark.onEntry]
    · intro j a' hj hlink htag
      rcases h.owes hj with ho | hm
      · exact absurd htag (alone j a' ho hlink)
      · rw [hrecording] at hm
        simp only [List.cons_append, List.nil_append, List.mem_cons, reduceCtorEq, List.not_mem_nil, or_false,
          false_or, Mark.owed.injEq] at hm
        exact hm.1
  | overtaken new free decided inside isOpen ended =>
    rw [hdecided] at decided
    cases decided
    cases hi.symm.trans inside
    exact ⟨Broker.begun_of_open (Option.isSome_iff_ne_none.1 isOpen), state, hterminal, fun ho => absurd ended ho⟩

namespace InUse

variable {w w' : World} {l : LinkId} {tag : DeliveryTag} {i : TransactionId} {state : DeliveryState}

/-- **A tag in use stays in use** as long as its transaction is open and its link does not forget it. -/
theorem take (h : InUse w.broker l tag i state) (hs : state.isTerminal = false) (e : Event)
    (kept : (w.take e).forgets l tag = false) (isOpen : (w.take e).after.broker.debts? i ≠ none) :
    InUse (w.take e).after.broker l tag i state := by
  obtain ⟨ms, hm⟩ := w.marked_take e
  have hfree : (w.take e).takes l tag = false := Bool.eq_false_iff.2 fun ht => by
    have hnone := hm.free l tag ht
    rw [show (w.take e).before.broker.unsettled? l tag = some (some state) from h.entry] at hnone
    cases hnone
  have hothers : ∀ m ∈ ms, ¬ m.About l tag := fun m hmem habout => by
    rcases (hm.explained m hmem).about habout hfree with
      ⟨d, o, settled, -, -, stood⟩ | ⟨j, a, -, hl, ht, ho, ended⟩ | ⟨kept', -, -, forgets⟩
    · -- a delivery in a transaction is not on record with an outcome that could be repeated
      cases h.entry.symm.trans stood
      cases hs
    · exact isOpen (h.alone j a ho hl ht ▸ ended)
    · exact Bool.false_ne_true (kept.symm.trans forgets)
  have hlink : (w.broker.link? l).isSome = true := by
    have hentry := h.entry
    unfold Broker.unsettled? at hentry
    obtain ⟨link, hl, -⟩ := Option.bind_eq_some_iff.1 hentry
    rw [hl]
    rfl
  refine ⟨?_, fun j a hj hl ht => ?_⟩
  · rw [hm.entry l tag hlink, Mark.foldl_onEntry_of_others hothers]
    exact h.entry
  · rcases hm.owes hj with ho | taken
    · exact h.alone j a ho hl ht
    · rw [hl, ht, hfree] at taken
      cases taken

theorem of_course {past : List Step} (course : Course w past w') (hi : i ≤ w.broker.transactions.length)
    (hs : state.isTerminal = false) (h : w.broker.debts? i ≠ none → InUse w.broker l tag i state)
    (kept : ∀ s ∈ past, s.forgets l tag = false) :
    i ≤ w'.broker.transactions.length ∧ (w'.broker.debts? i ≠ none → InUse w'.broker l tag i state) := by
  induction course with
  | start => exact ⟨hi, h⟩
  | @event past w1 course e ih =>
    obtain ⟨hi1, h1⟩ := ih fun s hs => kept s (List.mem_append_left _ hs)
    obtain ⟨ms, hm⟩ := w1.marked_take e
    refine ⟨Nat.le_trans hi1 hm.begun, fun ho => ?_⟩
    refine (h1 fun hc => ho (hm.stays_closed hi1 hc)).take hs e ?_ ho
    exact kept _ (List.mem_append_right _ List.mem_cons_self)
  | @handed past w1 course k r ih =>
    obtain ⟨hi1, h1⟩ := ih kept
    have hq := Broker.settles_setReceiver w1.broker k r
    refine ⟨Nat.le_trans hi1 hq.begun, fun ho => ?_⟩
    have h2 := h1 fun hc => ho ((hq.debts i).trans hc)
    refine ⟨(hq.unsettled?_of_quiet l tag).trans h2.entry, fun j a hj => ?_⟩
    rcases hq.owes hj with hj | hm
    · exact h2.alone j a hj
    · cases hm

/-- **A new delivery under a tag in use is refused**, and nothing comes of it. -/
theorem refuses (h : InUse w.broker l tag i state) {d : Delivery} (new : d.resume = false) (same : d.tag = tag) :
    ∃ link journal, w.broker.link? l = some link ∧ w.take (.deliver l d) = ⟨w, .deliver l d,
      .delivered (.error (if link.state = .attached then .delivery (.tagInUse tag)
        else .notAttached link.name link.state)), { w with broker.journal := journal }⟩ := by
  subst same
  obtain ⟨link, hl, hu⟩ := Option.bind_eq_some_iff.1 h.entry
  have hdecode : Broker.decode link d = .error (.tagInUse d.tag) := by
    have hc : link.unsettled.contains d.tag = true := by rw [Unsettled.contains, hu]; rfl
    rw [Broker.decode, if_pos hc]
  refine ⟨link, (w.broker.receive l link d).1.journal, hl, ?_⟩
  unfold World.take World.step Broker.receive Broker.ensureAttached
  simp only [hl]
  by_cases hatt : link.state = .attached
  · simp [hatt, new, Broker.process, hdecode, Broker.note]
  · simp [hatt, Broker.note]

end InUse

/-- **A tag is not used again while its delivery is open**: if a delivery was processed in transaction `i`, on any link
and from any state, and its outcome has a state for the sender, and no other disposition was owed under its tag, then as
long as the transaction is open and the link has not forgotten the tag, whatever else happens, every new delivery under
that tag is refused and has no effect. -/
theorem tag_in_use_of_course {w w' : World} {l : LinkId} {d d' : Delivery} {i : TransactionId} {a : SettlementAction}
    {past : List Step} (owed : (w.take (.deliver l d)).owes i = [a]) (supported : a.disposition.state.isSome = true)
    (alone : ∀ j a', w.broker.Owes j a' → a'.link = l → a'.disposition.tag ≠ d.tag)
    (course : Course (w.take (.deliver l d)).after past w') (kept : ∀ s ∈ past, s.forgets l d.tag = false)
    (isOpen : w'.broker.active? i ≠ none) (new : d'.resume = false) (same : d'.tag = d.tag) :
    ∃ link journal, w'.broker.link? l = some link ∧ w'.take (.deliver l d') = ⟨w', .deliver l d',
      .delivered (.error (if link.state = .attached then .delivery (.tagInUse d.tag)
        else .notAttached link.name link.state)), { w' with broker.journal := journal }⟩ := by
  obtain ⟨hi, state, hs, h⟩ := inUse_of_owed owed supported alone
  obtain ⟨ms, hm⟩ := w.marked_take (.deliver l d)
  obtain ⟨-, h'⟩ := InUse.of_course course (Nat.le_trans hi hm.begun) hs h kept
  exact (h' fun hc => isOpen (Broker.debts?_eq_none.1 hc)).refuses new same

/-- Nothing is owed by transactions that owe nothing. -/
theorem Broker.not_owes {b : Broker} (h : b.transactions.all (·.actions.isEmpty) = true) (i : TransactionId)
    (a : SettlementAction) : ¬ b.Owes i a := by
  rintro ⟨as, has, ha⟩
  unfold debts? account at has
  rw [Option.map_map] at has
  obtain ⟨t, ht, htas⟩ := Option.map_eq_some_iff.1 has
  have htrans := (active?_eq_some.1 ht).1
  unfold transaction? at htrans
  split at htrans
  · cases htrans
  · have hnil := List.all_eq_true.1 h t (List.mem_of_getElem? htrans)
    rw [← htas, Function.comp, List.isEmpty_iff.1 hnil] at ha
    cases ha

/-- A link to a queue whose sender can be told these outcomes, and a transaction. -/
def linked (outcomes : Option (List OutcomeKind)) : List Event :=
  [.administer (.createQueue { name := "orders" }),
    .link "in" {} [0] true,
    .attach 0 .plain { source := some { outcomes }, target := some (.node { address := some "orders" }) },
    .begin]

/-- A new delivery under the tag `t`, with an empty message. -/
def parcel (t : UInt8) (m : MessageId) (state : Option DeliveryState) (mode : Option SettleMode) : Delivery :=
  ⟨[t], 0, .ok ⟨⟨none, none, none, [], false, [], none⟩, m⟩, state, false, mode⟩

/-- A delivery is open in a transaction while another comes in and is settled. -/
theorem tag_in_use_meanwhile :
    let w := (World.new {} ⟨true, ∅, []⟩ {}).after (linked none)
    let w' := (w.take (.deliver 0 (parcel 1 0 (some (.transactional 1 none)) none))).after.after
      [.deliver 0 (parcel 2 1 none (some .second)), .disposition 0 [2] true]
    ∃ journal, w'.take (.deliver 0 (parcel 1 2 none none)) = ⟨w', .deliver 0 (parcel 1 2 none none),
      .delivered (.error (.delivery (.tagInUse [1]))), { w' with broker.journal := journal }⟩ := by
  intro w w'
  have owed : (w.take (.deliver 0 (parcel 1 0 (some (.transactional 1 none)) none))).owes 1 =
      [⟨0, [1], some (.transactional 1 (some .accepted)), true⟩] := by decide +kernel
  have course : Course (w.take (.deliver 0 (parcel 1 0 (some (.transactional 1 none)) none))).after _ w' :=
    course_of_run _ _
  have isOpen : w'.broker.active? 1 ≠ none := Option.isSome_iff_ne_none.1 (by decide +kernel)
  obtain ⟨link, journal, hl, h⟩ := tag_in_use_of_course owed rfl
    (fun j a ho => absurd ho (Broker.not_owes (by decide +kernel) j a)) course (by decide +kernel) isOpen
    (show (parcel 1 2 none none).resume = false from rfl) rfl
  have hattached : link.state = .attached := by
    have : (w'.broker.link? 0).map (·.state) = some .attached := by decide +kernel
    rw [hl] at this
    exact Option.some_inj.1 this
  exact ⟨journal, by rw [h, if_pos hattached]; rfl⟩

/-- A delivery whose outcome has no state for the sender is not recorded: its tag is free although it is open. -/
theorem tag_taken_unrecorded :
    let w := (World.new {} ⟨true, ∅, []⟩ {}).after (linked (some [.rejected]))
    let s := w.take (.deliver 0 (parcel 1 0 (some (.transactional 1 none)) none))
    s.takes 0 [1] = true ∧ s.owes 1 = [⟨0, [1], none, true⟩] ∧ (s.after.broker.active? 1).isSome = true ∧
      (s.after.take (.deliver 0 (parcel 1 1 (some (.transactional 1 none)) none))).takes 0 [1] = true := by
  decide +kernel

/-- A disposition owed for a delivery that the sender has settled frees the tag of the delivery that came after it. -/
theorem tag_freed_by_another :
    let w := (World.new {} ⟨true, ∅, []⟩ {}).after (linked none ++
      [.begin, .deliver 0 (parcel 1 0 (some (.transactional 1 none)) none), .disposition 0 [1] true])
    let s := w.take (.deliver 0 (parcel 1 1 (some (.transactional 2 none)) none))
    let w' := s.after.after [.resolve .commit 1]
    s.owes 2 = [⟨0, [1], some (.transactional 2 (some .accepted)), true⟩] ∧ (w'.broker.active? 2).isSome = true ∧
      (w'.take (.deliver 0 (parcel 1 2 (some (.transactional 2 none)) none))).takes 0 [1] = true := by
  decide +kernel

/-! ## Tags that are forgotten -/

/-- **A tag has been forgotten** since `b₀`: if it is on the map again, then by the end of a transaction that owed an
unsettled disposition for it, and nothing is owed for it but what was owed at first. -/
structure Forgotten (b₀ b : Broker) (l : LinkId) (tag : DeliveryTag) : Prop where
  entry : ∀ state, b.unsettled? l tag = some state → ∃ i, b₀.Owes i ⟨l, tag, state, false⟩ ∧ b.debts? i = none
  owes : ∀ i a, b.Owes i a → a.link = l → a.disposition.tag = tag → b₀.Owes i a
  isLink : (b.link? l).isSome = true
  begun : b₀.transactions.length ≤ b.transactions.length

namespace Forgotten

variable {b₀ : Broker} {w w' : World} {l : LinkId} {tag : DeliveryTag}

theorem take (h : Forgotten b₀ w.broker l tag) (e : Event) (none_new : (w.take e).takes l tag = false) :
    Forgotten b₀ (w.take e).after.broker l tag := by
  obtain ⟨ms, hm⟩ := w.marked_take e
  have hclosed : ∀ {i a}, b₀.Owes i a → w.broker.debts? i = none → (w.take e).after.broker.debts? i = none :=
    fun ⟨_, has, _⟩ => hm.stays_closed (Nat.le_trans (Broker.begun_of_open (by rw [has]; simp)) h.begun)
  have hbefore : ∀ state, w.broker.unsettled? l tag = some state →
      ∃ i, b₀.Owes i ⟨l, tag, state, false⟩ ∧ (w.take e).after.broker.debts? i = none := fun state hstate => by
    obtain ⟨i, ho, hc⟩ := h.entry state hstate
    exact ⟨i, ho, hclosed ho hc⟩
  refine ⟨?_, fun i a hi hl ht => ?_, hm.links l h.isLink, Nat.le_trans h.begun hm.begun⟩
  · rw [hm.entry l tag h.isLink]
    refine Mark.foldl_onEntry_induction (P := fun o => ∀ state, o = some state →
      ∃ i, b₀.Owes i ⟨l, tag, state, false⟩ ∧ (w.take e).after.broker.debts? i = none) ms
      (fun m hmem habout o ho => ?_) hbefore
    -- a disposition that is sent leaves its state, if it is not settled, and nothing otherwise
    have hsent : ∀ a : SettlementAction, m = .sent a → ∀ state, m.onEntry l tag o = some state →
        a = ⟨l, tag, state, false⟩ := by
      rintro ⟨k, t, s, settled⟩ rfl state hstate
      obtain ⟨rfl, rfl⟩ := habout
      cases settled with
      | true => simp [Mark.onEntry] at hstate
      | false => simpa [Mark.onEntry] using hstate
    rcases (hm.explained m hmem).about habout none_new with
      ⟨d, outcome, settled, -, hmark, stood⟩ | ⟨i, a, hmark, hl, ht, ho, ended⟩ | ⟨kept, hmark, hkept, -⟩
    · intro state hstate
      cases hsent _ hmark state hstate
      exact hbefore _ stood
    · intro state hstate
      cases hsent _ hmark state hstate
      exact ⟨i, h.owes i _ ho hl ht, ended⟩
    · intro state hstate
      rw [hmark, Mark.onEntry, if_pos ⟨rfl, hkept⟩] at hstate
      cases hstate
  · rcases hm.owes hi with ho | taken
    · exact h.owes i a ho hl ht
    · rw [hl, ht, none_new] at taken
      cases taken

theorem of_course {past : List Step} (course : Course w past w') (h : Forgotten b₀ w.broker l tag)
    (none_new : ∀ s ∈ past, s.takes l tag = false) : Forgotten b₀ w'.broker l tag := by
  induction course with
  | start => exact h
  | @event past w1 course e ih =>
    exact (ih fun s hs => none_new s (List.mem_append_left _ hs)).take e
      (none_new _ (List.mem_append_right _ List.mem_cons_self))
  | @handed past w1 course k r ih =>
    have h1 := ih none_new
    have hq := Broker.settles_setReceiver w1.broker k r
    refine ⟨fun state hstate => ?_, fun i a hi => ?_, ?_, Nat.le_trans h1.begun hq.begun⟩
    · obtain ⟨i, ho, hc⟩ := h1.entry state ((hq.unsettled?_of_quiet l tag).symm.trans hstate)
      exact ⟨i, ho, (hq.debts i).trans hc⟩
    · rcases hq.owes hi with hi | hm
      · exact h1.owes i a hi
      · cases hm
    · have hear := congrArg Option.isSome (hq.ears l)
      unfold Broker.ear? at hear
      rw [Option.isSome_map, Option.isSome_map] at hear
      exact hear.trans h1.isLink

end Forgotten

/-- **A tag that was forgotten stays forgotten** until a new delivery under it is processed, whatever else happens, but
for one thing: if a transaction was open that owed an unsettled disposition for it, its end sends that and puts the tag
on the map again. -/
theorem forgotten_of_course {w w' : World} {e : Event} {l : LinkId} {tag : DeliveryTag} {past : List Step}
    (isLink : (w.broker.link? l).isSome = true) (forgets : (w.take e).forgets l tag = true)
    (course : Course (w.take e).after past w') (none_new : ∀ s ∈ past, s.takes l tag = false) :
    (w.take e).after.broker.unsettled? l tag = none ∧ ∀ state, w'.broker.unsettled? l tag = some state →
      ∃ i, (w.take e).after.broker.Owes i ⟨l, tag, state, false⟩ ∧ w'.broker.active? i = none := by
  obtain ⟨ms, hm⟩ := w.marked_take e
  obtain ⟨kept, rfl, hkept⟩ := hm.forgets l tag forgets
  have hnone : (w.take e).after.broker.unsettled? l tag = none := by
    rw [hm.entry l tag isLink]
    exact if_pos ⟨rfl, hkept⟩
  refine ⟨hnone, fun state hstate => ?_⟩
  have h : Forgotten (w.take e).after.broker (w.take e).after.broker l tag :=
    ⟨fun _ h => (by rw [hnone] at h; cases h), fun _ _ hi _ _ => hi, hm.links l isLink, Nat.le_refl _⟩
  obtain ⟨i, ho, hc⟩ := (h.of_course course none_new).entry state hstate
  exact ⟨i, ho, Broker.debts?_eq_none.1 hc⟩

/-- A delivery is recorded and settled by its sender; a transaction that ends afterwards leaves its tag alone. -/
theorem forgotten_meanwhile :
    let w := (World.new {} ⟨true, ∅, []⟩ {}).after (linked none ++ [.deliver 0 (parcel 1 0 none (some .second))])
    let w' := (w.take (.disposition 0 [1] true)).after.after
      [.deliver 0 (parcel 2 1 (some (.transactional 1 none)) none), .resolve .commit 1]
    w.broker.unsettled? 0 [1] = some (some (.final .accepted)) ∧ w'.broker.unsettled? 0 [1] = none := by
  intro w w'
  have forgets : (w.take (.disposition 0 [1] true)).forgets 0 [1] = true := by decide +kernel
  have course : Course (w.take (.disposition 0 [1] true)).after _ w' := course_of_run _ _
  obtain ⟨-, h⟩ := forgotten_of_course (by decide +kernel) forgets course (by decide +kernel)
  refine ⟨by decide +kernel, Option.eq_none_iff_forall_not_mem.2 fun state hstate => ?_⟩
  obtain ⟨i, ho, -⟩ := h state hstate
  exact Broker.not_owes (by decide +kernel) i _ ho

/-- The sender has settled a delivery; the end of its transaction puts its tag on the map again. -/
theorem forgotten_tag_returns :
    let w := (World.new {} ⟨true, ∅, []⟩ {}).after (linked none ++
      [.deliver 0 (parcel 1 0 (some (.transactional 1 none)) (some .second))])
    let s := w.take (.disposition 0 [1] true)
    w.broker.unsettled? 0 [1] = some (some (.transactional 1 (some .accepted))) ∧ s.forgets 0 [1] = true ∧
      s.after.broker.unsettled? 0 [1] = none ∧ (s.after.take (.resolve .commit 1)).takes 0 [1] = false ∧
      (s.after.take (.resolve .commit 1)).after.broker.unsettled? 0 [1] =
        some (some (.transactional 1 (some .accepted))) := by
  decide +kernel

end MessageBroker
