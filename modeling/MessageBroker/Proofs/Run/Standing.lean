import MessageBroker.Proofs.Run.Tags
/-!
# Unsettled deliveries are what the history leaves standing

On a link whose deliveries are all outside transactions, a delivery is unsettled just if the last disposition that was
sent for it says so and the link has not forgotten it since, and it stands as that disposition says
(`recalls_of_course`).  A delivery that is resumed is sent that disposition once more, if it is of an outcome.
-/
namespace MessageBroker

open Broker

namespace Step

/-- The disposition that is sent on a link in this step, for a delivery outside transactions. -/
def disposition? (s : Step) (l : LinkId) : Option Disposition :=
  match s.event, s.answer with
  | .deliver k d, .delivered (.ok ()) =>
    if k ≠ l then none
    else if d.resume then do
      let link ← s.before.broker.link? l
      let state ← link.unsettled.state? d.tag
      pure ⟨d.tag, state, link.settlesFirst d.settleMode⟩
    else (s.before.broker.verdict? l d).map (·.action.disposition)
  | _, _ => none

/-- What is left of a delivery after this step. -/
def leaves (s : Step) (l : LinkId) (tag : DeliveryTag) (e : Option (Option DeliveryState)) :
    Option (Option DeliveryState) :=
  match s.disposition? l with
  | some d => (Mark.sent ⟨l, d⟩).onEntry l tag e
  | none => if s.forgets l tag then none else e

theorem disposition?_of_others {s : Step} {l : LinkId} (h : ∀ d, s.event ≠ .deliver l d) : s.disposition? l = none := by
  unfold disposition?
  split
  · rename_i k d he _
    exact if_pos fun hk : k = l => h d (hk ▸ he)
  · rfl

/-- A step in which a disposition is sent for a delivery is no step in which deliveries are forgotten. -/
theorem not_forgets_of_disposition? {s : Step} {l : LinkId} {d : Disposition} (h : s.disposition? l = some d)
    (k : LinkId) (tag : DeliveryTag) : s.forgets k tag = false := by
  unfold disposition? at h
  split at h
  · rename_i he _
    unfold forgets
    rw [he]
  · cases h

end Step

/-- **A delivery stands** in this state: the last disposition that was sent for it was unsettled and gave the state, and
the link has not forgotten it since. -/
def Standing (past : List Step) (l : LinkId) (tag : DeliveryTag) (state : Option DeliveryState) : Prop :=
  ∃ pre s post, past = pre ++ s :: post ∧ s.disposition? l = some ⟨tag, state, false⟩ ∧
    ∀ s' ∈ post, (∀ d, s'.disposition? l = some d → d.tag ≠ tag) ∧ s'.forgets l tag = false

/-- **The last step that is about a delivery decides** how it stands. -/
theorem standing_append {past : List Step} {s : Step} {l : LinkId} {tag : DeliveryTag} {state : Option DeliveryState} :
    Standing (past ++ [s]) l tag state ↔ s.disposition? l = some ⟨tag, state, false⟩ ∨
      Standing past l tag state ∧ (∀ d, s.disposition? l = some d → d.tag ≠ tag) ∧ s.forgets l tag = false := by
  constructor
  · rintro ⟨pre, s', post, hpast, hs', hpost⟩
    rcases List.eq_nil_or_concat post with rfl | ⟨post', z, rfl⟩
    · obtain ⟨-, hs⟩ := List.append_inj' hpast rfl
      cases hs
      exact .inl hs'
    · rw [List.concat_eq_append, ← List.cons_append, ← List.append_assoc] at hpast
      obtain ⟨rfl, hs⟩ := List.append_inj' hpast rfl
      cases hs
      refine .inr ⟨⟨pre, s', post', rfl, hs', fun s'' h => hpost s'' (by simp [h])⟩, hpost s (by simp)⟩
  · rintro (hs | ⟨⟨pre, s', post, rfl, hs', hpost⟩, hd, hf⟩)
    · exact ⟨past, s, [], rfl, hs, fun s' h => by cases h⟩
    · refine ⟨pre, s', post ++ [s], by simp, hs', fun s'' h => ?_⟩
      rcases List.mem_append.1 h with h | h
      · exact hpost s'' h
      · rw [List.mem_singleton.1 h]
        exact ⟨hd, hf⟩

namespace World

variable {w : World} {l : LinkId}

/-- **What receiving a delivery outside transactions does** is to send its disposition, if it has one. -/
theorem settles_deliver (w : World) (l : LinkId) {d : Delivery} (outside : d.transaction? = none) :
    Settles w.broker (w.take (.deliver l d)).after.broker
      (((w.take (.deliver l d)).disposition? l).toList.map fun x => .sent ⟨l, x⟩) := by
  unfold take step Step.disposition?
  cases hl : w.broker.link? l with
  | none =>
    simp only [hl]
    exact .refl _
  | some link =>
    simp only [hl]
    have h := reception_receive hl d
    generalize w.broker.receive l link d = o at h ⊢
    have hinside : ∀ {v i}, w.broker.verdict? l d = some v → v.transaction ≠ .inside i := fun hv hi => by
      have hid := (fixes_of_verdict? hv).1
      rw [outside, hi] at hid
      cases hid
    cases h with
    | failed meddled h =>
      rcases meddled with rfl | ⟨i, hi, -⟩
      · exact h
      · rw [outside] at hi
        cases hi
    | @resumed b' o resumes stood h =>
      have hstate : link.unsettled.state? d.tag = some (some (.final o)) := by
        rw [unsettled?, hl] at stood
        exact stood
      simpa [resumes, hl, hstate] using h
    | @answered b' v new free decided _ h =>
      obtain ⟨-, _, _, _, _, _, _, _, _, ha⟩ := fixes_of_verdict? decided
      have haction : (⟨l, v.action.disposition⟩ : SettlementAction) = v.action := by rw [ha]
      simpa [new, decided, haction] using h
    | owed new free decided inside => exact absurd inside (hinside decided)
    | overtaken new free decided inside => exact absurd inside (hinside decided)

/-- What else happens on a link to which nothing is owed can only be that it forgets a delivery. -/
theorem others_on_link {e : Event} {ms : List Mark} (hm : (w.take e).Marked ms) (hne : ∀ d, e ≠ .deliver l d)
    (alone : ∀ i a, w.broker.Owes i a → a.link ≠ l) {m : Mark} (hmem : m ∈ ms) {tag : DeliveryTag}
    (about : m.About l tag) : (∃ kept, m = .forgotten l kept) ∧ (w.take e).forgets l tag = true := by
  have untaken : (w.take e).takes l tag = false := Step.takes_eq_false (fun d => hne d) tag
  rcases (hm.explained m hmem).about about untaken with
    ⟨d, _, _, he, -, -⟩ | ⟨i, a, -, hl, -, ho, -⟩ | ⟨kept, hmark, -, hf⟩
  · exact absurd he (hne d)
  · exact absurd hl (alone i a ho)
  · exact ⟨⟨kept, hmark⟩, hf⟩

/-- **What a step makes of a delivery** on a link to which nothing is owed. -/
theorem unsettled?_take (alone : ∀ i a, w.broker.Owes i a → a.link ≠ l) (e : Event)
    (outside : ∀ d, e = .deliver l d → d.transaction? = none) (tag : DeliveryTag) :
    (w.take e).after.broker.unsettled? l tag = (w.take e).leaves l tag (w.broker.unsettled? l tag) := by
  obtain ⟨ms, hm⟩ := w.marked_take e
  by_cases hdeliver : ∃ d, e = .deliver l d
  · obtain ⟨d, rfl⟩ := hdeliver
    have h := w.settles_deliver l (outside d rfl)
    have hforgets : (w.take (.deliver l d)).forgets l tag = false := rfl
    unfold Step.leaves
    cases hl : w.broker.link? l with
    | none =>
      have hnone : (w.take (.deliver l d)).disposition? l = none := by
        simp [Step.disposition?, take, step, hl]
      rw [hnone, hforgets, if_neg Bool.false_ne_true, hm.fresh l tag hl, unsettled?, hl]
      rfl
    | some link =>
      rw [h.unsettled? (by rw [hl]; rfl) tag]
      cases (w.take (.deliver l d)).disposition? l with
      | none => rfl
      | some x => rfl
  · have hne : ∀ d, e ≠ .deliver l d := fun d he => hdeliver ⟨d, he⟩
    have hothers : ∀ m ∈ ms, m.About l tag → (w.take e).forgets l tag = true := fun m hmem about =>
      (others_on_link hm hne alone hmem about).2
    unfold Step.leaves
    rw [Step.disposition?_of_others hne]
    cases hl : w.broker.link? l with
    | none =>
      have hnone : w.broker.unsettled? l tag = none := by rw [unsettled?, hl]; rfl
      simp [hm.fresh l tag hl, hnone]
    | some link =>
      cases hf : (w.take e).forgets l tag with
      | true =>
        obtain ⟨kept, rfl, hkept⟩ := hm.forgets l tag hf
        rw [hm.entry l tag (by rw [show (w.take e).before.broker.link? l = _ from hl]; rfl)]
        exact if_pos ⟨rfl, hkept⟩
      | false =>
        rw [hm.entry l tag (by rw [show (w.take e).before.broker.link? l = _ from hl]; rfl),
          Mark.foldl_onEntry_of_others fun m hmem habout => ?_]
        · rfl
        · rw [hothers m hmem habout] at hf
          cases hf

/-- **What goes out over a link** to which nothing is owed is the disposition of the step, if someone takes it. -/
theorem outbox_take (alone : ∀ i a, w.broker.Owes i a → a.link ≠ l) (e : Event)
    (outside : ∀ d, e = .deliver l d → d.transaction? = none) :
    (w.take e).after.broker.outbox.filter (·.1 == l) = w.broker.outbox.filter (·.1 == l) ++
      if w.broker.ear? l = some true then ((w.take e).disposition? l).toList.map (l, ·) else [] := by
  by_cases hdeliver : ∃ d, e = .deliver l d
  · obtain ⟨d, rfl⟩ := hdeliver
    rw [(w.settles_deliver l (outside d rfl)).outbox, List.filter_append]
    refine congrArg _ ?_
    cases (w.take (.deliver l d)).disposition? l with
    | none => simp [letters]
    | some x =>
      have hheard : w.broker.heard ⟨l, x⟩ = decide (w.broker.ear? l = some true) := by
        unfold heard
        cases w.broker.ear? l with
        | none => rfl
        | some open' => cases open' <;> rfl
      by_cases hear : w.broker.ear? l = some true <;> simp [letters, Mark.sent?, hheard, hear]
  · have hne : ∀ d, e ≠ .deliver l d := fun d he => hdeliver ⟨d, he⟩
    obtain ⟨ms, hm⟩ := w.marked_take e
    rw [hm.outbox, List.filter_append, Step.disposition?_of_others hne]
    have hothers : (w.broker.letters (ms.filterMap Mark.sent?)).filter (·.1 == l) = [] := by
      refine List.filter_eq_nil_iff.2 fun x hx => ?_
      obtain ⟨a, ha, rfl⟩ := List.mem_map.1 hx
      obtain ⟨m, hmem, hsent⟩ := List.mem_filterMap.1 (List.mem_filter.1 ha).1
      have hm' : m = .sent a := by
        cases m <;> cases hsent
        rfl
      intro hlink
      have about : m.About l a.disposition.tag := hm' ▸ ⟨beq_iff_eq.1 hlink, rfl⟩
      obtain ⟨⟨kept, hforgotten⟩, -⟩ := others_on_link hm hne alone hmem about
      cases hm'.symm.trans hforgotten
    rw [show (w.take e).before.broker = w.broker from rfl, hothers]
    simp

/-- A delivery that is received outside transactions leaves nothing owed that was not owed before. -/
theorem alone_take (alone : ∀ i a, w.broker.Owes i a → a.link ≠ l) (e : Event)
    (outside : ∀ d, e = .deliver l d → d.transaction? = none) {i : TransactionId} {a : SettlementAction}
    (ha : (w.take e).after.broker.Owes i a) : a.link ≠ l := by
  by_cases hdeliver : ∃ d, e = .deliver l d
  · obtain ⟨d, rfl⟩ := hdeliver
    rcases (w.settles_deliver l (outside d rfl)).owes ha with ho | hm
    · exact alone i a ho
    · obtain ⟨x, -, hx⟩ := List.mem_map.1 hm
      cases hx
  · obtain ⟨ms, hm⟩ := w.marked_take e
    rcases hm.owes ha with ho | taken
    · exact alone i a ho
    · intro hl
      rw [hl, Step.takes_eq_false fun d he => hdeliver ⟨d, he⟩] at taken
      cases taken

/-- What the history leaves standing, if a step is added to it. -/
theorem standing_take {past : List Step}
    (h : ∀ tag state, w.broker.unsettled? l tag = some state ↔ Standing past l tag state)
    (alone : ∀ i a, w.broker.Owes i a → a.link ≠ l) (e : Event)
    (outside : ∀ d, e = .deliver l d → d.transaction? = none) (tag : DeliveryTag) (state : Option DeliveryState) :
    (w.take e).after.broker.unsettled? l tag = some state ↔ Standing (past ++ [w.take e]) l tag state := by
  rw [unsettled?_take alone e outside, standing_append, ← h]
  unfold Step.leaves
  cases hd : (w.take e).disposition? l with
  | none => cases (w.take e).forgets l tag <;> simp
  | some d =>
    have hforgets := Step.not_forgets_of_disposition? hd l tag
    obtain ⟨t, s, settled⟩ := d
    by_cases ht : t = tag
    · subst ht
      cases settled <;> simp [Mark.onEntry]
    · simp [Mark.onEntry, ht, hforgets]

/-! ## Deliveries that are resumed -/

/-- **A delivery that is resumed is sent its outcome once more**: of the broker only the links, what goes out and the
journal change. -/
theorem take_resumed {link : Link} {d : Delivery} {o : Outcome} (hl : w.broker.link? l = some link)
    (attached : link.state = .attached) (resumes : d.resume = true)
    (stood : w.broker.unsettled? l d.tag = some (some (.final o))) :
    (w.take (.deliver l d)).disposition? l = some ⟨d.tag, some (.final o), link.settlesFirst d.settleMode⟩ ∧
      ∃ links outbox journal, w.take (.deliver l d) = ⟨w, .deliver l d, .delivered (.ok ()),
        { w with broker := { w.broker with links, outbox, journal } }⟩ := by
  have hstate : link.unsettled.state? d.tag = some (some (.final o)) := by
    rwa [unsettled?, hl] at stood
  let told : Disposition := ⟨d.tag, some (.final o), link.settlesFirst d.settleMode⟩
  have hreceive : w.broker.receive l link d =
      ((w.broker.note (.deliveryResumed link.name d.tag.hex (DeliveryState.final o).display)).sendDisposition l told,
        .ok ()) := by
    simp [receive, ensureAttached, attached, resumes, resumeDelivery, hstate, told]
  have htake : w.take (.deliver l d) = ⟨w, .deliver l d, .delivered (.ok ()),
      { w with broker := (w.broker.note (.deliveryResumed link.name d.tag.hex
        (DeliveryState.final o).display)).sendDisposition l told }⟩ := by
    simp only [take, step, hl, hreceive]
  refine ⟨?_, ?_⟩
  · simp [htake, Step.disposition?, hl, resumes, hstate]
  · rw [htake]
    unfold sendDisposition dispatch
    split
    · exact ⟨_, _, _, rfl⟩
    · simp only
      split <;> exact ⟨_, _, _, rfl⟩

/-- **A delivery without an outcome on record cannot be resumed**, and nothing comes of it. -/
theorem take_not_resumed {link : Link} {d : Delivery} (hl : w.broker.link? l = some link) (resumes : d.resume = true)
    (none_stood : link.state = .attached → ∀ o, w.broker.unsettled? l d.tag ≠ some (some (.final o))) :
    ∃ journal, w.take (.deliver l d) = ⟨w, .deliver l d,
      .delivered (.error (if link.state = .attached then .delivery (.notResumable d.tag)
        else .notAttached link.name link.state)), { w with broker.journal := journal }⟩ := by
  refine ⟨(w.broker.receive l link d).1.journal, ?_⟩
  unfold take step receive ensureAttached
  simp only [hl]
  by_cases hatt : link.state = .attached
  · have hstate : ∀ o, link.unsettled.state? d.tag ≠ some (some (.final o)) := fun o ho => by
      refine none_stood hatt o ?_
      rw [unsettled?, hl]
      exact ho
    have hresume : ∀ b : Broker, b.resumeDelivery l link d.tag (link.settlesFirst d.settleMode) =
        (b, .error (.delivery (.notResumable d.tag))) := fun b => by
      unfold resumeDelivery
      split
      · exact absurd ‹_› (hstate _)
      · rfl
    simp [hatt, resumes, hresume]
  · simp [hatt, note]

end World

/-- **What a link without transactions recalls** is what its history leaves standing. -/
structure Recalls (past : List Step) (w : World) (l : LinkId) : Prop where
  unsettled : ∀ tag state, w.broker.unsettled? l tag = some state ↔ Standing past l tag state
  /-- What the history counts as sent is what goes out, as long as someone takes it. -/
  sent : ∀ e, (∀ d, e = .deliver l d → d.transaction? = none) →
    (w.take e).after.broker.outbox.filter (·.1 == l) = w.broker.outbox.filter (·.1 == l) ++
      if w.broker.ear? l = some true then ((w.take e).disposition? l).toList.map (l, ·) else []
  resumed : ∀ link d o, w.broker.link? l = some link → link.state = .attached → d.resume = true →
    Standing past l d.tag (some (.final o)) →
      (w.take (.deliver l d)).disposition? l = some ⟨d.tag, some (.final o), link.settlesFirst d.settleMode⟩ ∧
        ∃ links outbox journal, w.take (.deliver l d) = ⟨w, .deliver l d, .delivered (.ok ()),
          { w with broker := { w.broker with links, outbox, journal } }⟩
  notResumed : ∀ link d, w.broker.link? l = some link → d.resume = true →
    (link.state = .attached → ∀ o, ¬ Standing past l d.tag (some (.final o))) →
      ∃ journal, w.take (.deliver l d) = ⟨w, .deliver l d,
        .delivered (.error (if link.state = .attached then .delivery (.notResumable d.tag)
          else .notAttached link.name link.state)), { w with broker.journal := journal }⟩

/-- **The unsettled deliveries of a link are what its history leaves standing**, in every course of events in which its
deliveries are outside transactions, whatever else happens and whichever receivers it is handed. -/
theorem recalls_of_course {settings : HostSettings} {store : Store} {principal : Principal} {past : List Step}
    {w : World} (course : Course (World.new settings store principal) past w) {l : LinkId}
    (outside : ∀ s ∈ past, ∀ d, s.event = .deliver l d → d.transaction? = none) : Recalls past w l := by
  suffices h : (∀ tag state, w.broker.unsettled? l tag = some state ↔ Standing past l tag state) ∧
      ∀ i a, w.broker.Owes i a → a.link ≠ l by
    obtain ⟨h, alone⟩ := h
    refine ⟨h, fun e => World.outbox_take alone e, fun link d o hl attached resumes stood => ?_,
      fun link d hl resumes none_stood => ?_⟩
    · exact World.take_resumed hl attached resumes ((h _ _).2 stood)
    · exact World.take_not_resumed hl resumes fun attached o ho => none_stood attached o ((h _ _).1 ho)
  induction course with
  | start =>
    refine ⟨fun tag state => ⟨fun h => (by cases h), fun h => ?_⟩, fun i a => ?_⟩
    · obtain ⟨pre, s, post, hpast, -⟩ := h
      simp at hpast
    · rintro ⟨as, has, -⟩
      simp [Broker.debts?, Broker.account, Broker.active?, Broker.transaction?, World.new, Broker.new] at has
  | @event past w course e ih =>
    obtain ⟨h, alone⟩ := ih fun s hs => outside s (List.mem_append_left _ hs)
    have hout : ∀ d, e = .deliver l d → d.transaction? = none :=
      outside (w.take e) (List.mem_append_right _ List.mem_cons_self)
    exact ⟨World.standing_take h alone e hout, fun i a => World.alone_take alone e hout⟩
  | @handed past w course k r ih =>
    obtain ⟨h, alone⟩ := ih outside
    have hq := Broker.settles_setReceiver w.broker k r
    refine ⟨fun tag state => by rw [← h, ← hq.unsettled?_of_quiet l tag], fun i a ho => ?_⟩
    rcases hq.owes ho with ho | hm
    · exact alone i a ho
    · cases hm

/-- A link is suspended and taken up again: of three deliveries one was settled at once, one the sender has settled, and
the third is sent its outcome once more. -/
theorem recalls_meanwhile :
    let es := [.administer (.createQueue { name := "orders" }), .link "in" { resumeSupported := true } [0] true,
      .attach 0 .plain { target := some (.node { address := some "orders" }) },
      .deliver 0 (parcel 1 0 none none), .deliver 0 (parcel 2 1 none (some .second)),
      .deliver 0 (parcel 3 2 none (some .second)), .disposition 0 [2] true, .detach 0 (some {}),
      .attach 0 .plain { target := some (.node { address := some "orders" }), unsettled := some [[3]] }]
    let w := (World.new {} ⟨true, ∅, []⟩ {}).after es
    [[1], [2], [3]].map (w.broker.unsettled? 0) = [none, none, some (some (.final .accepted))] ∧
      (w.take (.deliver 0 { parcel 3 3 none none with resume := true })).disposition? 0 =
        some ⟨[3], some (.final .accepted), true⟩ := by
  intro es w
  have h : Recalls ((World.new {} ⟨true, ∅, []⟩ {}).history es) w 0 :=
    recalls_of_course (course_of_run _ _) fun s hs d he => by
      have hmem := World.event_of_history hs
      rw [he] at hmem
      simp only [es, List.mem_cons, reduceCtorEq, Event.deliver.injEq, true_and,
        List.not_mem_nil, or_false, false_or] at hmem
      rcases hmem with rfl | rfl | rfl <;> rfl
  have hentries : [[1], [2], [3]].map (w.broker.unsettled? 0) = [none, none, some (some (.final .accepted))] := by
    decide +kernel
  refine ⟨hentries, ?_⟩
  have hlink : (w.broker.link? 0).map (fun x => (x.state, x.settlesFirst none)) = some (.attached, true) := by
    decide +kernel
  obtain ⟨link, hl, heq⟩ := Option.map_eq_some_iff.1 hlink
  obtain ⟨hattached, hfirst⟩ := Prod.mk.inj heq
  have hstood := (h.unsettled [3] (some (.final .accepted))).1 (by decide +kernel)
  obtain ⟨hsent, -⟩ := h.resumed link { parcel 3 3 none none with resume := true } .accepted hl hattached rfl hstood
  rw [hsent, ← hfirst]
  rfl

end MessageBroker
