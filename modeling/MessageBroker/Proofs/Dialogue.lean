import MessageBroker.Proofs.Worker
/-!
# Calls of a worker that goes on

A worker makes its moves wherever they fall between those of a caller, so that a call may find it between a reply and
what follows (`Desk.call`).  How it answers then depends on how the link stands (`Answers`): as the link does when it
is asked itself, but that a transfer may be refused behind a detach which suspends the link; and once the link has
ended, nothing changes any more.  Where each call finds the worker at rest, it answers as it does when it is driven
(`Drives`).
-/
namespace MessageBroker

open Worker (Request Reply ends new gone refusal)

namespace Desk

/-- **How a link stands** with those who call its worker. -/
inductive Standing where
  /-- What is asked for reaches the link. -/
  | serving
  /-- The link was suspended, and transfers may not be let in again yet. -/
  | reopening
  /-- The link has ended.  A transfer is refused at once if it is `closed`, and a disposition is taken, for nothing,
  until the worker has `left` its queue. -/
  | parted (closed left : Bool)

def Standing.live : Standing → Bool
  | .parted .. => false
  | _ => true

/-- **The answer to a call**, and how the link stands then. -/
inductive Answers (l : LinkId) (name : String) (b : Broker) :
    Standing → Request → Except LinkError Reply → Standing → Broker → Prop where
  /-- As the link answers itself. -/
  | served {st : Standing} {link : Link} {r : Request} (live : st.live = true) (found : b.link? l = some link)
      (waits : r.waits = true) (undetached : r.detaches = false) :
      Answers l name b st r (b.ask l link r).2 .serving (b.ask l link r).1
  /-- The caller does not wait for a disposition to reach the link. -/
  | noted {st : Standing} {link : Link} {tag : DeliveryTag} {settled : Bool} (live : st.live = true)
      (found : b.link? l = some link) :
      Answers l name b st (.disposition tag settled) (.ok .done) st (b.ask l link (.disposition tag settled)).1
  | suspended {st : Standing} {link : Link} {d : Option Detach} (live : st.live = true) (found : b.link? l = some link)
      (lasts : ends (b.ask l link (.detach d)).2 = false) :
      Answers l name b st (.detach d) (b.ask l link (.detach d)).2 .reopening (b.ask l link (.detach d)).1
  /-- Transfers may be let in behind the last detach if it was asked for before they were let in again. -/
  | parted {st : Standing} {link : Link} {d : Option Detach} {closed : Bool} (live : st.live = true)
      (found : b.link? l = some link) (last : ends (b.ask l link (.detach d)).2 = true)
      (overtaken : closed = false → st = .reopening) :
      Answers l name b st (.detach d) (b.ask l link (.detach d)).2 (.parted closed false) (b.ask l link (.detach d)).1
  | early {d : Delivery} :
      Answers l name b .reopening (.transfer d) (.error (.notAttached name .detaching)) .reopening b
  | barred {left : Bool} {d : Delivery} :
      Answers l name b (.parted true left) (.transfer d) (.error (.notAttached name .detaching)) (.parted true left) b
  | taken {closed : Bool} {tag : DeliveryTag} {settled : Bool} :
      Answers l name b (.parted closed false) (.disposition tag settled) (.ok .done) (.parted closed false) b
  | missed {closed left : Bool} {r : Request} (admitted : r.transfers = true → closed = false) :
      Answers l name b (.parted closed left) r (.error (.workerStopped name)) (.parted (closed || r.detaches) true) b

/-- **One call after the other**, each with its answer. -/
inductive Dialogue (l : LinkId) (name : String) :
    Standing → Broker → List (Request × Except LinkError Reply) → Standing → Broker → Prop where
  | nil {st : Standing} {b : Broker} : Dialogue l name st b [] st b
  | cons {st st' st'' : Standing} {b b' b'' : Broker} {r : Request} {reply : Except LinkError Reply}
      {others : List (Request × Except LinkError Reply)} (first : Answers l name b st r reply st' b')
      (rest : Dialogue l name st' b' others st'' b'') : Dialogue l name st b ((r, reply) :: others) st'' b''

/-- What a worker that has left its queue answers. -/
theorem Answers.gone {l : LinkId} {name : String} {b b' : Broker} {r : Request} {reply : Except LinkError Reply}
    {st : Standing} (h : Answers l name b (.parted true true) r reply st b') :
    reply = .error (refusal name r) ∧ st = .parted true true := by
  cases h with
  | barred => exact ⟨rfl, rfl⟩
  | missed admitted =>
    cases r with
    | transfer d => cases admitted rfl
    | _ => exact ⟨rfl, rfl⟩
  | _ => contradiction

/-- Whether the worker has nothing to do. -/
def Rests (s : Desk) : Prop := s.worker.phase = .waiting ∧ s.queue = [] ∨ s.worker.phase = .stopped

instance (s : Desk) : Decidable s.Rests :=
  inferInstanceAs (Decidable (s.worker.phase = .waiting ∧ s.queue = [] ∨ s.worker.phase = .stopped))

/-- The desk when the worker has come to the end of its queue. -/
def rest (s : Desk) : Desk := s.after (s.queue.length + 1)

/-- Each call finds the worker at rest. -/
def Quiet (s : Desk) : List Turn → Prop
  | [] => True
  | t :: ts => (s.after t.early).Rests ∧ (s.call t).1.Quiet ts

instance decidableQuiet : (s : Desk) → (ts : List Turn) → Decidable (s.Quiet ts)
  | _, [] => .isTrue trivial
  | s, t :: ts =>
    have := decidableQuiet (s.call t).1 ts
    inferInstanceAs (Decidable ((s.after t.early).Rests ∧ (s.call t).1.Quiet ts))

variable {s : Desk} {b : Broker} {l : LinkId} {name : String} {st : Standing} {r : Request}

/-- **A worker that serves its link**, which is to come to `b` with what is in the queue. -/
structure Serves (l : LinkId) (name : String) (b : Broker) (s : Desk) : Prop where
  own : s.worker.link = l
  named : s.worker.name = name
  running : s.worker.phase = .waiting ∨ s.worker.phase = .suspended
  silent : ∀ r ∈ s.queue, r.waits = false
  found : (s.broker.link? l).isSome = true
  comes : (s.broker.askAll l s.queue).1 = b

/-- **A worker that is done with its link.** -/
structure Parts (l : LinkId) (name : String) (closed left : Bool) (b : Broker) (s : Desk) : Prop where
  own : s.worker.link = l
  named : s.worker.name = name
  flag : s.worker.detaching = closed
  finished : s.worker.phase = .stopped ∨ s.worker.phase = .leaving ∧ left = false
  stays : s.broker = b
  windUp : Worker.windUp b l = b

/-- **How a desk stands** between two calls. -/
inductive Meets (l : LinkId) (name : String) (b : Broker) (s : Desk) : Standing → Prop where
  | serving (serves : s.Serves l name b) (waits : s.worker.phase = .waiting) (clear : s.worker.detaching = false) :
      Meets l name b s .serving
  | reopening (serves : s.Serves l name b) (shut : s.worker.detaching = true → s.worker.phase = .suspended) :
      Meets l name b s .reopening
  | parted {closed left : Bool} (parts : s.Parts l name closed left b) : Meets l name b s (.parted closed left)

/-- What a worker may have become without a reply: it may have let transfers in again. -/
def Reopened (l : LinkId) (name : String) (w w' : Worker) : Prop :=
  w' = w ∨ w.phase = .suspended ∧ w' = new l name

/-! ## The moves of the worker -/

theorem Reopened.trans {w w' w'' : Worker} (h : Reopened l name w w') (h' : Reopened l name w' w'') :
    Reopened l name w w'' := by
  rcases h with rfl | ⟨suspended, rfl⟩
  · exact h'
  · rcases h' with rfl | ⟨-, rfl⟩
    · exact .inr ⟨suspended, rfl⟩
    · exact .inr ⟨suspended, rfl⟩

/-- A worker that waits has nothing to let in again. -/
theorem Reopened.eq_of_waits {w w' : Worker} (h : Reopened l name w w') (waits : w.phase = .waiting) : w' = w :=
  h.resolve_right fun reopened => by
    rw [waits] at reopened
    cases reopened.1

theorem undetached_of_silent {r : Request} (silent : r.waits = false) : r.detaches = false := by
  cases r with
  | disposition tag settled => rfl
  | _ => cases silent

/-- A move of a worker that serves its link handles a disposition, or lets transfers in again. -/
theorem Serves.move (h : s.Serves l name b) :
    s.move.Serves l name b ∧ Reopened l name s.worker s.move.worker := by
  obtain ⟨⟨l', name', flag, phase⟩, broker, queue⟩ := s
  obtain ⟨rfl, rfl, running, silent, found, comes⟩ := h
  cases phase with
  | waiting =>
    cases queue with
    | nil => exact ⟨⟨rfl, rfl, running, silent, found, comes⟩, .inl rfl⟩
    | cons r queue =>
      obtain ⟨hr, hqueue⟩ := List.forall_mem_cons.1 silent
      obtain ⟨link, hlink⟩ := Option.isSome_iff_exists.1 found
      have hanswer := Worker.answer_eq (w := ⟨l', name', flag, .waiting⟩) rfl hlink r
      rw [(Worker.told_ask broker l' link (undetached_of_silent hr) _).2.1] at hanswer
      rw [Broker.askAll_cons hlink] at comes
      simp only [Desk.move, hanswer]
      exact ⟨⟨rfl, rfl, running, hqueue, Broker.isSome_ask hlink r, comes⟩, .inl rfl⟩
  | suspended => exact ⟨⟨rfl, rfl, .inl rfl, silent, found, comes⟩, .inr ⟨rfl, rfl⟩⟩
  | leaving => rcases running with h | h <;> cases h
  | stopped => rcases running with h | h <;> cases h

theorem Serves.after (h : s.Serves l name b) (n : Nat) :
    (s.after n).Serves l name b ∧ Reopened l name s.worker (s.after n).worker := by
  induction n generalizing s with
  | zero => exact ⟨h, .inl rfl⟩
  | succ n ih =>
    obtain ⟨hmove, hworker⟩ := h.move
    obtain ⟨hafter, hrest⟩ := ih hmove
    exact ⟨hafter, hworker.trans hrest⟩

/-- A worker that waits comes to the end of its queue. -/
theorem Serves.queue_after (h : s.Serves l name b) (waits : s.worker.phase = .waiting) {n : Nat}
    (enough : s.queue.length ≤ n) : (s.after n).worker.phase = .waiting ∧ (s.after n).queue = [] := by
  induction n generalizing s with
  | zero => exact ⟨waits, List.length_eq_zero_iff.1 (Nat.le_zero.1 enough)⟩
  | succ n ih =>
    obtain ⟨hmove, hworker⟩ := h.move
    refine ih hmove ((congrArg Worker.phase (hworker.eq_of_waits waits)).trans waits) ?_
    unfold Desk.move
    rw [waits]
    cases hqueue : s.queue with
    | nil => simp only [hqueue, List.length_nil, Nat.zero_le]
    | cons r queue =>
      rw [hqueue] at enough
      exact Nat.le_of_succ_le_succ enough

/-- **A worker that serves its link comes to rest**, and the link to what it was to come to. -/
theorem Serves.rest (h : s.Serves l name b) :
    s.rest.worker.phase = .waiting ∧ s.rest.queue = [] ∧ s.rest.broker = b := by
  -- to let transfers in again takes one move more
  have hend : s.rest.worker.phase = .waiting ∧ s.rest.queue = [] := by
    rcases h.running with waits | suspended
    · exact h.queue_after waits (Nat.le_succ _)
    · have hmove : s.move.worker.phase = .waiting ∧ s.move.queue = s.queue := by
        unfold Desk.move
        rw [suspended]
        simp only [Worker.settle, suspended, and_self]
      exact h.move.1.queue_after hmove.1 (Nat.le_of_eq (congrArg _ hmove.2))
  have comes := (h.after (s.queue.length + 1)).1.comes
  rw [show (s.after (s.queue.length + 1)).queue = [] from hend.2] at comes
  exact ⟨hend.1, hend.2, comes⟩

theorem Parts.stopped {closed : Bool} (h : s.Parts l name closed true b) : s.worker.phase = .stopped :=
  h.finished.resolve_right fun leaving => nomatch leaving.2

theorem Parts.weaken {closed left : Bool} (h : s.Parts l name closed true b) : s.Parts l name closed left b :=
  ⟨h.own, h.named, h.flag, .inl h.stopped, h.stays, h.windUp⟩

/-- A worker that is done with its link leaves its queue. -/
theorem Parts.move {closed left : Bool} (h : s.Parts l name closed left b) : s.move.Parts l name closed true b := by
  obtain ⟨⟨l', name', flag, phase⟩, broker, queue⟩ := s
  obtain ⟨rfl, rfl, hflag, finished, rfl, windUp⟩ := h
  cases phase with
  | leaving => exact ⟨rfl, rfl, hflag, .inl rfl, windUp, windUp⟩
  | stopped => exact ⟨rfl, rfl, hflag, .inl rfl, rfl, windUp⟩
  | waiting => rcases finished with h | ⟨h, -⟩ <;> cases h
  | suspended => rcases finished with h | ⟨h, -⟩ <;> cases h

theorem Parts.after {closed left : Bool} (h : s.Parts l name closed left b) (n : Nat) :
    (s.after n).Parts l name closed left b := by
  induction n generalizing s with
  | zero => exact h
  | succ n ih => exact ih h.move.weaken

theorem Parts.rest {closed left : Bool} (h : s.Parts l name closed left b) : s.rest.Parts l name closed true b :=
  h.move.after s.queue.length

/-- **The moves of the worker do not change how it stands.** -/
theorem Meets.after (h : s.Meets l name b st) (n : Nat) : (s.after n).Meets l name b st := by
  cases h with
  | serving serves waits clear =>
    obtain ⟨hafter, hworker⟩ := serves.after n
    have hsame := hworker.eq_of_waits waits
    exact .serving hafter (hsame ▸ waits) (hsame ▸ clear)
  | reopening serves shut =>
    obtain ⟨hafter, hworker | ⟨-, hworker⟩⟩ := serves.after n
    · exact .reopening hafter (hworker ▸ shut)
    · exact .reopening hafter (by rw [hworker]; exact nofun)
  | parted parts => exact .parted (parts.after n)

/-- **A worker comes to rest**, and the broker to what it was to come to. -/
theorem Meets.rest (h : s.Meets l name b st) : s.rest.Rests ∧ s.rest.broker = b := by
  cases h with
  | serving serves waits clear => exact ⟨.inl ⟨serves.rest.1, serves.rest.2.1⟩, serves.rest.2.2⟩
  | reopening serves shut => exact ⟨.inl ⟨serves.rest.1, serves.rest.2.1⟩, serves.rest.2.2⟩
  | parted parts => exact ⟨.inr parts.rest.stopped, parts.rest.stays⟩

/-! ## One call -/

/-- A worker that waits answers a request when it comes to the end of its queue. -/
theorem await_waiting {w : Worker} (own : w.link = l) (waits : w.phase = .waiting) (r : Request) {queue : List Request}
    (silent : ∀ r ∈ queue, r.waits = false) (found : (b.link? l).isSome = true) :
    ∃ link, (b.askAll l queue).1.link? l = some link ∧ await w b r queue =
      (⟨w.replied ((b.askAll l queue).1.ask l link r).2, ((b.askAll l queue).1.ask l link r).1, []⟩,
        ((b.askAll l queue).1.ask l link r).2) := by
  have running : w.phase ≠ .stopped := by
    rw [waits]
    decide
  induction queue generalizing b with
  | nil =>
    obtain ⟨link, hlink⟩ := Option.isSome_iff_exists.1 found
    refine ⟨link, hlink, ?_⟩
    simp only [await, Worker.next, Worker.settle_waiting waits, if_neg running, Worker.answer_eq own hlink]
    rfl
  | cons first queue ih =>
    obtain ⟨hfirst, hqueue⟩ := List.forall_mem_cons.1 silent
    obtain ⟨link, hlink⟩ := Option.isSome_iff_exists.1 found
    obtain ⟨link', hlink', hawait⟩ := ih hqueue (Broker.isSome_ask hlink first)
    have hreplied := (Worker.told_ask b l link (undetached_of_silent hfirst) w).2.1
    rw [Broker.askAll_cons hlink]
    refine ⟨link', hlink', ?_⟩
    simp only [await, Worker.next, Worker.settle_waiting waits, if_neg running, Worker.answer_eq own hlink, hreplied,
      hawait]

theorem Serves.post_eq (h : s.Serves l name b) : s.worker.post = .ok () := by
  unfold Worker.post
  rcases h.running with waits | suspended
  · rw [waits]
    rfl
  · rw [suspended]
    rfl

/-- **A request reaches the link** behind what is in the queue, when transfers are let in again. -/
theorem Serves.await_eq (h : s.Serves l name b) (r : Request) :
    ∃ awake link, Reopened l name s.worker awake ∧ awake.phase = .waiting ∧ b.link? l = some link ∧
      await s.worker s.broker r s.queue =
        (⟨awake.replied (b.ask l link r).2, (b.ask l link r).1, []⟩, (b.ask l link r).2) := by
  have hcomes := h.comes
  subst hcomes
  rcases h.running with waits | suspended
  · obtain ⟨link, hlink, hawait⟩ := await_waiting h.own waits r h.silent h.found
    exact ⟨s.worker, link, .inl rfl, waits, hlink, hawait⟩
  · have hnext : ∀ b r, s.worker.next b r = (new l name).next b r := fun b r => by
      simp only [Worker.next, Worker.settle, suspended, ← h.own, ← h.named]
      rfl
    have hsame : await s.worker s.broker r s.queue = await (new l name) s.broker r s.queue := by
      cases s.queue <;> simp only [await, hnext]
    obtain ⟨link, hlink, hawait⟩ := await_waiting (w := new l name) rfl rfl r h.silent h.found
    exact ⟨new l name, link, .inr ⟨suspended, rfl⟩, rfl, hlink, hsame.trans hawait⟩

theorem missed_eq (r : Request) (named : s.worker.name = name) :
    s.worker.missed r = if r.waits then .error (.workerStopped name) else .ok .done := by
  rw [← named]
  rfl

/-- A worker that is done with its link misses what it comes to. -/
theorem Parts.next_eq {closed left : Bool} (h : s.Parts l name closed left b) (r : Request) :
    ∃ w, s.worker.next s.broker r = (w, b, s.worker.missed r) ∧
      ∀ queue, (⟨w, b, queue⟩ : Desk).Parts l name closed true b := by
  obtain ⟨⟨l', name', flag, phase⟩, broker, queue⟩ := s
  obtain ⟨rfl, rfl, hflag, finished, rfl, windUp⟩ := h
  refine ⟨⟨l', name', flag, .stopped⟩, ?_, fun queue => ⟨rfl, rfl, hflag, .inl rfl, rfl, windUp⟩⟩
  rcases finished with finished | ⟨finished, -⟩
  · dsimp only at finished
    subst finished
    rfl
  · dsimp only at finished windUp
    subst finished
    simp only [Worker.next, Worker.settle, windUp, if_true]
    rfl

/-- **A request is missed** by a worker that is done with its link. -/
theorem Parts.await_eq {closed left : Bool} (h : s.Parts l name closed left b) (r : Request) :
    (await s.worker s.broker r s.queue).2 = s.worker.missed r ∧
      (await s.worker s.broker r s.queue).1.Parts l name closed true b := by
  obtain ⟨w, broker, queue⟩ := s
  induction queue generalizing w broker left with
  | nil =>
    obtain ⟨w', hnext, hparts⟩ := h.next_eq r
    simp only [await, hnext]
    exact ⟨trivial, hparts []⟩
  | cons first queue ih =>
    obtain ⟨w', hnext, hparts⟩ := h.next_eq first
    obtain ⟨hreply, hdesk⟩ := ih w' b (hparts queue)
    simp only [await, hnext]
    refine ⟨hreply.trans ?_, hdesk⟩
    rw [missed_eq (s := ⟨w', b, queue⟩) r (hparts queue).named, missed_eq (s := ⟨w, broker, first :: queue⟩) r h.named]

/-- **A request that was let in** is answered by the link, when transfers are let in again. -/
theorem Serves.submit_waits (h : s.Serves l name b) (waits : r.waits = true) :
    ∃ awake link, Reopened l name s.worker awake ∧ awake.phase = .waiting ∧ b.link? l = some link ∧
      s.submit r =
        (⟨awake.replied (b.ask l link r).2, (b.ask l link r).1, []⟩, (b.ask l link r).2) := by
  obtain ⟨awake, link, hawake, hwaits, hlink, hawait⟩ := h.await_eq r
  refine ⟨awake, link, hawake, hwaits, hlink, ?_⟩
  unfold submit
  rw [h.post_eq]
  simp only [waits, if_true, hawait]

/-- A disposition is posted, and takes effect when the worker comes to it. -/
theorem Serves.submit_silent (h : s.Serves l name b) (silent : r.waits = false) :
    ∃ link, b.link? l = some link ∧
      s.submit r = (⟨s.worker, s.broker, s.queue ++ [r]⟩, .ok .done) ∧
      (⟨s.worker, s.broker, s.queue ++ [r]⟩ : Desk).Serves l name (b.ask l link r).1 := by
  have hfound := Broker.isSome_askAll h.found s.queue
  rw [h.comes] at hfound
  obtain ⟨link, hlink⟩ := Option.isSome_iff_exists.1 hfound
  refine ⟨link, hlink, ?_, h.own, h.named, h.running, ?_, h.found, ?_⟩
  · unfold submit
    rw [h.post_eq]
    simp only [silent, Bool.false_eq_true, if_false]
  · exact List.forall_mem_append.2 ⟨h.silent, List.forall_mem_singleton.2 silent⟩
  · simp only [Broker.askAll_append h.found, h.comes, Broker.askAll_cons hlink]
    rfl

/-- What a request comes to that is submitted to a worker which is done with its link. -/
theorem Parts.submit {closed left : Bool} (h : s.Parts l name closed left b) (r : Request) :
    (s.submit r).2 = .error (.workerStopped name) ∧ (s.submit r).1.Parts l name closed true b ∨
      r.waits = false ∧ left = false ∧ (s.submit r).2 = .ok .done ∧ (s.submit r).1.Parts l name closed left b := by
  unfold Desk.submit Worker.post
  by_cases hstopped : s.worker.phase = .stopped
  · rw [if_pos hstopped]
    exact .inl ⟨by rw [h.named], h.own, h.named, h.flag, .inl hstopped, h.stays, h.windUp⟩
  · rw [if_neg hstopped]
    obtain ⟨hreply, hdesk⟩ := h.await_eq r
    rw [missed_eq r h.named] at hreply
    cases waits : r.waits with
    | true =>
      rw [waits] at hreply
      exact .inl ⟨hreply, hdesk⟩
    | false =>
      exact .inr ⟨rfl, (h.finished.resolve_left hstopped).2, rfl, h.own, h.named, h.flag, h.finished, h.stays, h.windUp⟩

/-- What is known of a worker that serves its link. -/
theorem Meets.serves (h : s.Meets l name b st) (live : st.live = true) :
    s.Serves l name b ∧ (s.worker.detaching = true → s.worker.phase = .suspended) ∧
      (s.worker.phase = .suspended → st = .reopening) := by
  cases h with
  | serving serves waits clear =>
    refine ⟨serves, fun shut => ?_, fun suspended => ?_⟩
    · rw [clear] at shut
      cases shut
    · rw [waits] at suspended
      cases suspended
  | reopening serves shut => exact ⟨serves, shut, fun _ => rfl⟩
  | parted parts => cases live

/-- A worker that waits lets transfers in. -/
theorem Meets.clear (h : s.Meets l name b st) (live : st.live = true) (waits : s.worker.phase = .waiting) :
    s.worker.detaching = false :=
  Bool.eq_false_iff.2 fun shut => by
    have hsuspended := (h.serves live).2.1 shut
    rw [waits] at hsuspended
    cases hsuspended

/-- **A request that is no detach leaves the link to be served.** -/
theorem Meets.submit_plain (h : s.Meets l name b st) (live : st.live = true) (waits : r.waits = true)
    (undetached : r.detaches = false) :
    ∃ b', Answers l name b st r (s.submit r).2 .serving b' ∧ (s.submit r).1.Meets l name b' .serving := by
  obtain ⟨serves, -⟩ := h.serves live
  obtain ⟨awake, link, hawake, hwaits, hlink, hsubmit⟩ := serves.submit_waits waits
  obtain ⟨-, hreplied, -⟩ := Worker.told_ask b l link undetached awake
  have hnew : awake.link = l ∧ awake.name = name ∧ awake.detaching = false := by
    rcases hawake with rfl | ⟨-, rfl⟩
    · exact ⟨serves.own, serves.named, h.clear live hwaits⟩
    · exact ⟨rfl, rfl, rfl⟩
  rw [hsubmit, hreplied]
  have hserves : (⟨awake, (b.ask l link r).1, []⟩ : Desk).Serves l name (b.ask l link r).1 :=
    ⟨hnew.1, hnew.2.1, .inl hwaits, List.forall_mem_nil _, Broker.isSome_ask hlink r, rfl⟩
  exact ⟨_, .served live hlink waits undetached, .serving hserves hwaits hnew.2.2⟩

/-- **A detach suspends the link, or is the last.** -/
theorem Serves.submit_detach (h : s.Serves l name b) (live : st.live = true) (d : Option Detach)
    (noted : s.worker.detaching = false ∨ s.worker.phase = .suspended → st = .reopening) :
    ∃ st' b', Answers l name b st (.detach d) (s.submit (.detach d)).2 st' b' ∧
      (s.submit (.detach d)).1.Meets l name b' st' := by
  obtain ⟨awake, link, hawake, -, hlink, hsubmit⟩ := h.submit_waits (r := .detach d) rfl
  have hnew : awake.link = l ∧ awake.name = name ∧ (awake.detaching = false → st = .reopening) := by
    rcases hawake with rfl | ⟨hsuspended, rfl⟩
    · exact ⟨h.own, h.named, fun hflag => noted (.inl hflag)⟩
    · exact ⟨rfl, rfl, fun _ => noted (.inr hsuspended)⟩
  rw [hsubmit]
  have hfound := Broker.isSome_ask hlink (.detach d)
  cases hends : ends (b.ask l link (.detach d)).2 with
  | false =>
    have how : (b.detach l d).2 = .suspended := by
      cases h : (b.detach l d).2 with
      | suspended => rfl
      | _ =>
        simp only [Broker.ask, h] at hends
        cases hends
    refine ⟨.reopening, _, .suspended live hlink hends, .reopening ⟨hnew.1, hnew.2.1, .inr ?_, ?_, hfound, rfl⟩ ?_⟩
    · simp only [Broker.ask, Worker.replied, how, if_true]
    · exact List.forall_mem_nil _
    · exact fun _ => by simp only [Broker.ask, Worker.replied, how, if_true]
  | true =>
    have how : (b.detach l d).2 ≠ .suspended := by
      intro h
      simp only [Broker.ask, h] at hends
      cases hends
    refine ⟨.parted awake.detaching false, _, .parted live hlink hends hnew.2.2,
      .parted ⟨hnew.1, hnew.2.1, rfl, .inr ⟨?_, rfl⟩, rfl, Broker.windUp_detach hlink how⟩⟩
    simp only [Broker.ask, Worker.replied, if_neg how]

/-- A request that is let in and not noted is submitted. -/
theorem call_admitted {t : Turn}
    (admitted : (s.after t.early).worker.letIn t.request = ((s.after t.early).worker, .ok ())) :
    s.call t = ((s.after t.early).after t.late).submit t.request := by
  unfold Desk.call
  simp only [admitted]

theorem Meets.call_live (h : s.Meets l name b st) (live : st.live = true) (t : Turn) :
    ∃ st' b', Answers l name b st t.request (s.call t).2 st' b' ∧ (s.call t).1.Meets l name b' st' := by
  obtain ⟨early, late, r⟩ := t
  have hearly := h.after early
  obtain ⟨serves, shut, reopens⟩ := hearly.serves live
  have plain : (s.after early).worker.letIn r = ((s.after early).worker, .ok ()) → r.waits = true → r.detaches = false →
      ∃ st' b', Answers l name b st r (s.call ⟨early, late, r⟩).2 st' b' ∧
        (s.call ⟨early, late, r⟩).1.Meets l name b' st' := fun admitted waits undetached => by
    obtain ⟨b', hanswers, hmeets⟩ := (hearly.after late).submit_plain live waits undetached
    rw [call_admitted (t := ⟨early, late, r⟩) admitted]
    exact ⟨.serving, b', hanswers, hmeets⟩
  cases r with
  | attach a => exact plain rfl rfl rfl
  | start => exact plain rfl rfl rfl
  | transfer d =>
    cases hflag : (s.after early).worker.detaching with
    | false => exact plain (by simp only [Worker.letIn, hflag, Bool.false_eq_true, if_false]) rfl rfl
    | true =>
      have hcall : s.call ⟨early, late, .transfer d⟩ = (s.after early, .error (.notAttached name .detaching)) := by
        simp only [Desk.call, Worker.letIn, hflag, if_true, serves.named]
      obtain rfl := reopens (shut hflag)
      rw [hcall]
      exact ⟨.reopening, b, .early, hearly⟩
  | disposition tag settled =>
    obtain ⟨hlate, hworker⟩ := serves.after late
    obtain ⟨link, hlink, hsubmit, hserves⟩ := hlate.submit_silent (r := .disposition tag settled) rfl
    have hmeets := hearly.after late
    rw [call_admitted (t := ⟨early, late, .disposition tag settled⟩) rfl, hsubmit]
    refine ⟨st, _, .noted live hlink, ?_⟩
    cases hmeets with
    | serving _ waits clear => exact .serving hserves waits clear
    | reopening _ shut => exact .reopening hserves shut
    | parted _ => cases live
  | detach d =>
    have hnoted : (⟨{ (s.after early).worker with detaching := true }, (s.after early).broker, (s.after early).queue⟩ :
        Desk).Serves l name b := ⟨serves.own, serves.named, serves.running, serves.silent, serves.found, serves.comes⟩
    obtain ⟨hlate, hworker⟩ := hnoted.after late
    refine hlate.submit_detach live d fun hflag => ?_
    -- transfers were let in again since the detach was noted, or are to be
    rcases hworker with hworker | ⟨hsuspended, -⟩
    · rw [hworker] at hflag
      exact reopens (hflag.resolve_left Bool.noConfusion)
    · exact reopens hsuspended

theorem Parts.call {closed left : Bool} (h : s.Parts l name closed left b) (t : Turn) :
    ∃ st', Answers l name b (.parted closed left) t.request (s.call t).2 st' b ∧ (s.call t).1.Meets l name b st' := by
  obtain ⟨early, late, r⟩ := t
  have hearly := h.after early
  have plain : (s.after early).worker.letIn r = ((s.after early).worker, .ok ()) →
      (r.transfers = true → closed = false) → r.detaches = false →
      ∃ st', Answers l name b (.parted closed left) r (s.call ⟨early, late, r⟩).2 st' b ∧
        (s.call ⟨early, late, r⟩).1.Meets l name b st' := fun admitted barred undetached => by
    rw [call_admitted (t := ⟨early, late, r⟩) admitted]
    rcases (hearly.after late).submit r with ⟨hreply, hdesk⟩ | ⟨silent, hleft, hreply, hdesk⟩
    · refine ⟨.parted closed true, ?_, .parted hdesk⟩
      rw [hreply]
      have hmissed : Answers l name b (.parted closed left) r (.error (.workerStopped name))
          (.parted (closed || r.detaches) true) b := .missed barred
      rwa [undetached, Bool.or_false] at hmissed
    · subst hleft
      refine ⟨.parted closed false, ?_, .parted hdesk⟩
      rw [hreply]
      cases r with
      | disposition tag settled => exact .taken
      | _ => cases silent
  cases r with
  | attach a => exact plain rfl Bool.noConfusion rfl
  | start => exact plain rfl Bool.noConfusion rfl
  | disposition tag settled => exact plain rfl Bool.noConfusion rfl
  | transfer d =>
    cases closed with
    | false => exact plain (by simp only [Worker.letIn, hearly.flag, Bool.false_eq_true, if_false]) (fun _ => rfl) rfl
    | true =>
      have hcall : s.call ⟨early, late, .transfer d⟩ = (s.after early, .error (.notAttached name .detaching)) := by
        simp only [Desk.call, Worker.letIn, hearly.flag, if_true, hearly.named]
      rw [hcall]
      exact ⟨.parted true left, .barred, .parted hearly⟩
  | detach d =>
    have hnoted : (⟨{ (s.after early).worker with detaching := true }, (s.after early).broker, (s.after early).queue⟩ :
        Desk).Parts l name true left b := ⟨hearly.own, hearly.named, rfl, hearly.finished, hearly.stays, hearly.windUp⟩
    rcases (hnoted.after late).submit (.detach d) with ⟨hreply, hdesk⟩ | ⟨silent, -⟩
    · refine ⟨.parted (closed || true) true, ?_, ?_⟩
      · rw [show (s.call ⟨early, late, .detach d⟩).2 = .error (.workerStopped name) from hreply]
        exact .missed Bool.noConfusion
      · rw [Bool.or_true]
        exact .parted hdesk
    · cases silent

/-- **A call is answered** as the link stands. -/
theorem Meets.call (h : s.Meets l name b st) (t : Turn) :
    ∃ st' b', Answers l name b st t.request (s.call t).2 st' b' ∧ (s.call t).1.Meets l name b' st' := by
  cases hlive : st.live with
  | true => exact h.call_live hlive t
  | false =>
    cases h with
    | parted parts =>
      obtain ⟨st', hanswers, hmeets⟩ := parts.call t
      exact ⟨st', b, hanswers, hmeets⟩
    | _ => cases hlive

/-- The induction is on the calls: what the first leaves is how the desk stands for the others. -/
theorem Meets.callAll (h : s.Meets l name b st) (ts : List Turn) :
    (s.callAll ts).2.length = ts.length ∧
      ∃ st' b', Dialogue l name st b ((ts.map (·.request)).zip (s.callAll ts).2) st' b' ∧
        (s.callAll ts).1.Meets l name b' st' := by
  induction ts generalizing s b st with
  | nil => exact ⟨rfl, st, b, .nil, h⟩
  | cons t ts ih =>
    obtain ⟨st', b', hanswers, hmeets⟩ := h.call t
    obtain ⟨hlength, st'', b'', hdialogue, hrest⟩ := ih hmeets
    exact ⟨congrArg (· + 1) hlength, st'', b'', .cons hanswers hdialogue, hrest⟩

/-! ## At rest -/

/-- **How a worker that is driven follows** one that is called at rest: it is new, or it has no link any more. -/
inductive Follows (l : LinkId) (name : String) (b : Broker) (s : Desk) : Worker → Prop where
  | new {st : Standing} (live : st.live = true) (meets : s.Meets l name b st) : Follows l name b s (new l name)
  | gone (parts : s.Parts l name true false b) : Follows l name b s (gone l name)

theorem worker_eq {w : Worker} {flag : Bool} {phase : Phase} (own : w.link = l) (named : w.name = name)
    (detaching : w.detaching = flag) (about : w.phase = phase) : w = ⟨l, name, flag, phase⟩ := by
  subst own named detaching about
  rfl

theorem Follows.rest {w : Worker} (h : s.Follows l name b w) : s.rest.worker = w ∧ s.rest.broker = b := by
  cases h with
  | new live meets =>
    have hrest := meets.after (s.queue.length + 1)
    obtain ⟨serves, -⟩ := hrest.serves live
    obtain ⟨waits, -, comes⟩ := (meets.serves live).1.rest
    exact ⟨worker_eq serves.own serves.named (hrest.clear live waits) waits, comes⟩
  | gone parts =>
    have hparts := parts.rest
    exact ⟨worker_eq hparts.own hparts.named hparts.flag hparts.stopped, hparts.stays⟩

theorem Serves.waits_of_rests (h : s.Serves l name b) (rests : s.Rests) : s.worker.phase = .waiting := by
  rcases rests with ⟨waits, -⟩ | stopped
  · exact waits
  · rcases h.running with h | h <;> rw [stopped] at h <;> cases h

/-- A worker at rest that is done with its link has left its queue. -/
theorem Parts.left_of_rests {closed left : Bool} (h : s.Parts l name closed left b) (rests : s.Rests) :
    s.Parts l name closed true b := by
  refine ⟨h.own, h.named, h.flag, .inl ?_, h.stays, h.windUp⟩
  rcases rests with ⟨waits, -⟩ | stopped
  · rcases h.finished with h | ⟨h, -⟩ <;> rw [waits] at h <;> cases h
  · exact stopped

/-- A worker that waits answers as one that is driven. -/
theorem Meets.call_serving (h : s.Meets l name b .serving) (t : Turn) :
    ∃ w' b', (new l name).batch b [t.request] = (w', b', [(s.call t).2]) ∧ (s.call t).1.Follows l name b' w' := by
  obtain ⟨st', b', hanswers, hmeets⟩ := h.call t
  generalize s.call t = result at hanswers hmeets
  obtain ⟨s', reply⟩ := result
  generalize t.request = r at hanswers
  have hone := fun {link : Link} (found : b.link? l = some link) => Worker.batch_one found name r
  cases hanswers with
  | served live found _ undetached =>
    rw [hone found, (Worker.told_ask b l _ undetached (Worker.new l name)).2.2]
    exact ⟨_, _, rfl, .new rfl hmeets⟩
  | noted live found => exact ⟨_, _, hone found, .new rfl hmeets⟩
  | suspended live found lasts =>
    rw [hone found, lasts]
    exact ⟨_, _, rfl, .new rfl hmeets⟩
  | @parted _ link d closed live found last overtaken =>
    rw [hone found, last]
    refine ⟨_, _, rfl, .gone ?_⟩
    cases hmeets with
    | parted parts =>
      cases closed with
      | true => exact parts
      | false => cases overtaken rfl

/-- **A call at rest is answered** as it is when the worker is driven. -/
theorem Follows.call {w : Worker} (h : s.Follows l name b w) {t : Turn} (rests : (s.after t.early).Rests) :
    ∃ w' b', w.batch b [t.request] = (w', b', [(s.call t).2]) ∧ (s.call t).1.Follows l name b' w' := by
  have hcall : s.call t = (s.after t.early).call ⟨0, t.late, t.request⟩ := rfl
  rw [hcall]
  cases h with
  | new live meets =>
    have hearly := meets.after t.early
    obtain ⟨serves, -⟩ := hearly.serves live
    have waits := serves.waits_of_rests rests
    -- where the worker waits, nothing is left of an earlier detach
    exact (Meets.serving serves waits (hearly.clear live waits)).call_serving ⟨0, t.late, t.request⟩
  | gone parts =>
    obtain ⟨st', hanswers, hmeets⟩ := ((parts.after t.early).left_of_rests rests).call ⟨0, t.late, t.request⟩
    obtain ⟨hreply, rfl⟩ := hanswers.gone
    rw [Worker.batch_gone, hreply]
    cases hmeets with
    | parted parts => exact ⟨_, _, rfl, .gone parts.weaken⟩

theorem Follows.callAll {w : Worker} (h : s.Follows l name b w) {ts : List Turn} (quiet : s.Quiet ts) :
    (s.callAll ts).2 = (w.drive b (ts.map (·.request))).2.2 ∧
      (s.callAll ts).1.Follows l name (w.drive b (ts.map (·.request))).2.1 (w.drive b (ts.map (·.request))).1 := by
  induction ts generalizing s b w with
  | nil => exact ⟨rfl, h⟩
  | cons t ts ih =>
    obtain ⟨w', b', hbatch, hfollows⟩ := h.call quiet.1
    obtain ⟨hreplies, hrest⟩ := ih hfollows quiet.2
    simp only [Desk.callAll, List.map_cons, Worker.drive, hbatch, hreplies]
    exact ⟨rfl, hrest⟩

/-- Whoever waits for the worker finds it at rest. -/
theorem Meets.exists_quiet (h : s.Meets l name b st) (rs : List Request) :
    ∃ ts : List Turn, ts.map (·.request) = rs ∧ s.Quiet ts := by
  induction rs generalizing s b st with
  | nil => exact ⟨[], rfl, trivial⟩
  | cons r rs ih =>
    obtain ⟨st', b', -, hmeets⟩ := h.call ⟨s.queue.length + 1, 0, r⟩
    obtain ⟨ts, rfl, quiet⟩ := ih hmeets
    exact ⟨⟨s.queue.length + 1, 0, r⟩ :: ts, rfl, h.rest.1, quiet⟩

/-- A worker that is new serves its link. -/
theorem meets_new (name : String) (found : (b.link? l).isSome = true) :
    (⟨new l name, b, []⟩ : Desk).Meets l name b .serving :=
  .serving ⟨rfl, rfl, .inl rfl, List.forall_mem_nil _, found, rfl⟩ rfl rfl

/-- There is nothing to wait for when the queue is empty, or the link has ended. -/
theorem Meets.broker_eq (h : s.Meets l name b st) (done : s.queue = [] ∨ st.live = false) : s.broker = b := by
  have served : s.Serves l name b → st.live = true → s.broker = b := fun serves live => by
    have hqueue := done.resolve_right fun ended => nomatch live.symm.trans ended
    have comes := serves.comes
    rwa [hqueue] at comes
  cases h with
  | serving serves waits clear => exact served serves rfl
  | reopening serves shut => exact served serves rfl
  | parted parts => exact parts.stays

end Desk

namespace Worker

open Desk (Turn Quiet Dialogue)

variable {b : Broker} {l : LinkId}

end Worker
end MessageBroker
