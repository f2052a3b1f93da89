import MessageBroker.Proofs.Run.Turns
import MessageBroker.Worker
/-!
# A worker and its link

A worker answers as its link does when it is asked itself (`Broker.ask`), with the same effects, until a detach leaves
nothing to resume (`Drives`).  Of requests that are made before the first is handled, those in front of a detach are
handled in order, and then the detach is; transfers behind it are refused and leave everything as it is (`Batches`).

A worker that waits for a request is as it was when it was new: what it is asked for is either still queued, or has left
its mark on the link alone.
-/
namespace MessageBroker

open Worker (Request Reply)

/-- Asks a link itself. -/
def Broker.ask (b : Broker) (l : LinkId) (link : Link) : Request → Broker × Except LinkError Reply
  | .attach a => ((b.attach l link a).1, (b.attach l link a).2.map fun _ => .done)
  | .start => ((b.start l link).1, (b.start l link).2.map .credit)
  | .transfer d => ((b.receive l link d).1, (b.receive l link d).2.map fun _ => .done)
  | .disposition tag settled => (b.receiveDisposition l link tag settled, .ok .done)
  | .detach d => ((b.detach l d).1, .ok (.detached (b.detach l d).2))

/-- Asks a link itself for one thing after the other. -/
def Broker.askAll (b : Broker) (l : LinkId) : List Request → Broker × List (Except LinkError Reply)
  | [] => (b, [])
  | r :: rs => match b.link? l with
    | none => (b, [])
    | some link =>
      let (b, reply) := b.ask l link r
      let (b, replies) := b.askAll l rs
      (b, reply :: replies)

namespace Worker

def Request.transfers : Request → Bool
  | .transfer _ => true
  | _ => false

def Request.detaches : Request → Bool
  | .detach _ => true
  | _ => false

/-- Whether a reply is that to a detach which leaves nothing to resume. -/
def ends : Except LinkError Reply → Bool
  | .ok (.detached how) => how != .suspended
  | _ => false

/-- Makes each request when the one before it was handled, and what follows was done. -/
def drive (w : Worker) (b : Broker) : List Request → Worker × Broker × List (Except LinkError Reply)
  | [] => (w, b, [])
  | r :: rs =>
    let (w, b, reply) := w.batch b [r]
    let (w, b, replies) := w.drive b rs
    (w, b, reply ++ replies)

/-- A worker that was asked for a detach. -/
def asked (link : LinkId) (name : String) : Worker := ⟨link, name, true, .waiting⟩

/-- A worker that has no link any more. -/
def gone (link : LinkId) (name : String) : Worker := ⟨link, name, true, .stopped⟩

/-- The answer of a worker that has no link any more. -/
def refusal (name : String) : Request → LinkError
  | .transfer _ => .notAttached name .detaching
  | _ => .workerStopped name

/-- **What becomes of requests that are made one at a time.** -/
inductive Drives (l : LinkId) (name : String) (b : Broker) (rs : List Request) :
    Worker × Broker × List (Except LinkError Reply) → Prop where
  | lasted {b' : Broker} {replies : List (Except LinkError Reply)} (direct : b.askAll l rs = (b', replies))
      (lasts : ∀ x ∈ replies, ends x = false) : Drives l name b rs (new l name, b', replies)
  | ended {before after : List Request} {r : Request} {b' : Broker} {replies : List (Except LinkError Reply)}
      {reply : Except LinkError Reply} (split : rs = before ++ r :: after)
      (direct : b.askAll l (before ++ [r]) = (b', replies ++ [reply])) (lasts : ∀ x ∈ replies, ends x = false)
      (last : ends reply = true) :
      Drives l name b rs (gone l name, b', replies ++ reply :: after.map fun r => .error (refusal name r))

/-- **Replies to requests of which the transfers are refused**: `kept` are those to the others. -/
inductive Passes (name : String) :
    (rs : List Request) → (replies kept : List (Except LinkError Reply)) → Prop where
  | nil : Passes name [] [] []
  | transfer {d : Delivery} {rs : List Request} {replies kept : List (Except LinkError Reply)}
      (rest : Passes name rs replies kept) :
      Passes name (.transfer d :: rs) (.error (.notAttached name .detaching) :: replies) kept
  | other {r : Request} {reply : Except LinkError Reply} {rs : List Request}
      {replies kept : List (Except LinkError Reply)} (other : r.transfers = false)
      (rest : Passes name rs replies kept) :
      Passes name (r :: rs) (reply :: replies) (reply :: kept)

/-- **What becomes of requests that are made before the first is handled.** -/
inductive Batches (l : LinkId) (name : String) (b : Broker) (rs : List Request) :
    Worker × Broker × List (Except LinkError Reply) → Prop where
  | undetached {b' : Broker} {replies : List (Except LinkError Reply)} (undetached : ∀ r ∈ rs, r.detaches = false)
      (direct : b.askAll l rs = (b', replies)) : Batches l name b rs (new l name, b', replies)
  | detached {before after : List Request} {d : Option Detach} {b' b'' : Broker} {w : Worker}
      {replies later kept : List (Except LinkError Reply)} {reply : Except LinkError Reply}
      (split : rs = before ++ .detach d :: after) (undetached : ∀ r ∈ before, r.detaches = false)
      (direct : b.askAll l (before ++ [.detach d]) = (b', replies ++ [reply])) (refused : Passes name after later kept)
      -- what is behind the detach is handled as if there were no transfers
      (others : (if ends reply then gone l name else new l name).handleAll b'
        ((after.filter (!·.transfers)).map (·, .ok ())) = (w, b'', kept))
      (stopped : ends reply = true → w = gone l name ∧ b'' = b') :
      Batches l name b rs (w, b'', replies ++ reply :: later)

end Worker

namespace Broker

variable {b : Broker} {l : LinkId} {link : Link}

/-- A link that is asked is still there. -/
theorem isSome_ask (found : b.link? l = some link) (r : Request) : ((b.ask l link r).1.link? l).isSome = true := by
  have hlength : (b.ask l link r).1.links.length = b.links.length := by
    cases r with
    | attach a => exact linkSteps_length.attach b l link a
    | start => exact linkSteps_length.start b l link
    | transfer d => exact workSteps_length.receive b l link d
    | disposition tag settled => exact linkSteps_length.receiveDisposition b l link tag settled
    | detach d => exact linkSteps_length.detach b l d
  have hlt := (List.getElem?_eq_some_iff.1 found).1
  unfold link?
  rw [List.getElem?_eq_getElem (hlength ▸ hlt)]
  rfl

theorem askAll_cons (found : b.link? l = some link) (r : Request) (rs : List Request) :
    b.askAll l (r :: rs) =
      (((b.ask l link r).1.askAll l rs).1, (b.ask l link r).2 :: ((b.ask l link r).1.askAll l rs).2) := by
  simp only [askAll, found]

theorem isSome_askAll (found : (b.link? l).isSome = true) (rs : List Request) :
    ((b.askAll l rs).1.link? l).isSome = true := by
  induction rs generalizing b with
  | nil => exact found
  | cons r rs ih =>
    obtain ⟨link, hlink⟩ := Option.isSome_iff_exists.1 found
    rw [askAll_cons hlink]
    exact ih (isSome_ask hlink r)

theorem askAll_append (found : (b.link? l).isSome = true) (rs more : List Request) :
    b.askAll l (rs ++ more) =
      (((b.askAll l rs).1.askAll l more).1, (b.askAll l rs).2 ++ ((b.askAll l rs).1.askAll l more).2) := by
  induction rs generalizing b with
  | nil => rfl
  | cons r rs ih =>
    obtain ⟨link, hlink⟩ := Option.isSome_iff_exists.1 found
    rw [List.cons_append, askAll_cons hlink, askAll_cons hlink, ih (isSome_ask hlink r)]
    rfl

theorem length_askAll (found : (b.link? l).isSome = true) (rs : List Request) :
    (b.askAll l rs).2.length = rs.length := by
  induction rs generalizing b with
  | nil => rfl
  | cons r rs ih =>
    obtain ⟨link, hlink⟩ := Option.isSome_iff_exists.1 found
    rw [askAll_cons hlink]
    exact congrArg (· + 1) (ih (isSome_ask hlink r))

/-- Nothing is left to do of a link that a detach has ended. -/
theorem windUp_detach (found : b.link? l = some link) {d : Option Detach} (ended : (b.detach l d).2 ≠ .suspended) :
    Worker.windUp (b.detach l d).1 l = (b.detach l d).1 := by
  obtain ⟨turns, how⟩ := turns_detach found d
  rw [how] at ended
  rw [if_neg ended] at turns
  unfold Worker.windUp
  rw [turns.link?]
  rfl

end Broker

namespace Worker

open Broker

variable {w : Worker} {b : Broker} {l : LinkId} {name : String} {link : Link}

/-- What a worker is when it has given a reply. -/
def replied (w : Worker) : Except LinkError Reply → Worker
  | .ok (.detached how) => { w with phase := if how = .suspended then .suspended else .leaving }
  | _ => w

/-- What a worker is when it has done what follows a reply. -/
def told (w : Worker) : Except LinkError Reply → Worker
  | .ok (.detached how) =>
    if how = .suspended then { w with detaching := false, phase := .waiting } else { w with phase := .stopped }
  | _ => w

/-- Only a detach is told that the link is detached. -/
theorem detached_ask {r : Request} {how : DetachOutcome} (h : (b.ask l link r).2 = .ok (.detached how)) :
    r.detaches = true := by
  have hmap : ∀ {α : Type} (x : Except LinkError α) (f : α → Reply), x.map f = .ok (.detached how) →
      ∃ a, f a = .detached how := by
    intro α x f hx
    cases x with
    | error e => cases hx
    | ok a => exact ⟨a, Except.ok.inj hx⟩
  cases r with
  | attach a => exact nomatch hmap _ _ h
  | start => exact nomatch hmap _ _ h
  | transfer d => exact nomatch hmap _ _ h
  | disposition tag settled => cases h
  | detach d => rfl

/-- Nothing else ends a link, or makes another thing of the worker. -/
theorem told_ask (b : Broker) (l : LinkId) (link : Link) {r : Request} (undetached : r.detaches = false) (w : Worker) :
    w.told (b.ask l link r).2 = w ∧ w.replied (b.ask l link r).2 = w ∧ ends (b.ask l link r).2 = false := by
  have hplain : ∀ how, (b.ask l link r).2 ≠ .ok (.detached how) := fun how h =>
    Bool.false_ne_true (undetached.symm.trans (detached_ask h))
  generalize (b.ask l link r).2 = x at hplain
  cases x with
  | error e => exact ⟨rfl, rfl, rfl⟩
  | ok reply =>
    cases reply with
    | detached how => exact absurd rfl (hplain how)
    | _ => exact ⟨rfl, rfl, rfl⟩

/-- What becomes of a worker that was asked for a detach. -/
theorem told_detached (l : LinkId) (name : String) (how : DetachOutcome) :
    (asked l name).told (.ok (.detached how)) =
      if ends (.ok (.detached how)) then gone l name else new l name := by
  cases how <;> rfl

/-- **A worker answers a request as its link does.** -/
theorem answer_eq (own : w.link = l) (found : b.link? l = some link) (r : Request) :
    w.answer b r = (w.replied (b.ask l link r).2, b.ask l link r) := by
  subst own
  have hplain : ∀ r : Request, r.detaches = false →
      (w, b.ask w.link link r) = (w.replied (b.ask w.link link r).2, b.ask w.link link r) := fun r undetached => by
    rw [(told_ask b _ link undetached w).2.1]
  unfold answer
  simp only [found]
  cases r with
  | attach a => exact hplain (.attach a) rfl
  | start => exact hplain .start rfl
  | transfer d => exact hplain (.transfer d) rfl
  | disposition tag settled => rfl
  | detach d => rfl

/-- There is nothing left to do for a worker that waits. -/
theorem settle_waiting (waiting : w.phase = .waiting) (b : Broker) : w.settle b = (w, b) := by
  unfold settle
  rw [waiting]

/-- **What follows a reply changes the worker alone**: where the link has ended, it is found detached. -/
theorem settle_replied (own : w.link = l) (waiting : w.phase = .waiting) (found : b.link? l = some link) (r : Request) :
    (w.replied (b.ask l link r).2).settle (b.ask l link r).1 =
      (w.told (b.ask l link r).2, (b.ask l link r).1) := by
  subst own
  cases undetached : r.detaches with
  | false =>
    obtain ⟨htold, hreplied, -⟩ := told_ask b w.link link undetached w
    rw [htold, hreplied, settle_waiting waiting]
  | true =>
    cases r with
    | detach d =>
      simp only [ask, replied, told]
      split
      · rfl
      · rename_i ended
        simp only [settle, windUp_detach found ended]
    | _ => cases undetached

theorem settle_stopped (stopped : w.phase = .stopped) (b : Broker) : w.settle b = (w, b) := by
  unfold settle
  rw [stopped]

/-- A worker that has stopped misses what it is asked for. -/
theorem next_stopped (stopped : w.phase = .stopped) (b : Broker) (r : Request) : w.next b r = (w, b, w.missed r) := by
  simp only [next, settle_stopped stopped, if_pos stopped]

/-- **A worker that waits handles a request as its link does.** -/
theorem handle_eq (own : w.link = l) (waiting : w.phase = .waiting) (found : b.link? l = some link) (r : Request) :
    w.handle b r = (w.told (b.ask l link r).2, b.ask l link r) := by
  have hnext : w.next b r = (w.replied (b.ask l link r).2, b.ask l link r) := by
    have running : w.phase ≠ .stopped := by
      rw [waiting]
      decide
    simp only [next, settle_waiting waiting, if_neg running, answer_eq own found r]
  simp only [handle, hnext, settle_replied own waiting found r]

/-! ## One at a time -/

theorem request_new (l : LinkId) (name : String) {r : Request} (undetached : r.detaches = false) :
    (new l name).request r = (new l name, .ok ()) := by
  cases r <;> first | rfl | cases undetached

/-- **A worker answers a single request as its link does**, and has no link any more if that ends it. -/
theorem batch_one (found : b.link? l = some link) (name : String) (r : Request) :
    (new l name).batch b [r] = (if ends (b.ask l link r).2 then gone l name else new l name,
      (b.ask l link r).1, [(b.ask l link r).2]) := by
  -- `w` is the worker that has taken the request
  have hbatch : ∀ w : Worker, w.link = l → w.phase = .waiting → (new l name).request r = (w, .ok ()) →
      (new l name).batch b [r] = (w.told (b.ask l link r).2, (b.ask l link r).1, [(b.ask l link r).2]) := by
    intro w own waiting hr
    simp only [batch, requestAll, hr, handleAll, handle_eq own waiting found]
  cases undetached : r.detaches with
  | false =>
    obtain ⟨htold, -, hends⟩ := told_ask b l link undetached (new l name)
    rw [hbatch (new l name) rfl rfl (request_new l name undetached), htold, hends]
    rfl
  | true =>
    cases r with
    | detach d =>
      rw [hbatch (asked l name) rfl rfl rfl]
      exact congrArg (·, _) (told_detached l name _)
    | _ => cases undetached

theorem batch_gone (l : LinkId) (name : String) (b : Broker) (r : Request) :
    (gone l name).batch b [r] = (gone l name, b, [.error (refusal name r)]) := by
  cases r <;> rfl

theorem drive_gone (l : LinkId) (name : String) (b : Broker) : ∀ rs : List Request,
    (gone l name).drive b rs = (gone l name, b, rs.map fun r => .error (refusal name r))
  | [] => rfl
  | r :: rs => by
    simp only [drive, batch_gone, drive_gone l name b rs]
    rfl

theorem drive_cons (found : b.link? l = some link) (name : String) (r : Request) (rs : List Request) :
    (new l name).drive b (r :: rs) =
      if ends (b.ask l link r).2 then
        (gone l name, (b.ask l link r).1, (b.ask l link r).2 :: rs.map fun r => .error (refusal name r))
      else
        (((new l name).drive (b.ask l link r).1 rs).1, ((new l name).drive (b.ask l link r).1 rs).2.1,
          (b.ask l link r).2 :: ((new l name).drive (b.ask l link r).1 rs).2.2) := by
  simp only [drive, batch_one found name r]
  split
  · simp only [drive_gone]
    rfl
  · rfl

/-- The induction is on the requests: each one is the last that the link is asked for, or leaves the worker new. -/
theorem drives (name : String) (rs : List Request) (found : (b.link? l).isSome = true) :
    Drives l name b rs ((new l name).drive b rs) := by
  induction rs generalizing b with
  | nil => exact .lasted rfl fun x hx => nomatch hx
  | cons r rs ih =>
    obtain ⟨link, hlink⟩ := Option.isSome_iff_exists.1 found
    have hcons := askAll_cons hlink r
    rw [drive_cons hlink]
    cases hends : ends (b.ask l link r).2 with
    | true =>
      have hdirect : b.askAll l ([] ++ [r]) = ((b.ask l link r).1, [] ++ [(b.ask l link r).2]) := hcons []
      exact .ended rfl hdirect (fun x hx => nomatch hx) hends
    | false =>
      have hrest := ih (isSome_ask hlink r)
      simp only [Bool.false_eq_true, if_false]
      generalize (new l name).drive (b.ask l link r).1 rs = result at hrest
      cases hrest with
      | lasted direct lasts =>
        refine .lasted ?_ (List.forall_mem_cons.2 ⟨hends, lasts⟩)
        rw [hcons, direct]
      | @ended before after r' b' replies reply split direct lasts last =>
        have hdirect : b.askAll l ((r :: before) ++ [r']) = (b', ((b.ask l link r).2 :: replies) ++ [reply]) := by
          rw [List.cons_append, hcons, direct]
          rfl
        exact .ended (congrArg (r :: ·) split) hdirect (List.forall_mem_cons.2 ⟨hends, lasts⟩) last

/-- **Nothing else becomes of requests that are made one at a time.** -/
theorem Drives.eq_drive {rs : List Request} {result : Worker × Broker × List (Except LinkError Reply)}
    (h : Drives l name b rs result) (found : (b.link? l).isSome = true) : result = (new l name).drive b rs := by
  induction rs generalizing b result with
  | nil =>
    cases h with
    | lasted direct lasts =>
      cases direct
      rfl
    | ended split direct lasts last =>
      exact absurd split.symm (List.append_ne_nil_of_right_ne_nil _ (List.cons_ne_nil _ _))
  | cons r rs ih =>
    obtain ⟨link, hlink⟩ := Option.isSome_iff_exists.1 found
    have hfound := isSome_ask hlink r
    have hcons := askAll_cons hlink r
    rw [drive_cons hlink]
    cases h with
    | lasted direct lasts =>
      rw [hcons] at direct
      cases direct
      obtain ⟨hends, hlasts⟩ := List.forall_mem_cons.1 lasts
      rw [hends, ← ih (.lasted rfl hlasts) hfound]
      rfl
    | @ended before after r' b' replies reply split direct lasts last =>
      have hlength : replies.length = before.length := by
        have hall := length_askAll found (before ++ [r'])
        rw [direct, List.length_append, List.length_append] at hall
        exact Nat.add_right_cancel hall
      cases before with
      | nil =>
        obtain rfl := List.length_eq_zero_iff.1 hlength
        cases split
        rw [List.nil_append, hcons] at direct
        cases direct
        rw [if_pos last]
        rfl
      | cons first before =>
        cases split
        obtain ⟨x, replies, rfl⟩ := List.exists_cons_of_length_eq_add_one hlength
        rw [List.cons_append, hcons] at direct
        obtain ⟨hbroker, hall⟩ := Prod.mk.inj direct
        obtain ⟨rfl, hreplies⟩ := List.cons.inj hall
        obtain ⟨hends, hlasts⟩ := List.forall_mem_cons.1 lasts
        rw [hends, ← ih (.ended rfl (Prod.ext hbroker hreplies) hlasts last) hfound]
        rfl

/-! ## All at once -/

/-- How a worker takes a request behind a detach. -/
def behind (name : String) (r : Request) : Request × Except LinkError Unit :=
  (r, if r.transfers then .error (.notAttached name .detaching) else .ok ())

/-- **Behind a detach the transfers are refused**, and nothing else. -/
theorem requestAll_asked (l : LinkId) (name : String) : ∀ rs : List Request,
    (asked l name).requestAll rs = (asked l name, rs.map (behind name))
  | [] => rfl
  | r :: rs => by
    have hr : (asked l name).request r = (asked l name, (behind name r).2) := by
      cases r <;> rfl
    simp only [requestAll, hr, requestAll_asked l name rs]
    rfl

/-- Nothing is refused in front of a detach. -/
theorem requestAll_append (l : LinkId) (name : String) (after : List Request) : ∀ before : List Request,
    (∀ r ∈ before, r.detaches = false) →
      (new l name).requestAll (before ++ after) =
        (((new l name).requestAll after).1, before.map (·, .ok ()) ++ ((new l name).requestAll after).2)
  | [], _ => rfl
  | r :: before, undetached => by
    obtain ⟨hr, hbefore⟩ := List.forall_mem_cons.1 undetached
    simp only [List.cons_append, requestAll, request_new l name hr, requestAll_append l name after before hbefore]
    rfl

/-- **What is queued is handled in order**, as the link does it when it is asked itself. -/
theorem handleAll_append (own : w.link = l) (waiting : w.phase = .waiting) (found : (b.link? l).isSome = true)
    (queue : List (Request × Except LinkError Unit)) {rs : List Request} (undetached : ∀ r ∈ rs, r.detaches = false) :
    w.handleAll b (rs.map (·, .ok ()) ++ queue) =
      ((w.handleAll (b.askAll l rs).1 queue).1, (w.handleAll (b.askAll l rs).1 queue).2.1,
        (b.askAll l rs).2 ++ (w.handleAll (b.askAll l rs).1 queue).2.2) := by
  induction rs generalizing b with
  | nil => rfl
  | cons r rs ih =>
    obtain ⟨hr, hrs⟩ := List.forall_mem_cons.1 undetached
    obtain ⟨link, hlink⟩ := Option.isSome_iff_exists.1 found
    have hrest := ih (isSome_ask hlink r) hrs
    simp only [List.map_cons, List.cons_append, handleAll, handle_eq own waiting hlink, (told_ask b l link hr w).1,
      hrest, askAll_cons hlink]

/-- **A refused transfer leaves everything as it is.** -/
theorem passes (name : String) (rs : List Request) (w : Worker) (b : Broker) :
    ∃ w' b' later kept, w.handleAll b (rs.map (behind name)) = (w', b', later) ∧
      w.handleAll b ((rs.filter (!·.transfers)).map (·, .ok ())) = (w', b', kept) ∧ Passes name rs later kept := by
  induction rs generalizing w b with
  | nil => exact ⟨w, b, [], [], rfl, rfl, .nil⟩
  | cons r rs ih =>
    cases other : r.transfers with
    | true =>
      cases r with
      | transfer d =>
        obtain ⟨w', b', later, kept, hall, hothers, hpasses⟩ := ih w b
        refine ⟨w', b', _, kept, ?_, hothers, .transfer hpasses⟩
        simp only [List.map_cons, behind, Request.transfers, if_true, handleAll, hall]
      | _ => cases other
    | false =>
      obtain ⟨w', b', later, kept, hall, hothers, hpasses⟩ := ih (w.handle b r).1 (w.handle b r).2.1
      have hbehind : behind name r = (r, .ok ()) := by
        unfold behind
        rw [other]
        rfl
      refine ⟨w', b', (w.handle b r).2.2 :: later, (w.handle b r).2.2 :: kept, ?_, ?_, .other other hpasses⟩
      · simp only [List.map_cons, hbehind, handleAll, hall]
      · rw [List.filter_cons_of_pos (by rw [other]; rfl)]
        simp only [List.map_cons, handleAll, hothers]

/-- A worker that has stopped does nothing with what is left in its queue. -/
theorem handleAll_stopped (stopped : w.phase = .stopped) (b : Broker) :
    ∀ queue : List (Request × Except LinkError Unit), ∃ replies, w.handleAll b queue = (w, b, replies)
  | [] => ⟨[], rfl⟩
  | (r, .error e) :: queue => by
    obtain ⟨replies, h⟩ := handleAll_stopped stopped b queue
    exact ⟨.error e :: replies, by simp only [handleAll, h]⟩
  | (r, .ok ()) :: queue => by
    obtain ⟨replies, h⟩ := handleAll_stopped stopped b queue
    exact ⟨w.missed r :: replies, by simp only [handleAll, handle, next_stopped stopped, settle_stopped stopped, h]⟩

/-- **What is in front of the first detach comes first**, then the detach, and then what is behind it. -/
theorem batch_detach (found : (b.link? l).isSome = true) (name : String) {before : List Request}
    (undetached : ∀ r ∈ before, r.detaches = false) (d : Option Detach) (after : List Request) :
    ∃ b' replies reply, b.askAll l (before ++ [.detach d]) = (b', replies ++ [reply]) ∧
      ∀ w b'' later, (if ends reply then gone l name else new l name).handleAll b' (after.map (behind name)) =
          (w, b'', later) →
        (new l name).batch b (before ++ .detach d :: after) = (w, b'', replies ++ reply :: later) := by
  obtain ⟨link, hlink⟩ := Option.isSome_iff_exists.1 (isSome_askAll found before)
  refine ⟨((b.askAll l before).1.detach l d).1, (b.askAll l before).2,
    .ok (.detached ((b.askAll l before).1.detach l d).2), ?_, fun w b'' later hlater => ?_⟩
  · rw [askAll_append found, askAll_cons hlink]
    rfl
  have hmade : (new l name).requestAll (before ++ .detach d :: after) =
      (asked l name, before.map (·, .ok ()) ++ (.detach d, .ok ()) :: after.map (behind name)) := by
    rw [requestAll_append l name _ before undetached]
    simp only [requestAll, show (new l name).request (.detach d) = (asked l name, .ok ()) from rfl,
      requestAll_asked l name after]
  have hdetach := handle_eq (w := asked l name) (l := l) rfl rfl hlink (.detach d)
  simp only [ask, told_detached] at hdetach
  have hall := handleAll_append (w := asked l name) (l := l) rfl rfl found
    ((.detach d, .ok ()) :: after.map (behind name)) undetached
  simp only [handleAll, hdetach, hlater] at hall
  simp only [batch, hmade, hall]

theorem batches (name : String) (rs : List Request) (found : (b.link? l).isSome = true) :
    Batches l name b rs ((new l name).batch b rs) := by
  cases hfind : rs.find? (·.detaches) with
  | none =>
    have undetached : ∀ r ∈ rs, r.detaches = false := fun r hr =>
      Bool.eq_false_iff.2 (List.find?_eq_none.1 hfind r hr)
    have hmade := requestAll_append l name [] rs undetached
    have hall := handleAll_append (w := new l name) (l := l) rfl rfl found [] undetached
    simp only [requestAll, handleAll, List.append_nil] at hmade hall
    simp only [batch, hmade, hall]
    exact .undetached undetached rfl
  | some r =>
    obtain ⟨hr, before, after, rfl, hbefore⟩ := List.find?_eq_some_iff_append.1 hfind
    have undetached : ∀ r ∈ before, r.detaches = false := fun r hr => by simpa using hbefore r hr
    cases r with
    | detach d =>
      obtain ⟨b', replies, reply, direct, hbatch⟩ := batch_detach found name undetached d after
      obtain ⟨w, b'', later, kept, hall, others, refused⟩ :=
        passes name after (if ends reply then gone l name else new l name) b'
      rw [hbatch w b'' later hall]
      refine .detached rfl undetached direct refused others fun ended => ?_
      rw [if_pos ended] at others
      obtain ⟨replies, h⟩ := handleAll_stopped (w := gone l name) rfl b' _
      rw [others] at h
      cases h
      exact ⟨rfl, rfl⟩
    | _ => cases hr

end Worker
end MessageBroker
