import MessageBroker.Broker.Attach
import MessageBroker.Broker.Deliver
/-!
# Link workers

A worker handles the requests for one link one after the other, on its own.  A request is made before it is handled:
asking for a detach at once closes the worker to transfers.  The worker replies to a detach first, and acts on it
afterwards: where the link is left to be resumed it lets transfers in again, and otherwise it leaves its queue.  What is
asked for in between finds it as it was (`Desk.call`).
-/
namespace MessageBroker

/-- What a worker is about. -/
inductive Phase where
  /-- To handle the next request. -/
  | waiting
  /-- To let transfers in again: it has replied to a detach that leaves the link to be resumed. -/
  | suspended
  /-- To leave its queue: it has replied to a detach that leaves nothing to resume. -/
  | leaving
  /-- Nothing any more. -/
  | stopped
deriving DecidableEq, Repr

structure Worker where
  link : LinkId
  name : String
  /-- A detach was asked for. -/
  detaching : Bool
  phase : Phase
deriving DecidableEq, Repr

namespace Worker

def new (link : LinkId) (name : String) : Worker := ⟨link, name, false, .waiting⟩

inductive Request where
  | attach (a : Attach)
  | start
  | transfer (d : Delivery)
  | disposition (tag : DeliveryTag) (settled : Bool)
  | detach (d : Option Detach)

/-- Whether the one who makes a request waits for a reply. -/
def Request.waits : Request → Bool
  | .disposition .. => false
  | _ => true

inductive Reply where
  | done
  | credit (n : Nat)
  | detached (how : DetachOutcome)
deriving DecidableEq, Repr

/-- Lets a request in.  A transfer is refused where a detach was asked for, and a detach is noted. -/
def letIn (w : Worker) : Request → Worker × Except LinkError Unit
  | .transfer _ => (w, if w.detaching then .error (.notAttached w.name .detaching) else .ok ())
  | .detach _ => ({ w with detaching := true }, .ok ())
  | _ => (w, .ok ())

/-- Whether what was let in can be queued. -/
def post (w : Worker) : Except LinkError Unit :=
  if w.phase = .stopped then .error (.workerStopped w.name) else .ok ()

/-- Makes a request.  It may be refused at once; otherwise it is queued for the worker. -/
def request (w : Worker) (r : Request) : Worker × Except LinkError Unit :=
  let (w, admitted) := w.letIn r
  (w, admitted.bind fun _ => w.post)

/-- What a worker that stops does at last: it destroys a link that is not detached. -/
def windUp (b : Broker) (l : LinkId) : Broker :=
  match b.link? l with
  | none => b
  | some link => if link.state = .detached then b else b.destroy l

/-- Handles a request up to the reply. -/
def answer (w : Worker) (b : Broker) (r : Request) : Worker × Broker × Except LinkError Reply :=
  match b.link? w.link with
  | none => (w, b, .error (.workerStopped w.name))
  | some link => match r with
    | .attach a =>
      let (b, result) := b.attach w.link link a
      (w, b, result.map fun _ => .done)
    | .start =>
      let (b, result) := b.start w.link link
      (w, b, result.map .credit)
    | .transfer d =>
      let (b, result) := b.receive w.link link d
      (w, b, result.map fun _ => .done)
    | .disposition tag settled => (w, b.receiveDisposition w.link link tag settled, .ok .done)
    | .detach d =>
      let (b, how) := b.detach w.link d
      ({ w with phase := if how = .suspended then .suspended else .leaving }, b, .ok (.detached how))

/-- Does what follows the reply to a detach. -/
def settle (w : Worker) (b : Broker) : Worker × Broker :=
  match w.phase with
  | .suspended => ({ w with detaching := false, phase := .waiting }, b)
  | .leaving => ({ w with phase := .stopped }, windUp b w.link)
  | _ => (w, b)

/-- What a request comes to that was queued for nothing.  A disposition asks for no answer, so it
is not missed. -/
def missed (w : Worker) (r : Request) : Except LinkError Reply :=
  if r.waits then .error (.workerStopped w.name) else .ok .done

/-- Lets the worker do what is left to do, and then handle a queued request up to the reply.  A
stopped worker handles none. -/
def next (w : Worker) (b : Broker) (r : Request) : Worker × Broker × Except LinkError Reply :=
  let (w, b) := w.settle b
  if w.phase = .stopped then (w, b, w.missed r) else w.answer b r

/-- Lets the worker handle a queued request, and do what follows. -/
def handle (w : Worker) (b : Broker) (r : Request) : Worker × Broker × Except LinkError Reply :=
  let (w, b, reply) := w.next b r
  let (w, b) := w.settle b
  (w, b, reply)

/-- The message that is read when a transfer is handled, if it gets so far. -/
def read? (w : Worker) (b : Broker) (d : Delivery) : Option Message :=
  if w.phase = .stopped then none else (b.link? w.link).bind (Broker.read? · d)

/-- Handles queued requests in order; one that was refused is passed over. -/
def handleAll (w : Worker) (b : Broker) :
    List (Request × Except LinkError Unit) → Worker × Broker × List (Except LinkError Reply)
  | [] => (w, b, [])
  | (_, .error e) :: rest =>
    let (w, b, replies) := w.handleAll b rest
    (w, b, .error e :: replies)
  | (r, .ok ()) :: rest =>
    let (w, b, reply) := w.handle b r
    let (w, b, replies) := w.handleAll b rest
    (w, b, reply :: replies)

/-- Makes requests in order. -/
def requestAll (w : Worker) : List Request → Worker × List (Request × Except LinkError Unit)
  | [] => (w, [])
  | r :: rs =>
    let (w, queued) := w.request r
    let (w, others) := w.requestAll rs
    (w, (r, queued) :: others)

/-- Makes all requests before the first is handled. -/
def batch (w : Worker) (b : Broker) (rs : List Request) :
    Worker × Broker × List (Except LinkError Reply) :=
  let (w, queued) := w.requestAll rs
  w.handleAll b queued

end Worker

/-- A worker at its queue, and the broker that it works on. -/
structure Desk where
  worker : Worker
  broker : Broker
  /-- The requests that were posted and are not handled yet. -/
  queue : List Worker.Request

namespace Desk

/-- What the worker does next: what is left to do after its last reply, or else the first request in its queue.  When
it leaves the queue, it drops what is still in there. -/
def move (s : Desk) : Desk :=
  match s.worker.phase, s.queue with
  | .waiting, [] => s
  | .waiting, r :: queue =>
    let (w, b, _) := s.worker.answer s.broker r
    ⟨w, b, queue⟩
  | .suspended, queue =>
    let (w, b) := s.worker.settle s.broker
    ⟨w, b, queue⟩
  | .leaving, _ =>
    let (w, b) := s.worker.settle s.broker
    ⟨w, b, []⟩
  | .stopped, _ => s

/-- The desk after so many moves of the worker. -/
def after (s : Desk) : Nat → Desk
  | 0 => s
  | n + 1 => s.move.after n

/-- Lets the worker go on until it comes to a request behind its queue. -/
def await (w : Worker) (b : Broker) (r : Worker.Request) :
    (queue : List Worker.Request) → Desk × Except LinkError Worker.Reply
  | [] =>
    let (w, b, reply) := w.next b r
    (⟨w, b, []⟩, reply)
  | first :: queue =>
    let (w, b, _) := w.next b first
    await w b r queue

/-- A request that is made while the worker goes on: the worker makes `early` moves before the request is let in, and
`late` ones before it is posted. -/
structure Turn where
  early : Nat
  late : Nat
  request : Worker.Request

/-- Posts a request that was let in, and waits for the reply if there is one. -/
def submit (s : Desk) (r : Worker.Request) : Desk × Except LinkError Worker.Reply :=
  match s.worker.post with
  | .error e => (s, .error e)
  | .ok () =>
    if r.waits then await s.worker s.broker r s.queue else ({ s with queue := s.queue ++ [r] }, .ok .done)

/-- Makes a request, and submits it if it is let in. -/
def call (s : Desk) (t : Turn) : Desk × Except LinkError Worker.Reply :=
  let s := s.after t.early
  match s.worker.letIn t.request with
  | (w, .error e) => ({ s with worker := w }, .error e)
  | (w, .ok ()) => ({ s with worker := w }.after t.late).submit t.request

/-- Makes one call after the other. -/
def callAll (s : Desk) : List Turn → Desk × List (Except LinkError Worker.Reply)
  | [] => (s, [])
  | t :: ts =>
    let (s, reply) := s.call t
    let (s, replies) := s.callAll ts
    (s, reply :: replies)

end Desk
end MessageBroker
