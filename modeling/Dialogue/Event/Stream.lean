/-
The events of one request on their way from the worker to who receives them.

A stream is a queue with two ends.  It is open as long as anyone holds the sending end;
what was sent before stays to be received.  Who drops the receiving end asks the worker
to stop.  A worker sends its batches of events one after another and then ends, or waits
for ever; before each batch it looks whether it was asked to stop.
-/
import Dialogue.Event.Cancellation
import Dialogue.Event

namespace Dialogue.Event

/-! ### The stream -/

/-- A queue of events, who holds its two ends, and whether its worker was asked to stop. -/
structure Stream where
  /-- Events that were sent and not received, the oldest first. -/
  queue : List Event := []
  /-- Does the worker hold the sending end? -/
  workerSends : Bool := true
  /-- Does anyone else hold it? -/
  othersSend : Bool := false
  /-- Is the receiving end held? -/
  isReceived : Bool := true
  cancellation : Cancellation := {}
  deriving DecidableEq, Repr

/-- What receiving finds. -/
inductive Reception where
  | event (e : Event)
  | pending
  | closed
  deriving DecidableEq, Repr

namespace Stream

/-- Can anything still be sent? -/
def isOpen (s : Stream) : Bool := s.workerSends || s.othersSend

/-- Sends an event, and tells whether anyone can receive it. -/
def send (s : Stream) (e : Event) : Bool × Stream :=
  if s.isReceived then (true, { s with queue := s.queue ++ [e] }) else (false, s)

/-- Takes the oldest event off the queue.  An empty one is pending as long as it is open,
and closed then. -/
def receive (s : Stream) : Reception × Stream :=
  match s.queue with
  | e :: rest => (.event e, { s with queue := rest })
  | [] => (if s.isOpen then .pending else .closed, s)

/-- Gives up every sending end. -/
def close (s : Stream) : Stream := { s with workerSends := false, othersSend := false }

/-- Asks the worker to stop, and tells whether it is the first time. -/
def cancel (s : Stream) : Bool × Stream :=
  let (first, cancellation) := s.cancellation.cancel
  (first, { s with cancellation })

/-- Was the worker asked to stop? -/
def isCancelled (s : Stream) : Bool := s.cancellation.requested

/-- Gives up the receiving end; what was not received is lost. -/
def drop (s : Stream) : Stream := { s.cancel.2 with isReceived := false, queue := [] }

end Stream

/-! ### The worker -/

/-- What a worker is going to send. -/
structure Plan where
  batches : List (List Event) := []
  /-- Does the worker wait for ever behind its last batch? -/
  holds : Bool := false
  deriving DecidableEq, Repr

/-- The one that fills a stream. -/
inductive Worker where
  /-- It still has this to send. -/
  | working (plan : Plan)
  /-- It has ended, or was dropped. -/
  | gone
  deriving DecidableEq, Repr

/-- What polling a worker tells. -/
inductive WorkerReply where
  | pending
  | finished
  | gone
  deriving DecidableEq, Repr

/-- A stream and the worker that fills it. -/
structure Feed where
  stream : Stream := {}
  worker : Worker
  deriving DecidableEq, Repr

namespace Feed

/-- The number of the worker's own wait for its cancellation. -/
def workerWait : Nat := 0

/-- The worker is no more: neither does it send nor wait. -/
def endWorker (f : Feed) : Feed :=
  match f.worker with
  | .gone => f
  | .working _ =>
    { stream := { f.stream with
        workerSends := false, cancellation := f.stream.cancellation.drop workerWait }
      worker := .gone }

/-- Sends a batch in order. -/
def sendAll (s : Stream) (batch : List Event) : Stream := batch.foldl (fun s e => (s.send e).2) s

/-- Polls the worker once: if it was asked to stop it ends, else it sends its next batch. -/
def pollWorker (f : Feed) : WorkerReply × Feed :=
  match f.worker with
  | .gone => (.gone, f)
  | .working plan =>
    let (stop, cancellation) := f.stream.cancellation.poll workerWait
    let f := { f with stream := { f.stream with cancellation } }
    if stop then (.finished, f.endWorker)
    else
      let (batch, rest) := match plan.batches with
        | [] => ([], [])
        | b :: rest => (b, rest)
      let f : Feed := ⟨sendAll f.stream batch, .working { plan with batches := rest }⟩
      if rest.isEmpty && !plan.holds then (.finished, f.endWorker) else (.pending, f)

end Feed

end Dialogue.Event
