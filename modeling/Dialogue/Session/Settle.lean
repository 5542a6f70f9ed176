/-
Running workers and drivers until nothing moves.

The worker of a request first sends all it has, then the driver takes everything up, and
then the worker sees whether the driver has dropped the stream.  After that neither has
anything left to do until someone else acts, so going once over the requests is enough.
-/
import Dialogue.Session.Call

namespace Dialogue.Session

/-- The number of times that the worker of a request has to run to send all it has. -/
def batchesLeft (s : Session) (number : Nat) : Nat :=
  match s.request? number with
  | none => 0
  | some r =>
    match r.feed.worker with
    | .working plan => plan.batches.length + 1
    | .gone => 0

/-- The number of times that the driver of a request has to receive to find it empty. -/
def queued (s : Session) (number : Nat) : Nat :=
  match s.request? number with
  | some r => r.feed.stream.queue.length + 1
  | none => 0

/-- Runs the worker of a request until it has sent all it has. -/
def runWorker (s : Session) (number : Nat) : Session :=
  (s.batchesLeft number).repeat (·.workerStep number) s

/-- Runs the driver of a request until it has received all that was sent. -/
def runDriver (s : Session) (number : Nat) : Session :=
  (s.queued number).repeat (·.driverStep number) s

/-- Runs everything until nothing moves. -/
def settle (s : Session) : Session :=
  (s.requests.map (·.number)).foldl
    (fun s n => ((s.runWorker n).runDriver n).runWorker n) s

end Dialogue.Session
