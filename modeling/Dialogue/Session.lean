/-
A session: one conversation and at most one request at a time.

A request that is accepted has a worker, which fills its stream, and a driver, which
receives the events and folds them into the turn.  Both run on their own; what they do at
one time is a step here, and any order of steps is possible.  The session is idle,
streaming or canceling; the phase is idle exactly while no request is active.

After a request was asked to stop its driver receives what is still sent, but takes none
of it up.  When the stream ends, or a terminal event was taken up, the driver resolves
the turn, drops the stream and gives the session back to idleness.
-/
import Dialogue.Event.Stream
import Dialogue.Question
import Dialogue.Store
import Dialogue.Text.Blank

namespace Dialogue

/-- What the session is doing, as observers see it. -/
inductive Phase where
  | idle
  | streaming
  | canceling
  deriving DecidableEq, Repr

/-- The phase as messages name it. -/
def Phase.name : Phase → String
  | .idle => "Idle"
  | .streaming => "Streaming"
  | .canceling => "Canceling"

/-- A request that was accepted. -/
structure Request where
  number : Nat
  turn : TurnId
  /-- What the service is asked. -/
  asked : Question
  feed : Event.Feed
  /-- Is its driver still at work? -/
  isDriven : Bool := true
  deriving DecidableEq, Repr

/-- The request that the session is busy with. -/
structure Active where
  number : Nat
  turn : TurnId
  deriving DecidableEq, Repr

/-- What a turn is told that the user ended, unless the settings say otherwise. -/
def defaultCanceledMessage : String := "Request aborted"

/-- What a turn is told whose stream ended without a terminal event. -/
def unterminatedMessage : String := "stream ended before a terminal event"

/-- The conversation, the requests that were made of it, and what observers see. -/
structure Session where
  store : Store := {}
  phase : Phase := .idle
  /-- How often observers of the phase were told. -/
  phaseEdition : Nat := 0
  active : Option Active := none
  /-- Every request that was accepted, the oldest first. -/
  requests : List Request := []
  canceledMessage : String := defaultCanceledMessage
  mint : Mint := {}
  deriving DecidableEq, Repr

/-- Why a question was not accepted. -/
inductive SubmitError where
  | busy (phase : Phase)
  | emptyQuestion
  | notRecorded (e : StoreError)
  deriving DecidableEq, Repr

/-- Why the question was not accepted, and at which step. -/
def SubmitError.message : SubmitError → String
  | .busy phase => "a request is already in flight (" ++ phase.name ++ ") on `submit-prompt`"
  | .emptyQuestion => "question is empty on `submit-prompt`"
  | .notRecorded e => "failed to record question on `append-user-turn`: " ++ e.message

namespace Session

/-- Moves to a phase, and tells observers. -/
def setPhase (s : Session) (p : Phase) : Session :=
  { s with phase := p, phaseEdition := s.phaseEdition + 1 }

/-- The request of a number. -/
def request? (s : Session) (number : Nat) : Option Request :=
  s.requests.find? (·.number = number)

/-- Changes the request of a number. -/
def updateRequest (s : Session) (number : Nat) (f : Request → Request) : Session :=
  { s with requests := s.requests.map fun r => if r.number = number then f r else r }

/-! ### Asking -/

/-- Takes a question; `feed` is what the service opens for it.  Only an idle session takes
one, and questions are never queued. -/
def submit (s : Session) (feed : Event.Feed) (question : String) :
    Except SubmitError TurnId × Session :=
  if Text.isBlankText question then (.error .emptyQuestion, s)
  else if s.phase ≠ .idle then (.error (.busy s.phase), s)
  else
    let (id, mint) := s.mint.take
    match s.store.append id question with
    | .error e => (.error (.notRecorded e), { s with mint })
    | .ok store =>
      let number := s.requests.length + 1
      let asked : Question := { question, chatId := store.conversation.chatId }
      (.ok id, { s with
        store, mint
        phase := .streaming
        phaseEdition := s.phaseEdition + 1
        active := some ⟨number, id⟩
        requests := s.requests ++ [{ number, turn := id, asked, feed }] })

/-! ### The worker and the driver -/

/-- The worker of a request runs once. -/
def workerStep (s : Session) (number : Nat) : Session :=
  s.updateRequest number fun r => { r with feed := r.feed.pollWorker.2 }

/-- Folds into the turn of an id, if it is pending. -/
def fold (s : Session) (id : TurnId) (f : Turn → Turn) : Session :=
  { s with store := (s.store.foldPending id f).2 }

/-- The driver ends: it drops the stream, and the session is idle if it was busy with this
request. -/
def finishDriver (s : Session) (r : Request) : Session :=
  let s := s.updateRequest r.number fun r =>
    { r with feed := { r.feed with stream := r.feed.stream.drop }, isDriven := false }
  if s.active.any (·.number = r.number) then { s with active := none }.setPhase .idle else s

/-- How the turn is resolved when the stream has ended without a terminal event. -/
def resolution (s : Session) (r : Request) (t : Turn) : Turn :=
  if r.feed.stream.isCancelled then t.cancel s.canceledMessage
  else t.accumulate (.failure unterminatedMessage)

/-- The driver of a request receives once. -/
def driverStep (s : Session) (number : Nat) : Session :=
  match s.request? number with
  | none => s
  | some r =>
    if !r.isDriven then s
    else
      let (reception, stream) := r.feed.stream.receive
      let s := s.updateRequest number fun r => { r with feed := { r.feed with stream } }
      match reception with
      | .pending => s
      | .event e =>
        if stream.isCancelled then s
        else
          let s := s.fold r.turn fun t => t.accumulate e
          if e.isTerminal then s.finishDriver r else s
      | .closed => (s.fold r.turn (s.resolution r)).finishDriver r

/-! ### From outside -/

/-- Puts an event into the stream of a request, and tells whether anyone receives it; none
if the stream is closed. -/
def emit (s : Session) (number : Nat) (e : Event) : Option Bool × Session :=
  match s.request? number with
  | none => (none, s)
  | some r =>
    if r.feed.stream.isOpen then
      let (heard, stream) := r.feed.stream.send e
      (some heard, s.updateRequest number fun r => { r with feed := { r.feed with stream } })
    else (none, s)

/-- Closes the stream of a request, and tells whether it was open. -/
def closeStream (s : Session) (number : Nat) : Bool × Session :=
  match s.request? number with
  | none => (false, s)
  | some r =>
    (r.feed.stream.isOpen, s.updateRequest number fun r =>
      { r with feed := { r.feed with stream := r.feed.stream.close } })

/-- Asks the worker of a request to stop. -/
def cancelRequest (s : Session) (number : Nat) : Session :=
  s.updateRequest number fun r =>
    { r with feed := { r.feed with stream := r.feed.stream.cancel.2 } }

end Session

end Dialogue
