/-
Calls that take time: aborting the request, starting a new chat, waiting for idleness.

A call is polled again and again until it has an outcome.  Waiting looks at nothing but
the phase at the moment of the poll, so a call that is polled late may find the session
busy with a newer request, and waits on.
-/
import Dialogue.Session

namespace Dialogue

/-- What can be asked of a session that takes time. -/
inductive Call where
  | abort
  | newChat
  | waitIdle
  deriving DecidableEq, Repr

/-- How far a call has come. -/
inductive Stage where
  /-- It was not polled yet. -/
  | fresh
  /-- It has done what it does at once, and waits for idleness. -/
  | waiting
  deriving DecidableEq, Repr

/-- What a call answers: whether there was a request to abort, or nothing. -/
inductive Outcome where
  | aborted (b : Bool)
  | finished
  deriving DecidableEq, Repr

namespace Session

/-- Asks the active request to stop if the session is streaming, and tells whether it was. -/
def beginAbort (s : Session) : Bool × Session :=
  match s.phase, s.active with
  | .streaming, some a => (true, (s.setPhase .canceling).cancelRequest a.number)
  | _, _ => (false, s)

/-- What a call that waits does at a poll. -/
def pollWaiting (s : Session) (c : Call) : Option Outcome × Session :=
  if s.phase = .idle then
    match c with
    | .abort => (some (.aborted true), s)
    | .newChat => (some .finished, { s with store := s.store.reset })
    | .waitIdle => (some .finished, s)
  else (none, s)

/-- Polls a call. -/
def poll (s : Session) (c : Call) : Stage → Option Outcome × Session
  | .waiting => s.pollWaiting c
  | .fresh =>
    match c with
    | .abort =>
      let (began, s) := s.beginAbort
      if began then s.pollWaiting .abort else (some (.aborted false), s)
    | .newChat => s.beginAbort.2.pollWaiting .newChat
    | .waitIdle => s.pollWaiting .waitIdle

end Session

end Dialogue
