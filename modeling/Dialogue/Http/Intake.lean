/-
Events of an answer while it arrives.

A successful answer is decoded piece by piece.  Of any other the body is gathered, and at
its end becomes one failure.
-/
import Dialogue.Http.Chat
import Dialogue.Http.Wire

namespace Dialogue.Http

/-- What is done with the body of an answer. -/
inductive Intake where
  | decoding (d : Event.Decoder)
  /-- The body so far, the last piece first. -/
  | gathering (status : Nat) (pieces : List (List UInt8))

namespace Intake

/-- The intake of an answer of this status. -/
def ofStatus (framing : Framing) (status : Nat) : Intake :=
  if Answer.isSuccess ⟨status, [], .complete⟩ then .decoding { framing }
  else .gathering status []

/-- Takes a piece in, and tells its events. -/
def push (i : Intake) (piece : List UInt8) : List Event × Intake :=
  match i with
  | .decoding d => let (events, d) := d.push piece; (events, .decoding d)
  | .gathering status pieces => ([], .gathering status (piece :: pieces))

/-- Has the terminal event been told? -/
def isOver : Intake → Bool
  | .decoding d => d.terminated
  | .gathering _ _ => false

/-- The events of the end. -/
def finish (i : Intake) (ending : Ending) : List Event :=
  match i with
  | .decoding d =>
    if d.terminated then []
    else if ending = .complete then d.finish.1
    else [Event.brokenBody brokenOff]
  | .gathering status pieces =>
    [.failure (Answer.rejection ⟨status, pieces.reverse, ending⟩).message]

end Intake

/-! ### Over a connection -/

/-- An answer on its way over a connection. -/
structure Transfer where
  request : Request
  framing : Framing
  reader : AnswerReader := {}
  /-- None before the head of the answer is complete. -/
  intake : Option Intake := none

namespace Transfer

/-- Takes bytes in as they come, and tells their events. -/
def receive (t : Transfer) (bytes : List UInt8) : List Event × Transfer :=
  let (piece, reader) := t.reader.push bytes
  let t := { t with reader }
  match t.intake with
  | none =>
    if reader.isInBody then
      let (events, i) := (Intake.ofStatus t.framing reader.status).push piece
      (events, { t with intake := some i })
    else ([], t)
  | some i => let (events, i) := i.push piece; (events, { t with intake := some i })

/-- Is nothing more to come? -/
def isOver (t : Transfer) : Bool := t.reader.isOver || t.intake.any Intake.isOver

/-- The events of the end of a connection, which may be by force. -/
def finish (t : Transfer) (byForce : Bool) : List Event :=
  match t.intake with
  | none => [.failure (Failure.notSent .chat (.unanswered t.request.url.text)).message]
  | some i => i.finish (if byForce then .broken else t.reader.ending)

end Transfer

end Dialogue.Http
