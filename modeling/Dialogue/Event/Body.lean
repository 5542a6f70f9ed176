/-
Reading the body of an answer.

The body is read part by part until its events have ended, no one receives them any more,
reading fails, or there are no more parts.
-/
import Dialogue.Event.Decoder

namespace Dialogue.Event

/-- A part of a body: bytes, or a failure to read more. -/
inductive Part where
  | data (bytes : List UInt8)
  | broken (reason : String)
  deriving DecidableEq, Repr

/-- The event for a failure to read. -/
def brokenBody (reason : String) : Event := .failure ("failed to read response body: " ++ reason)

/-- What came of reading a body: for each part taken the events that it brought, and those
of the end of the body, if it was reached. -/
structure Reading where
  batches : List (List Event) := []
  /-- The events at the end of the body; none if reading stopped before. -/
  last : Option (List Event) := none
  deriving Repr, DecidableEq

namespace Reading

/-- All events of the body, in order. -/
def events (r : Reading) : List Event := r.batches.flatten ++ r.last.getD []

/-- How many parts were read before reading stopped. -/
def partsTaken (r : Reading) : Nat := r.batches.length

/-- The reading of a body with one more part before the others. -/
def cons (batch : List Event) (r : Reading) : Reading := { r with batches := batch :: r.batches }

end Reading

/-- Reads a body with a decoder; `heard` says whether anyone receives the events. -/
def readBody (heard : Bool) (d : Decoder) : List Part → Reading
  | [] => { last := some d.finish.1 }
  | .data bytes :: rest =>
    let (events, d) := d.push bytes
    if (!heard && !events.isEmpty) || d.terminated then { batches := [events] }
    else (readBody heard d rest).cons events
  | .broken reason :: _ => { batches := [[brokenBody reason]] }

end Dialogue.Event
