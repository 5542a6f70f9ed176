/-
One line of a stream, as JSON.

A line may hold a chunk, sources, a failure and the end at once; they become events in
this order.  An empty chunk is no event, and a failure leaves no room for the end.  Blank
lines hold nothing.
-/
import Dialogue.Event
import Dialogue.Source.Json
import Dialogue.Text.Blank

namespace Dialogue.Event

open Json

/-- What a line holds; a member is none if it was not read. -/
structure Line where
  chunk : Option (Option String) := none
  sources : Option (Option (List Source)) := none
  failure : Option (Option String) := none
  done : Option Bool := none

/-- The events of a line: chunk, sources, then the failure or else the end. -/
def Line.events (l : Line) : List Event :=
  (match l.chunk.join with
    | some text => if text = "" then [] else [.chunk text]
    | none => []) ++
  (match l.sources.join with
    | some docs => [.sources docs]
    | none => []) ++
  (match l.failure.join with
    | some message => [.failure message]
    | none => if l.done.getD false then [.done] else [])

/-- The members that a line may have; none of them has to be there. -/
def lineRecord : Record Line (List Event) where
  title := "struct WireEvent"
  start := {}
  fields := [
    .of "chunk" (·.chunk) (fun v l => { l with chunk := some v })
      (fun _ => readOptional readText) false,
    .of "sources" (·.sources) (fun v l => { l with sources := some v })
      (fun depth => readOptional (Source.readList depth)) false,
    .of "error" (·.failure) (fun v l => { l with failure := some v })
      (fun _ => readOptional readText) false,
    .of "done" (·.done) (fun v l => { l with done := some v }) (fun _ => readBool) false]
  finish l := .ok l.events

/-- The events of a line. -/
def parseLine (line : String) : Except Problem (List Event) :=
  let line := Text.trim line
  if line = "" then .ok [] else readString (lineRecord.read nestingLimit) line

end Dialogue.Event
