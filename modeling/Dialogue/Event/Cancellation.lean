/-
Asking work to stop.

Asking sets a flag that stays set, and wakes one of those who wait for it, the one who
has waited longest; if nobody waits, the waking is kept for the next.  Who comes when the
flag is set does not wait at all.  A wait is known by a number; it is woken but not yet
over until it is polled, and if it is dropped then, the waking goes on to the next.
-/
namespace Dialogue.Event

/-- A flag, and who waits for it to be set. -/
structure Cancellation where
  requested : Bool := false
  /-- A waking that found nobody waiting. -/
  kept : Bool := false
  /-- The waits that were polled and go on, the oldest first. -/
  waiting : List Nat := []
  /-- The waits that were woken and not polled since. -/
  woken : List Nat := []
  deriving DecidableEq, Repr

namespace Cancellation

/-- Wakes the oldest wait, or keeps the waking. -/
def wakeOne (c : Cancellation) : Cancellation :=
  match c.waiting with
  | [] => { c with kept := true }
  | w :: rest => { c with waiting := rest, woken := w :: c.woken }

/-- Asks to stop, and tells whether it is the first time. -/
def cancel (c : Cancellation) : Bool × Cancellation :=
  if c.requested then (false, c) else (true, { c with requested := true }.wakeOne)

/-- Polls a wait, and tells whether it is over.  One that is new looks at the flag first. -/
def poll (c : Cancellation) (w : Nat) : Bool × Cancellation :=
  if w ∈ c.woken then (true, { c with woken := c.woken.erase w })
  else if w ∈ c.waiting then (false, c)
  else if c.requested then (true, c)
  else if c.kept then (true, { c with kept := false })
  else (false, { c with waiting := c.waiting ++ [w] })

/-- Gives a wait up. -/
def drop (c : Cancellation) (w : Nat) : Cancellation :=
  if w ∈ c.woken then { c with woken := c.woken.erase w }.wakeOne
  else { c with waiting := c.waiting.erase w }

end Cancellation

end Dialogue.Event
