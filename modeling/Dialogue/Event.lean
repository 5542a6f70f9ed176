/-
What a stream of an answer consists of.

Any number of chunks and source lists come before one terminal event, a failure or the
end.
-/
import Dialogue.Source

namespace Dialogue

/-- One thing that a service tells of an answer. -/
inductive Event where
  | chunk (text : String)
  | sources (docs : List Source)
  | failure (message : String)
  | done
  deriving DecidableEq, Repr

namespace Event

/-- Does the answer end with the event? -/
def isTerminal : Event → Bool
  | .failure _ => true
  | .done => true
  | _ => false

/-- The events up to the first terminal one, and whether there is one. -/
def upToTerminal : List Event → List Event × Bool
  | [] => ([], false)
  | e :: rest =>
    if e.isTerminal then ([e], true)
    else let r := upToTerminal rest; (e :: r.1, r.2)

end Event

end Dialogue
