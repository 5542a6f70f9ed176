/-
Letting the shell do all that it can.

Once workers and drivers have come to rest, a command that waited has its idle session;
what it does then moves nothing else.  So one round over the session, the command, the
change of the conversation and the notices is enough.
-/
import Dialogue.Shell

namespace Dialogue.Shell

/-- Prints all notices. -/
def serveNotices (s : Shell) : Shell × Printed :=
  s.notices.foldl (fun a _ =>
    let (s, p) := a.1.serveNotice
    (s, a.2 ++ p)) (s, {})

variable {m : Type → Type} [Monad m]

/-- Goes on until there is nothing left to do but wait. -/
def settle (w : World m) (s : Shell) : m (Shell × Printed) := do
  let (s, p) ← ({ s with session := s.session.settle } : Shell).resume w
  let s := { s with session := s.session.settle }
  let (s, q) := s.serveUpdate
  let (s, r) := s.serveNotices
  return (s, p ++ q ++ r)

/-- Serves a line and all that comes of it. -/
def typeLine (w : World m) (s : Shell) (line : List UInt8) : m (Shell × Printed) := do
  let (s, p) ← s.serveBytes w line
  let (s, q) ← s.settle w
  return (s, p ++ q)

/-- Serves lines that were typed at once.  Each is there before anything comes of the one before
it, so it is served next, unless that one makes the shell wait. -/
def typeLines (w : World m) (s : Shell) : List (List UInt8) → m (Shell × Printed)
  | [] => return (s, {})
  | [line] => s.typeLine w line
  | line :: lines => do
    let (s, p) ← s.serveBytes w line
    let (s, q) ← if s.awaited.isSome then ({ s with session := s.session.settle } : Shell).resume w
      else pure (s, {})
    let (s, r) ← s.typeLines w lines
    return (s, p ++ q ++ r)

end Dialogue.Shell
