/-
The shell: lines are typed, answers are printed while they grow.

The shell serves one thing at a time: a line, a change of the conversation, or a notice.
Which of them comes first is open.  Of several changes it sees only the last.  A command
that waits for the session to be idle keeps the shell from serving anything else until
then; workers and drivers go on.

What a line needs from outside, a disk and two services, is a world in some monad, so the
shell is the same over a disk in memory and over a real one.
-/
import Dialogue.History.Reopen
import Dialogue.Services
import Dialogue.Session.Settle
import Dialogue.Settings.Kept
import Dialogue.Shell.Command
import Dialogue.Shell.Follow

namespace Dialogue

/-- What is printed, on the output and on the error output. -/
structure Printed where
  out : String := ""
  err : String := ""
  deriving DecidableEq, Repr

namespace Printed

/-- One text behind another. -/
def append (p q : Printed) : Printed := ⟨p.out ++ q.out, p.err ++ q.err⟩

instance : Append Printed := ⟨append⟩

/-- A line on the output. -/
def outLine (s : String) : Printed := { out := s ++ "\n" }

/-- A line for the user on the error output, behind an exclamation mark. -/
def errLine (s : String) : Printed := { err := "! " ++ s ++ "\n" }

end Printed

/-- What is outside: a disk, and what services answer. -/
structure World (m : Type → Type) where
  disk : Disk m
  /-- What the worker of a question is going to send. -/
  ask : Http.ChatService → Question → m Event.Plan
  /-- The chat of an id; none if the answer does not come. -/
  fetch : Http.Archive → String → m (Option (Except Http.Failure History))

namespace Shell

/-- A command that waits. -/
inductive Awaited where
  | newChat
  | stop
  | openChat (chatId : String)
  /-- An answer that does not come. -/
  | endless
  deriving DecidableEq, Repr

/-- The call that a command waits for. -/
def Awaited.call? : Awaited → Option Call
  | .newChat => some .newChat
  | .stop => some .abort
  | .openChat _ => some .abort
  | .endless => none

end Shell

/-- The shell: what it has to work with, what it follows, and what it waits for. -/
structure Shell where
  services : Services
  kept : KeptSettings
  session : Session
  /-- The edition of the store that was looked at last. -/
  seen : Nat := 0
  followed : Option Shell.Follow := none
  /-- Notices that were not printed yet. -/
  notices : List Notice := []
  awaited : Option Shell.Awaited := none
  isOver : Bool := false

namespace Shell

/-- A shell with the settings in force at its start. -/
def start (kept : KeptSettings) : Except Http.Failure Shell := do
  let services ← Services.ofSettings kept.current
  return { services, kept, session := { canceledMessage := kept.current.canceledMessage } }

/-! ### Changes and notices -/

/-- Looks at the conversation if it has changed. -/
def serveUpdate (s : Shell) : Shell × Printed :=
  if s.awaited.isSome || s.isOver || s.seen = s.session.store.edition then (s, {})
  else
    let s := { s with seen := s.session.store.edition }
    match s.followed with
    | none => (s, {})
    | some f =>
      let p := f.advance s.session.store.conversation
      ({ s with followed := if p.done then none else some p.follow }, { out := p.out })

/-- A notice behind its severity. -/
def noticeLine (n : Notice) : Printed := .errLine ("[" ++ n.severity.label ++ "] " ++ n.text)

/-- Prints the oldest notice. -/
def serveNotice (s : Shell) : Shell × Printed :=
  if s.awaited.isSome || s.isOver then (s, {})
  else match s.notices with
    | [] => (s, {})
    | n :: rest => ({ s with notices := rest }, noticeLine n)

/-! ### Commands -/

/-- The commands that there are, for a user who typed another one. -/
def commandHelp : String :=
  " (try /new, /open <id>, /stop, /settings, /set <key> <value>, /quit)"

variable {m : Type → Type} [Monad m]

/-- Asks a question, if the session takes it, and follows its turn. -/
def ask (w : World m) (s : Shell) (question : String) : m (Shell × Printed) :=
  match s.session.submit { worker := .working Http.stalled } question with
  | (.error e, session) => return ({ s with session }, .errLine e.message)
  | (.ok id, session) =>
    match session.requests.getLast? with
    | none => return ({ s with session }, {})
    | some r => do
      let plan ← w.ask s.services.chat r.asked
      let session := session.updateRequest r.number fun r =>
        { r with feed := { r.feed with worker := .working plan } }
      return ({ s with session, followed := some { turn := id } }, {})

/-- What is left of a command when its call has ended. -/
def finish (w : World m) (s : Shell) (a : Awaited) (o : Outcome) : m (Shell × Printed) :=
  match a, o with
  | .newChat, _ => return ({ s with followed := none }, .outLine "-- new chat --")
  | .stop, .aborted false => return (s, .errLine "nothing to stop")
  | .stop, _ => return (s, {})
  | .openChat chatId, _ => do
    let s := { s with followed := none }
    match ← w.fetch s.services.archive chatId with
    | none => return ({ s with awaited := some .endless }, {})
    | some reply =>
      let r := reopen s.session.store s.session.mint chatId reply
      let s := { s with
        session := { s.session with store := r.store, mint := r.mint }
        notices := s.notices ++ r.notices }
      match r.result with
      | .ok _ => return (s, { out := conversationText s.session.store.conversation })
      | .error _ => return (s, {})
  | .endless, _ => return (s, {})

/-- Polls the call of a command. -/
def pollCall (w : World m) (s : Shell) (a : Awaited) (stage : Stage) : m (Shell × Printed) :=
  match a.call? with
  | none => return (s, {})
  | some call =>
    match s.session.poll call stage with
    | (none, session) => return ({ s with session, awaited := some a }, {})
    | (some o, session) => ({ s with session, awaited := none } : Shell).finish w a o

/-- Goes on with the command that waits. -/
def resume (w : World m) (s : Shell) : m (Shell × Printed) :=
  match s.awaited with
  | none => return (s, {})
  | some a => s.pollCall w a .waiting

/-- Nothing more is served; a request under way is asked to stop. -/
def close (s : Shell) : Shell := { s with session := s.session.beginAbort.2, isOver := true }

/-- The settings in force, each on an indented line behind a headline. -/
def settingsText (k : KeptSettings) : String :=
  "-- settings (" ++ k.path ++ ") --\n" ++
    String.join (k.current.describe.map fun line => "  " ++ line ++ "\n")

/-- Changes a setting.  What runs goes on with the settings of the start. -/
def set (w : World m) (s : Shell) (key value : String) : m (Shell × Printed) := do
  match ← s.kept.set w.disk key value with
  | (.ok (), kept) =>
    return ({ s with kept }, .outLine ("-- saved " ++ key ++ "; restart to apply --"))
  | (.error e, kept) => return ({ s with kept }, .errLine e.message)

/-- Does what a command asks for.  A wrong use is told, and changes nothing. -/
def serveCommand (w : World m) (s : Shell) : Command → m (Shell × Printed)
  | .ask question => s.ask w question
  | .newChat => s.pollCall w .newChat .fresh
  | .openChat chatId =>
    if chatId = "" then return (s, .errLine "usage: /open <chat-id>")
    else s.pollCall w (.openChat chatId) .fresh
  | .stop => s.pollCall w .stop .fresh
  | .showSettings => return (s, { out := settingsText s.kept })
  | .set key value =>
    if key = "" || value = "" then return (s, .errLine "usage: /set <key> <value>")
    else s.set w key value
  | .quit => return (s.close, {})
  | .unknown name => return (s, .errLine ("unknown command /" ++ name ++ commandHelp))

/-- Serves a typed line. -/
def serveLine (w : World m) (s : Shell) (line : String) : m (Shell × Printed) :=
  match Command.parse? line with
  | none => return (s, {})
  | some c => s.serveCommand w c

/-- Serves a line as it was typed; one that is not text ends the shell. -/
def serveBytes (w : World m) (s : Shell) (line : List UInt8) : m (Shell × Printed) :=
  if s.awaited.isSome || s.isOver then return (s, {})
  else match Text.Utf8.strict? line with
    | none => return (s.close, {})
    | some line => s.serveLine w line

end Shell

end Dialogue
