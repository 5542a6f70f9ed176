/-
Notices: what the user is told of that belongs to no turn.
-/
namespace Dialogue

/-- How much a notice matters. -/
inductive Severity where
  | info
  | warning
  | error
  deriving DecidableEq, Repr

/-- The severity as the shell prints it. -/
def Severity.label : Severity → String
  | .info => "info"
  | .warning => "warning"
  | .error => "error"

/-- Something that the user is told. -/
structure Notice where
  severity : Severity
  text : String
  deriving DecidableEq, Repr

/-- The level under which a log keeps a notice. -/
def Severity.logLevel : Severity → String
  | .info => "INFO"
  | .warning => "WARN"
  | .error => "ERROR"

/-- A channel for notices: those that were sent and not yet received. -/
structure NoticeChannel where
  isHeard : Bool := true
  queue : List Notice := []
  deriving DecidableEq, Repr

/-- A notice that nobody hears is lost. -/
def NoticeChannel.send (c : NoticeChannel) (n : Notice) : NoticeChannel :=
  if c.isHeard then { c with queue := c.queue ++ [n] } else c

end Dialogue
