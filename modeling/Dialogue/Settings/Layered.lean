/-
Settings from a file and the environment.

The environment counts over the file, and the file over the defaults.  If anything of it
has the wrong kind, all of it is passed over and the defaults hold as they are; otherwise
the settings are normalised.
-/
import Dialogue.Disk
import Dialogue.Json.Shape
import Dialogue.Settings
import Dialogue.Settings.Environment

namespace Dialogue.Settings

/-! ### One setting -/

/-- A setting that is a text, or what it falls back to if it is absent; no answer if it has
the wrong kind. -/
def textOf? (l : Layer) (name fallback : String) : Option String :=
  match l.value? name with
  | none => some fallback
  | some (.text s) => some s
  | some _ => none

/-- A setting that is a timeout, and none if it is absent or `null`; no answer if it has the
wrong kind. -/
def timeoutOf? (l : Layer) (name : String) : Option (Option Nat) :=
  match l.value? name with
  | none | some .null => some none
  | some (.whole (.ofNat n)) => some (some n)
  | some _ => none

/-- The framing's name stands as a text, or as the first member of a group, which is to be
`null`. -/
def framingOf? (l : Layer) : Option Framing :=
  match l.value? "framing" with
  | none => some .eventLines
  | some (.text name) => Framing.ofName? name
  | some (.group ((name, true) :: _)) => Framing.ofName? name
  | some _ => none

/-! ### All settings -/

/-- The settings of a layer, unless one has the wrong kind. -/
def ofLayer? (l : Layer) : Option Settings := do
  return {
    chatEndpoint := ← textOf? l "chat_endpoint" defaultChatEndpoint
    historyEndpoint := ← textOf? l "history_endpoint" defaultHistoryEndpoint
    apiToken := ← textOf? l "api_token" ""
    framing := ← framingOf? l
    canceledMessage := ← textOf? l "canceled_message" defaultCanceledMessage
    requestTimeout := ← timeoutOf? l "request_timeout_secs"
    readTimeout := ← timeoutOf? l "read_timeout_secs" }

/-- The layer of what stands at the place of the settings file; a file has to hold an
object. -/
def fileLayer? : Found → Option Layer
  | .nothing => some []
  | .unreadable => none
  | .content bytes =>
    match Json.readWhole (Json.readValue Json.nestingLimit) bytes with
    | .ok (.object members) => some (members.map fun m => (m.1, Loose.ofJson m.2))
    | _ => none

/-- The settings that hold, given what stands at the place of the file and the variables
of the environment. -/
def ofFound (found : Found) (environment : List (String × String)) : Settings :=
  match (fileLayer? found).bind fun l => ofLayer? ((Environment.layer environment).above l) with
  | some s => s.normalized
  | none => {}

end Dialogue.Settings
