/-
Settings as JSON.

They are written one setting a line, in a fixed order.  Reading fills what is absent with
the defaults.
-/
import Dialogue.Settings
import Dialogue.Json.Shape

namespace Dialogue.Settings

open Json

/-! ### Writing -/

/-- A timeout as a value; `null` is none. -/
def timeoutValue : Option Nat → Value
  | none => .null
  | some n => .number (.integer n)

/-- The settings under their names, in the order of the file. -/
def members (s : Settings) : List (String × Value) :=
  [("chat_endpoint", .text s.chatEndpoint),
   ("history_endpoint", .text s.historyEndpoint),
   ("api_token", .text s.apiToken),
   ("framing", .text s.framing.name),
   ("canceled_message", .text s.canceledMessage),
   ("request_timeout_secs", timeoutValue s.requestTimeout),
   ("read_timeout_secs", timeoutValue s.readTimeout)]

/-- The text of a settings file. -/
def fileText (s : Settings) : String := prettyMembers s.members

/-! ### Reading -/

/-- What was read of settings. -/
structure Draft where
  chatEndpoint : Option String := none
  historyEndpoint : Option String := none
  apiToken : Option String := none
  framing : Option Framing := none
  canceledMessage : Option String := none
  requestTimeout : Option (Option Nat) := none
  readTimeout : Option (Option Nat) := none

/-- The members of a settings file; none of them has to be there. -/
def record : Record Draft Settings where
  title := "struct EngineSettings"
  start := {}
  fields := [
    .of "chat_endpoint" (·.chatEndpoint) (fun v d => { d with chatEndpoint := some v })
      (fun _ => readText) false,
    .of "history_endpoint" (·.historyEndpoint) (fun v d => { d with historyEndpoint := some v })
      (fun _ => readText) false,
    .of "api_token" (·.apiToken) (fun v d => { d with apiToken := some v })
      (fun _ => readText) false,
    .of "framing" (·.framing) (fun v d => { d with framing := some v })
      (fun depth => readName Framing.names depth) false,
    .of "canceled_message" (·.canceledMessage) (fun v d => { d with canceledMessage := some v })
      (fun _ => readText) false,
    .of "request_timeout_secs" (·.requestTimeout)
      (fun v d => { d with requestTimeout := some v }) (fun _ => readOptional readNatural) false,
    .of "read_timeout_secs" (·.readTimeout) (fun v d => { d with readTimeout := some v })
      (fun _ => readOptional readNatural) false]
  finish d := .ok {
    chatEndpoint := d.chatEndpoint.getD defaultChatEndpoint
    historyEndpoint := d.historyEndpoint.getD defaultHistoryEndpoint
    apiToken := d.apiToken.getD ""
    framing := d.framing.getD .eventLines
    canceledMessage := d.canceledMessage.getD defaultCanceledMessage
    requestTimeout := d.requestTimeout.join
    readTimeout := d.readTimeout.join }

/-- The settings that a text holds. -/
def parse (s : String) : Except Problem Settings := readString (record.read nestingLimit) s

end Dialogue.Settings
