/-
Settings: where the services are, how to read them, and what to say.

Normalised settings have no white space around their texts, a default in the place of a
blank text where there is one, and no timeout of zero.
-/
import Dialogue.Http.Chat
import Dialogue.Session

namespace Dialogue

/-- Where the chat service is unless the settings say otherwise. -/
def defaultChatEndpoint : String := "http://127.0.0.1:8000/api/chat"

/-- Where the history service is unless the settings say otherwise. -/
def defaultHistoryEndpoint : String := "http://127.0.0.1:8000/api/chats"

/-- What a user can set.  Timeouts are in seconds, and without one the wait has no end. -/
structure Settings where
  chatEndpoint : String := defaultChatEndpoint
  historyEndpoint : String := defaultHistoryEndpoint
  apiToken : String := ""
  framing : Framing := .eventLines
  canceledMessage : String := defaultCanceledMessage
  /-- Seconds for a whole request. -/
  requestTimeout : Option Nat := none
  /-- Seconds between two pieces of an answer. -/
  readTimeout : Option Nat := none
  deriving DecidableEq, Repr

/-! ### Names -/

/-- Both framings under their names. -/
def Framing.names : List (String × Framing) :=
  [("plain_text", .plainText), ("event_lines", .eventLines)]

/-- The name of a framing, in settings and their file. -/
def Framing.name : Framing → String
  | .plainText => "plain_text"
  | .eventLines => "event_lines"

/-- The framing of a name. -/
def Framing.ofName? (name : String) : Option Framing :=
  (Framing.names.find? (·.1 = name)).map (·.2)

namespace Settings

/-! ### Normal form -/

/-- The text without the white space around it, or the default if it is blank. -/
def nonBlankOr (fallback s : String) : String :=
  let t := Text.trim s
  if t = "" then fallback else t

/-- Some time that is not zero. -/
def positive? : Option Nat → Option Nat
  | some 0 => none
  | t => t

/-- The settings in normal form. -/
def normalized (s : Settings) : Settings where
  chatEndpoint := nonBlankOr defaultChatEndpoint s.chatEndpoint
  historyEndpoint := nonBlankOr defaultHistoryEndpoint s.historyEndpoint
  apiToken := Text.trim s.apiToken
  framing := s.framing
  canceledMessage := nonBlankOr defaultCanceledMessage s.canceledMessage
  requestTimeout := positive? s.requestTimeout
  readTimeout := positive? s.readTimeout

/-! ### Views -/

/-- The token that the settings hold, if any. -/
def token (s : Settings) : Option String := Http.fixedToken s.apiToken

/-- A timeout in milliseconds. -/
def milliseconds (t : Option Nat) : Option Nat := t.map (· * 1000)

/-- How the chat service is asked. -/
def chatConfig (s : Settings) : Http.ChatConfig :=
  .of s.chatEndpoint s.framing
    { request := milliseconds s.requestTimeout, read := milliseconds s.readTimeout }

/-- A timeout for the user's eyes. -/
def timeoutText : Option Nat → String
  | none => "none"
  | some n => String.ofList (Text.decimal n)

/-- The settings for the user's eyes, a line for each; of the token only whether it is
there. -/
def describe (s : Settings) : List String :=
  ["chat_endpoint = " ++ s.chatEndpoint,
   "history_endpoint = " ++ s.historyEndpoint,
   "api_token = " ++ (if s.apiToken = "" then "(none)" else "(set)"),
   "framing = " ++ s.framing.name,
   "canceled_message = " ++ s.canceledMessage,
   "request_timeout_secs = " ++ timeoutText s.requestTimeout,
   "read_timeout_secs = " ++ timeoutText s.readTimeout]

end Settings

end Dialogue
