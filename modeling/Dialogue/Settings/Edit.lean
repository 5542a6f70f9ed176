/-
Changing one setting by its name.

Texts are taken without the white space around them.  A timeout is a whole number of
seconds, or the word `none`.  An edit that is refused changes nothing.
-/
import Dialogue.Settings
import Dialogue.Text.Digits

namespace Dialogue.Settings

/-- Why an edit is refused. -/
inductive EditError where
  | unknownKey (key : String)
  | badFraming (key value : String)
  | badTimeout (key value : String)
  deriving DecidableEq, Repr

/-- The refusal for the user's eyes. -/
def EditError.message : EditError → String
  | .unknownKey key => "unknown setting '" ++ key ++ "' on `set-settings-field`"
  | .badFraming key value =>
    "invalid value '" ++ value ++ "' for setting '" ++ key ++ "' on `set-settings-field`"
  | .badTimeout key value =>
    "invalid value '" ++ value ++ "' for setting '" ++ key ++ "' on `parse-timeout-setting`"

/-- Seconds, or none of them for the word `none` in any case. -/
def readTimeout? (value : String) : Option (Option Nat) :=
  if value.map Char.toLower = "none" then some none
  else (Text.natural64? value).map some

/-- Gives a field the value that a text says. -/
def setField (s : Settings) (key value : String) : Except EditError Settings :=
  let value := Text.trim value
  let timeout (put : Option Nat → Settings) : Except EditError Settings :=
    match readTimeout? value with
    | some t => .ok (put t)
    | none => .error (.badTimeout key value)
  match key with
  | "chat_endpoint" => .ok { s with chatEndpoint := value }
  | "history_endpoint" => .ok { s with historyEndpoint := value }
  | "api_token" => .ok { s with apiToken := value }
  | "canceled_message" => .ok { s with canceledMessage := value }
  | "framing" =>
    match Framing.ofName? value with
    | some framing => .ok { s with framing }
    | none => .error (.badFraming key value)
  | "request_timeout_secs" => timeout fun t => { s with requestTimeout := t }
  | "read_timeout_secs" => timeout fun t => { s with readTimeout := t }
  | _ => .error (.unknownKey key)

end Dialogue.Settings
