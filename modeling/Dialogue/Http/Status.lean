/-
What an answer that is no success says.

Services tell what is wrong in the body, as JSON with the message in one of a few places
or as plain text.  Where the body says nothing, the name of the status does.
-/
import Dialogue.Http.Exchange
import Dialogue.Json.Shape
import Dialogue.Text.Blank

namespace Dialogue.Http

/-- The usual name of a status that is no success. -/
def statusName? : Nat → Option String
  | 100 => some "Continue"
  | 101 => some "Switching Protocols"
  | 102 => some "Processing"
  | 103 => some "Early Hints"
  | 300 => some "Multiple Choices"
  | 301 => some "Moved Permanently"
  | 302 => some "Found"
  | 303 => some "See Other"
  | 304 => some "Not Modified"
  | 305 => some "Use Proxy"
  | 307 => some "Temporary Redirect"
  | 308 => some "Permanent Redirect"
  | 400 => some "Bad Request"
  | 401 => some "Unauthorized"
  | 402 => some "Payment Required"
  | 403 => some "Forbidden"
  | 404 => some "Not Found"
  | 405 => some "Method Not Allowed"
  | 406 => some "Not Acceptable"
  | 407 => some "Proxy Authentication Required"
  | 408 => some "Request Timeout"
  | 409 => some "Conflict"
  | 410 => some "Gone"
  | 411 => some "Length Required"
  | 412 => some "Precondition Failed"
  | 413 => some "Payload Too Large"
  | 414 => some "URI Too Long"
  | 415 => some "Unsupported Media Type"
  | 416 => some "Range Not Satisfiable"
  | 417 => some "Expectation Failed"
  | 418 => some "I'm a teapot"
  | 421 => some "Misdirected Request"
  | 422 => some "Unprocessable Entity"
  | 423 => some "Locked"
  | 424 => some "Failed Dependency"
  | 425 => some "Too Early"
  | 426 => some "Upgrade Required"
  | 428 => some "Precondition Required"
  | 429 => some "Too Many Requests"
  | 431 => some "Request Header Fields Too Large"
  | 451 => some "Unavailable For Legal Reasons"
  | 500 => some "Internal Server Error"
  | 501 => some "Not Implemented"
  | 502 => some "Bad Gateway"
  | 503 => some "Service Unavailable"
  | 504 => some "Gateway Timeout"
  | 505 => some "HTTP Version Not Supported"
  | 506 => some "Variant Also Negotiates"
  | 507 => some "Insufficient Storage"
  | 508 => some "Loop Detected"
  | 510 => some "Not Extended"
  | 511 => some "Network Authentication Required"
  | _ => none

/-- The status by its number and, if it has one, its usual name. -/
def statusLine (status : Nat) : String :=
  "HTTP " ++ toString status ++ (match statusName? status with
    | some name => " " ++ name
    | none => "")

/-! ### The message in a body -/

open Json in
/-- The first text in one of the places where a message may stand. -/
def messageIn? (v : Value) : Option String :=
  ((v.member? "error").bind fun e => e.text?.or ((e.member? "message").bind Value.text?))
    |>.or ((v.member? "message").bind Value.text?)
    |>.or ((v.member? "detail").bind Value.text?)

/-- The message of a body that is JSON, unless it is blank. -/
def jsonMessage? (body : String) : Option String :=
  match Json.readString (Json.readValue Json.nestingLimit) body with
  | .error _ => none
  | .ok v => (messageIn? v).bind fun m => if Text.isBlankText m then none else some (Text.trim m)

/-- What an answer with this status and body says. -/
def failureText (status : Nat) (body : String) : String :=
  match jsonMessage? body with
  | some m => m
  | none =>
    let text := Text.trim body
    if text = "" then statusLine status else text

/-- The failure that an answer tells; a body that breaks off counts as empty. -/
def Answer.rejection (a : Answer) : Failure :=
  .rejected a.status (failureText a.status (Text.Utf8.lossy (a.body?.getD [])))

end Dialogue.Http
