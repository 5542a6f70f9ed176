/-
Asking the history service for a chat.

The id of a chat is one segment of the path, with everything escaped that could end or
split the segment.  A segment of one or two dots would not stay one, so such an id is
refused, as is an empty one.
-/
import Dialogue.History
import Dialogue.Http.Chat

namespace Dialogue.Http

/-- A service that can be asked. -/
structure Archive where
  /-- The address before the slash and the id. -/
  base : String
  requestTimeout : Option Nat
  tokens : TokenProvider

namespace Archive

/-- The address without white space around it and slashes at its end. -/
def baseOf (endpoint : String) : String := Text.dropEndWhile (· = '/') (Text.trim endpoint)

/-- The service behind an endpoint, unless that is blank or nothing but slashes. -/
def new (endpoint : String) (requestTimeout : Option Nat) (tokens : TokenProvider) :
    Except Failure Archive :=
  if baseOf endpoint = "" then .error (.missingEndpoint .history)
  else .ok ⟨baseOf endpoint, requestTimeout, tokens⟩

/-! ### Requests -/

/-- What would end or split a segment, or start an escape. -/
def splitsSegment (b : UInt8) : Bool :=
  Text.Percent.isControl b ||
  Text.Percent.anyOf
    [' ', '"', '#', '%', '/', '<', '>', '?', '\\', '^', '\x60', '\x7b', '|', '\x7d'] b

/-- An id as one segment of a path. -/
def segment (chatId : String) : String :=
  String.ofList (Text.Percent.encode splitsSegment chatId.toList)

/-- The address of a chat. -/
def address (a : Archive) (chatId : String) : String := a.base ++ "/" ++ segment chatId

/-- The id that is asked for. -/
def checkId (chatId : String) : Except Failure String :=
  let id := Text.trim chatId
  if id = "" then .error .emptyChatId
  else if id = "." || id = ".." then .error (.invalidChatId id)
  else .ok id

/-- The request for a chat, sent after the `n`th refresh. -/
def request (a : Archive) (n : Nat) (id : String) : Except Failure Request := do
  let token ← a.tokens.refresh .history n
  (Request.make "GET" (a.address id) token none "").mapError (.notSent .history)

/-! ### Answers -/

/-- The chat that came of a request; none if the answer is waited for for ever. -/
def reply? (r : Request) : Outcome → Option (Except Failure History)
  | .unanswered => some (.error (.notSent .history (.unanswered r.url.text)))
  | .waiting => none
  | .answered a =>
    if a.ending = .held then none
    else if !a.isSuccess then some (.error a.rejection)
    else
      match a.body?.map History.ofBytes with
      | some (.ok h) => some (.ok h)
      | _ => some (.error (.unreadableHistory r.url.text))

/-- Fetches a chat; `exchange` tells what the server does.  The token was refreshed `n` times
before, and the answer tells how often it was then: an id that is refused needs no token. -/
def fetch {m : Type → Type} [Monad m] (a : Archive) (exchange : Request → m Conduct) (n : Nat)
    (chatId : String) : m (Nat × Option (Except Failure History)) :=
  match checkId chatId with
  | .error f => return (n, some (.error f))
  | .ok id =>
    match a.request (n + 1) id with
    | .error f => return (n + 1, some (.error f))
    | .ok r => return (n + 1, reply? r ((← exchange r).outcome { request := a.requestTimeout }))

end Archive

end Dialogue.Http
