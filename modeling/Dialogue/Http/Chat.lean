/-
Asking the chat service.

Every question is one request.  Whatever keeps it from being answered becomes a failure
on the stream; an answer becomes the events of its body, a batch for every piece of it.
-/
import Dialogue.Event.Body
import Dialogue.Event.Stream
import Dialogue.Http.Status
import Dialogue.Http.Token
import Dialogue.Question

namespace Dialogue.Http

/-- Where the chat service is, how it frames answers, and how long they are waited for. -/
structure ChatConfig where
  endpoint : String
  framing : Framing := .eventLines
  timeouts : Timeouts := {}
  deriving DecidableEq, Repr

/-- The endpoint without the white space around it. -/
def ChatConfig.of (endpoint : String) (framing : Framing) (timeouts : Timeouts) : ChatConfig :=
  ⟨Text.trim endpoint, framing, timeouts⟩

/-- A service that can be asked. -/
structure ChatService where
  config : ChatConfig
  tokens : TokenProvider

/-- The service that a configuration describes, unless its endpoint is missing. -/
def ChatService.new (config : ChatConfig) (tokens : TokenProvider) :
    Except Failure ChatService :=
  if config.endpoint = "" then .error (.missingEndpoint .chat) else .ok ⟨config, tokens⟩

/-! ### Tokens -/

/-- The token after refreshing it for the `n`th time. -/
def TokenProvider.refresh (p : TokenProvider) (service : Service) (n : Nat) :
    Except Failure (Option String) :=
  match p.refreshError n with
  | some reason => .error (.auth service.refreshStep reason)
  | none => .ok (p.token n)

namespace ChatService

/-- The request for a question, sent after the `n`th refresh. -/
def request (s : ChatService) (n : Nat) (q : Question) : Except Failure Request := do
  let token ← s.tokens.refresh .chat n
  (Request.make "POST" s.config.endpoint token (some "application/json") q.toValue.compact).mapError
    (.notSent .chat)

end ChatService

/-! ### Answers -/

/-- What a body is told to be that breaks off. -/
def brokenOff : String := "error decoding response body"

/-- The parts of a body. -/
def Answer.parts (a : Answer) : List Event.Part :=
  a.pieces.map .data ++ (if a.ending = .broken then [.broken brokenOff] else [])

/-- A failure is all that is sent. -/
def failing (f : Failure) : Event.Plan := ⟨[[.failure f.message]], false⟩

/-- Nothing is ever sent. -/
def stalled : Event.Plan := ⟨[], true⟩

/-- The events of a successful answer.  If its body goes on for ever, the end of it does
not come. -/
def Answer.stream (framing : Framing) (a : Answer) : Event.Plan :=
  let r := Event.readBody true { framing } a.parts
  match a.ending, r.last with
  | .held, some _ => ⟨r.batches, true⟩
  | _, some last => ⟨r.batches ++ [last], false⟩
  | _, none => ⟨r.batches, false⟩

/-- What comes of a request. -/
def Outcome.plan (framing : Framing) (r : Request) : Outcome → Event.Plan
  | .unanswered => failing (.notSent .chat (.unanswered r.url.text))
  | .waiting => stalled
  | .answered a =>
    if a.isSuccess then a.stream framing
    else if a.ending = .held then stalled
    else failing a.rejection

/-- Asks a question after the `n`th refresh; `exchange` tells what the server does. -/
def ChatService.ask {m : Type → Type} [Monad m] (s : ChatService)
    (exchange : Request → m Conduct) (n : Nat) (q : Question) : m Event.Plan :=
  match s.request n q with
  | .error f => return failing f
  | .ok r => return ((← exchange r).outcome s.config.timeouts).plan s.config.framing r

end Dialogue.Http
