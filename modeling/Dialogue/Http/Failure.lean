/-
How talking to a service can fail, short of an answer that says so.
-/
namespace Dialogue.Http

/-- Which service an endpoint belongs to. -/
inductive Service where
  | chat
  | history
  deriving DecidableEq, Repr

/-- The service in messages. -/
def Service.name : Service → String
  | .chat => "chat"
  | .history => "history"

/-- The step at which a service's token is refreshed. -/
def Service.refreshStep (s : Service) : String := "refresh-" ++ s.name ++ "-token"

/-- Why a request got no answer. -/
inductive SendProblem where
  /-- The address cannot be read. -/
  | unreadableAddress
  /-- The token cannot stand in a header. -/
  | badHeader
  /-- The address is not one that can be asked. -/
  | unusableAddress (url : String)
  /-- No answer began. -/
  | unanswered (url : String)
  deriving DecidableEq, Repr

/-- The problem as messages have it. -/
def SendProblem.message : SendProblem → String
  | .unreadableAddress => "builder error"
  | .badHeader => "builder error"
  | .unusableAddress url => "builder error for url (" ++ url ++ ")"
  | .unanswered url => "error sending request for url (" ++ url ++ ")"

/-- Why a service did not give what it was asked for. -/
inductive Failure where
  /-- No endpoint was set. -/
  | missingEndpoint (service : Service)
  /-- The token could not be refreshed at some step. -/
  | auth (step reason : String)
  | notSent (service : Service) (problem : SendProblem)
  /-- The answer's status is not one of success. -/
  | rejected (status : Nat) (message : String)
  /-- No chat could be read from the answer. -/
  | unreadableHistory (url : String)
  | emptyChatId
  | invalidChatId (chatId : String)
  deriving DecidableEq, Repr

/-- The failure for the user's eyes. -/
def Failure.message : Failure → String
  | .missingEndpoint service => service.name ++ " endpoint is not configured"
  | .auth step reason =>
    "authentication failed on `" ++ step ++ "`: token refresh failed: " ++ reason
  | .notSent service problem =>
    "request could not be sent on `send-" ++ service.name ++ "-request`: " ++ problem.message
  | .rejected status message => message ++ " (status " ++ toString status ++ ")"
  | .unreadableHistory url =>
    "failed to decode chat history on `decode-history-response`: error decoding response body for url ("
      ++ url ++ ")"
  | .emptyChatId => "chat id must not be empty"
  | .invalidChatId chatId => "chat id '" ++ chatId ++ "' is not a valid path segment"

end Dialogue.Http
