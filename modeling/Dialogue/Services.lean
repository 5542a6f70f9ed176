/-
The two services, as the settings at the start say how to ask them.
-/
import Dialogue.Http.Archive
import Dialogue.Settings

namespace Dialogue

/-- The service that answers and the service that keeps the chats. -/
structure Services where
  chat : Http.ChatService
  archive : Http.Archive

/-- The services, unless an endpoint is missing. -/
def Services.ofSettings (s : Settings) : Except Http.Failure Services := do
  let tokens := Http.TokenProvider.fixed s.token
  let chat ← Http.ChatService.new s.chatConfig tokens
  let archive ← Http.Archive.new s.historyEndpoint (Settings.milliseconds s.requestTimeout) tokens
  return { chat, archive }

end Dialogue
