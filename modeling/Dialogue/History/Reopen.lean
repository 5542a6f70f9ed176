/-
Reopening a chat that the service keeps.

If the service answers, the chat takes the place of the conversation under its trimmed
id.  If it fails, the conversation stays as it is, and the user is given one notice with
the text of the error.
-/
import Dialogue.History.Reconcile
import Dialogue.Http.Failure
import Dialogue.Notice
import Dialogue.Store
import Dialogue.Text.Blank

namespace Dialogue

/-- A chat could not be loaded. -/
structure ReopenError where
  chatId : String
  failure : Http.Failure
  deriving DecidableEq, Repr

/-- The error for the user's eyes: which chat, at which step, and what the service said. -/
def ReopenError.message (e : ReopenError) : String :=
  "failed to load chat '" ++ e.chatId ++ "' on `open-chat-history`: " ++ e.failure.message

/-- What reopening a chat brings. -/
structure Reopening where
  /-- The number of turns restored. -/
  result : Except ReopenError Nat
  store : Store
  mint : Mint
  notices : List Notice

/-- Reopens the chat `chatId` for which the service gave `reply`. -/
def reopen (s : Store) (m : Mint) (chatId : String) (reply : Except Http.Failure History) :
    Reopening :=
  match reply with
  | .error failure =>
    let e : ReopenError := { chatId, failure }
    { result := .error e, store := s, mint := m, notices := [⟨.error, e.message⟩] }
  | .ok h =>
    let (turns, m) := reconcile m h.records
    { result := .ok turns.length, store := s.replace (some (Text.trim chatId)) turns, mint := m
      notices := [] }

end Dialogue
