/-
A conversation: the turns in order, and the id by which the service knows the chat.
-/
import Dialogue.Turn

namespace Dialogue

/-- A chat as it stands: its turns from the first to the last. -/
structure Conversation where
  /-- The chat's id, once it is known. -/
  chatId : Option String := none
  turns : List Turn := []
  deriving DecidableEq, Repr

namespace Conversation

/-- The turn of an id. -/
def turn? (c : Conversation) (id : TurnId) : Option Turn := c.turns.find? (·.id = id)

/-- The first turn that still waits for its answer. -/
def pendingTurn? (c : Conversation) : Option Turn := c.turns.find? (·.isPending)

/-- The number of turns that wait for an answer; a store lets it be one at most. -/
def pendingCount (c : Conversation) : Nat := (c.turns.filter (·.isPending)).length

/-- Was nothing asked yet? -/
def isEmpty (c : Conversation) : Bool := c.turns.isEmpty

end Conversation

end Dialogue
