/-
The store of the conversation.

Observers are told of a change by a new edition: the number of editions goes up with
every operation that observers are told of, and only with these.  An operation that is
refused changes nothing and is not told.
-/
import Dialogue.Conversation

namespace Dialogue

/-- The conversation, and how often it has changed. -/
structure Store where
  conversation : Conversation := {}
  /-- How often observers were told of a change. -/
  edition : Nat := 0
  deriving DecidableEq, Repr

/-- Why a question was not taken. -/
inductive StoreError where
  /-- The turn of this id is still pending. -/
  | pendingTurn (id : TurnId)
  deriving DecidableEq, Repr

/-- Why the question was not taken, and at which step. -/
def StoreError.message : StoreError → String
  | .pendingTurn id => "turn " ++ id.text ++ " is still pending on `append-user-turn`"

namespace Store

/-- The conversation becomes `c`, and observers are told. -/
def publish (s : Store) (c : Conversation) : Store := ⟨c, s.edition + 1⟩

/-- Appends a pending turn, unless one is pending. -/
def append (s : Store) (id : TurnId) (question : String) : Except StoreError Store :=
  match s.conversation.pendingTurn? with
  | some t => .error (.pendingTurn t.id)
  | none =>
    .ok (s.publish { s.conversation with
      turns := s.conversation.turns ++ [Turn.pending id question] })

/-- Changes the first turn for which `p` holds. -/
def changeFirst (p : Turn → Bool) (f : Turn → Turn) : List Turn → Option (List Turn)
  | [] => none
  | t :: rest => if p t then some (f t :: rest) else (changeFirst p f rest).map (t :: ·)

/-- Folds into the pending turn of an id, and tells whether it was there.  The turn keeps
its id, whatever the fold makes of it. -/
def foldPending (s : Store) (id : TurnId) (fold : Turn → Turn) : Bool × Store :=
  match changeFirst (fun t => t.id = id && t.isPending) (fun t => { fold t with id := id })
      s.conversation.turns with
  | some turns => (true, s.publish { s.conversation with turns })
  | none => (false, s)

/-- Puts `updated` in the place of the pending turn of an id. -/
def applyUpdate (s : Store) (id : TurnId) (updated : Turn) : Bool × Store :=
  s.foldPending id fun _ => updated

/-- Forgets everything. -/
def reset (s : Store) : Store := s.publish {}

/-- Puts restored turns in the place of the conversation; none of them is pending. -/
def replace (s : Store) (chatId : Option String) (turns : List Turn) : Store :=
  s.publish { chatId, turns := turns.map fun t => { t with isPending := false } }

/-- Takes over the chat's id; one that is the same already is no change. -/
def setChatId (s : Store) (chatId : Option String) : Store :=
  if s.conversation.chatId = chatId then s else s.publish { s.conversation with chatId }

end Store

end Dialogue
