/-
What is sent to ask: the question and, if the chat is known, its id.
-/
import Dialogue.Json.Shape

namespace Dialogue

/-- What a service is asked. -/
structure Question where
  question : String
  chatId : Option String := none
  deriving DecidableEq, Repr

namespace Question

open Json

/-- The id's member is left out if there is no id. -/
def toValue (q : Question) : Value :=
  .object ([("question", .text q.question)] ++
    (match q.chatId with
      | some id => [("conversationId", .text id)]
      | none => []))

/-- What was read of a question. -/
structure Draft where
  question : Option String := none
  chatId : Option (Option String) := none

/-- The members of a question; the id need not be there. -/
def record : Record Draft Question where
  title := "struct ChatRequest"
  start := {}
  fields := [
    .of "question" (·.question) (fun v d => { d with question := some v })
      (fun _ => readText) true,
    .of "conversationId" (·.chatId) (fun v d => { d with chatId := some v })
      (fun _ => readOptional readText) false]
  finish d := .ok { question := d.question.getD "", chatId := d.chatId.join }

/-- The question that a text holds. -/
def parse (s : String) : Except Problem Question := readString (record.read nestingLimit) s

end Question

end Dialogue
