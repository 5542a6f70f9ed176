/-
Printing an answer while it grows.

The shell follows one turn and remembers how many bytes of its answer it has printed.
When the turn is resolved, its outcome follows on lines of its own.
-/
import Dialogue.Conversation

namespace Dialogue.Shell

/-- The turn whose answer is being printed. -/
structure Follow where
  turn : TurnId
  /-- Bytes of the answer that were printed. -/
  printed : Nat := 0
  deriving DecidableEq, Repr

/-- The characters behind the first `n` bytes, if no character lies across that place. -/
def dropBytes? : Nat → List Char → Option (List Char)
  | 0, cs => some cs
  | _ + 1, [] => none
  | n + 1, c :: cs => if n + 1 < c.utf8Size then none else dropBytes? (n + 1 - c.utf8Size) cs

/-- A document on a line: its citation id in brackets, and where it lies. -/
def sourceLine (s : Source) : String :=
  let place := match s.location with
    | .file bucket object => bucket ++ "/" ++ object
    | .link url => url
  "  [" ++ s.citationId.getD "" ++ "] " ++ place ++ "\n"

/-- The failure on a line, and a line for each source. -/
def outcomeText (t : Turn) : String :=
  (match t.failure with
    | some message => "[" ++ message ++ "]\n"
    | none => "") ++ String.join (t.sources.map sourceLine)

/-- What a step of following a turn brings. -/
structure Progress where
  out : String
  follow : Follow
  /-- Is there nothing more to follow? -/
  done : Bool
  deriving DecidableEq, Repr

/-- Prints what is new in the turn's answer, and its outcome if it is resolved. -/
def Follow.advance (f : Follow) (c : Conversation) : Progress :=
  match c.turn? f.turn with
  | none => ⟨"", f, true⟩
  | some t =>
    let (fresh, f) := match dropBytes? f.printed t.answer.toList with
      | some cs => (String.ofList cs, { f with printed := t.answer.utf8ByteSize })
      | none => ("", f)
    if t.isPending then ⟨fresh, f, false⟩
    else ⟨fresh ++ "\n" ++ outcomeText t, f, true⟩

/-- A whole conversation, each question behind an angle bracket. -/
def conversationText (c : Conversation) : String :=
  (match c.chatId with
    | some id => "-- chat " ++ id ++ " (" ++ toString c.turns.length ++ " turns) --\n"
    | none => "") ++
  String.join (c.turns.map fun t =>
    "> " ++ t.question ++ "\n" ++ t.answer ++ "\n" ++ outcomeText t)

end Dialogue.Shell
