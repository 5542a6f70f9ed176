/-
Chats as the service keeps them.

A record is a question, its answer and possibly metadata.  Of the metadata only the
documents mean anything here; the other members are kept as they are, sorted by name.
-/
import Dialogue.Source.Json

namespace Dialogue

/-- What is kept with a record besides its texts. -/
structure Metadata where
  rerankedDocs : Option (List Source) := none
  /-- Members that mean nothing here. -/
  extra : List (String × Json.Value) := []
  deriving DecidableEq, Repr

/-- One question of a chat and what it was answered. -/
structure HistoryRecord where
  question : String
  answer : String := ""
  metadata : Option Metadata := none
  deriving DecidableEq, Repr

/-- A chat as the service keeps it, the oldest record first. -/
structure History where
  records : List HistoryRecord := []
  deriving DecidableEq, Repr

open Json

/-! ### Reading -/

namespace Metadata

/-- What was read of metadata. -/
structure Draft where
  docs : Option (Option (List Source)) := none
  extra : List (String × Value) := []

/-- The members of metadata: the documents, and any others, which are kept. -/
def record : Record Draft Metadata where
  title := "struct HistoryMetadata"
  start := {}
  fields := [
    .of "rerankedDocs" (·.docs) (fun v d => { d with docs := some v })
      (fun depth => readOptional (Source.readList depth)) false]
  collect := some fun name v d => { d with extra := insertMember name v d.extra }
  asList := false
  finish d := .ok { rerankedDocs := d.docs.join, extra := d.extra }

/-- Metadata as an object, the documents before the other members. -/
def toValue (m : Metadata) : Value :=
  .object (("rerankedDocs", match m.rerankedDocs with
    | some docs => .array (docs.map Source.toValue)
    | none => .null) :: m.extra)

end Metadata

namespace HistoryRecord

/-- What was read of a record. -/
structure Draft where
  question : Option String := none
  answer : Option String := none
  metadata : Option (Option Metadata) := none

/-- The members of a record; only the question has to be there. -/
def record : Record Draft HistoryRecord where
  title := "struct HistoryRecord"
  start := {}
  fields := [
    .of "question" (·.question) (fun v d => { d with question := some v })
      (fun _ => readText) true,
    .of "answer" (·.answer) (fun v d => { d with answer := some v }) (fun _ => readText) false,
    .of "metadata" (·.metadata) (fun v d => { d with metadata := some v })
      (fun depth => readOptional (Metadata.record.read depth)) false]
  finish d := .ok {
    question := d.question.getD "", answer := d.answer.getD "", metadata := d.metadata.join }

/-- A record as an object, with all its members. -/
def toValue (r : HistoryRecord) : Value :=
  .object [("question", .text r.question), ("answer", .text r.answer),
    ("metadata", match r.metadata with
      | some m => m.toValue
      | none => .null)]

end HistoryRecord

namespace History

/-- What was read of a chat. -/
structure Draft where
  records : Option (List HistoryRecord) := none

/-- The members of a chat: its records, none if they are absent. -/
def record : Record Draft History where
  title := "struct ChatHistory"
  start := {}
  fields := [
    .of "history" (·.records) (fun v d => { d with records := some v })
      (fun depth => Json.readList (fun depth => HistoryRecord.record.read depth) depth) false]
  finish d := .ok { records := d.records.getD [] }

/-- A chat as an object. -/
def toValue (h : History) : Value :=
  .object [("history", .array (h.records.map HistoryRecord.toValue))]

/-- Reads a chat from the bytes of a body. -/
def ofBytes (bytes : List UInt8) : Except Problem History :=
  readWhole (record.read nestingLimit) bytes

/-- The chat that a text holds. -/
def parse (s : String) : Except Problem History := readString (record.read nestingLimit) s

end History

end Dialogue
