/-
Turns from the records of a chat.

Every record becomes a resolved turn with a fresh id; its sources are deduplicated on
their own, so a document cited in two turns stays in both.
-/
import Dialogue.History
import Dialogue.Turn

namespace Dialogue

/-- The documents of a record, the first of each citation key. -/
def HistoryRecord.sources (r : HistoryRecord) : List Source :=
  match r.metadata.bind (·.rerankedDocs) with
  | some docs => Source.dedupe docs
  | none => []

/-- One turn for each record, in order. -/
def reconcile (m : Mint) : List HistoryRecord → List Turn × Mint
  | [] => ([], m)
  | r :: rest =>
    let (id, m) := m.take
    let (turns, m) := reconcile m rest
    (Turn.resolved id r.question r.answer r.sources :: turns, m)

end Dialogue
