/-
Source documents as JSON.

The location's members stand beside the others in one object.  A citation id may be
written as any value: what is empty or zero is no id, a text is kept as it is, and
anything else is kept as the text that writes it.  A document is written with its id as
a text, and without the members that it lacks.
-/
import Dialogue.Source
import Dialogue.Json.Shape

namespace Dialogue.Source

open Json

/-! ### Reading -/

/-- The citation id that a value gives. -/
def citationIdOfValue : Value → Option String
  | .null => none
  | .bool false => none
  | .bool true => some "true"
  | .text s => if s = "" then none else some s
  | .number n => if n.isZero then none else some (String.ofList n.write)
  | v => some v.compact

/-- What was read of a document. -/
structure Draft where
  vectorDistance : Option (Option Binary64) := none
  rerankerScore : Option (Option Binary64) := none
  citationId : Option (Option Value) := none
  /-- The other members, the last one first. -/
  others : List (String × Value) := []

/-- The text of a member that occurs once. -/
def soleText? (name : String) (members : List (String × Value)) : Option String :=
  match members.filter (·.1 = name) with
  | [(_, .text s)] => some s
  | _ => none

/-- A file if both its members are there, else a link. -/
def locationOf? (members : List (String × Value)) : Option Location :=
  match soleText? "bucketName" members, soleText? "objectName" members with
  | some bucket, some object => some (.file bucket object)
  | _, _ => (soleText? "link" members).map .link

/-- The document that was read, unless its members tell no location. -/
def Draft.finish (d : Draft) : Except Cause Source :=
  match locationOf? d.others with
  | none => .error (.noAlternative "SourceLocation")
  | some location => .ok {
      location
      vectorDistance := d.vectorDistance.join
      rerankerScore := d.rerankerScore.join
      citationId := d.citationId.join.bind citationIdOfValue }

/-- The members of a document; the others are gathered to find the location among them. -/
def record : Record Draft Source where
  title := "struct SourceDocument"
  start := {}
  fields := [
    .of "vectorDistance" (·.vectorDistance) (fun v d => { d with vectorDistance := some v })
      (fun _ => readOptional readReal) false,
    .of "rerankerScore" (·.rerankerScore) (fun v d => { d with rerankerScore := some v })
      (fun _ => readOptional readReal) false,
    .of "citationId" (·.citationId) (fun v d => { d with citationId := some v })
      (fun depth => readOptional (readValue depth)) false]
  collect := some fun name v d => { d with others := (name, v) :: d.others }
  asList := false
  finish := Draft.finish

/-- Reads a document. -/
def readJson (depth : Nat) : Reader Source := record.read depth

/-- Reads a list of documents. -/
def readList (depth : Nat) : Reader (List Source) := Json.readList readJson depth

/-- The document that a text holds. -/
def parse (s : String) : Except Problem Source := readString (readJson nestingLimit) s

/-- The documents that a text holds. -/
def parseList (s : String) : Except Problem (List Source) := readString (readList nestingLimit) s

/-! ### Writing -/

/-- The members that tell a location. -/
def Location.members : Location → List (String × Value)
  | .file bucket object => [("bucketName", .text bucket), ("objectName", .text object)]
  | .link url => [("link", .text url)]

/-- A member that is left out if there is nothing to write. -/
def optionalMember {α : Type} (name : String) (f : α → Value) : Option α → List (String × Value)
  | none => []
  | some a => [(name, f a)]

/-- A document as an object. -/
def toValue (s : Source) : Value :=
  .object (Location.members s.location
    ++ optionalMember "vectorDistance" (fun b => .number (.real b)) s.vectorDistance
    ++ optionalMember "rerankerScore" (fun b => .number (.real b)) s.rerankerScore
    ++ optionalMember "citationId" .text s.citationId)

end Dialogue.Source
