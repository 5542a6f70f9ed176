/-
Source documents: what an answer cites.

A document lies in a bucket or behind a link.  A citation id ties it to a mark in the
answer; an empty id ties it to nothing, so it is no key.
-/
import Dialogue.Decimal.Binary64

namespace Dialogue

/-- Where a document lies: an object in a bucket, or behind a link. -/
inductive Location where
  | file (bucket object : String)
  | link (url : String)
  deriving DecidableEq, Repr

/-- A document that an answer cites. -/
structure Source where
  location : Location
  vectorDistance : Option Binary64 := none
  rerankerScore : Option Binary64 := none
  citationId : Option String := none
  deriving DecidableEq, Repr

namespace Source

/-- The citation id, if it can tell documents apart. -/
def citationKey (s : Source) : Option String := s.citationId.filter (· ≠ "")

/-- Keeps the documents whose key is not among `seen` nor carried by one before them. -/
def dedupeFrom (seen : List String) : List Source → List Source
  | [] => []
  | s :: rest =>
    match s.citationKey with
    | none => dedupeFrom seen rest
    | some key =>
      if key ∈ seen then dedupeFrom seen rest else s :: dedupeFrom (key :: seen) rest

/-- The first document of each citation key, in order of appearance; documents without a
key are dropped. -/
def dedupe (sources : List Source) : List Source := dedupeFrom [] sources

end Source

end Dialogue
