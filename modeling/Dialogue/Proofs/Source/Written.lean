/-
Documents survive being written.

A document is written with its id as a text, whatever the value was that the id was made of, and
a text that is read is kept as it is.  So an id that looks like a number or like `null` is still
the same id, and the only one that is lost is the empty one: it is read as none.  It was no key
either, so the key of the document is kept in any case.

No id that was read is empty.  Hence of a document that was read nothing is lost at all, apart
from scores: their text is the shortest one of a double, and to read it back is another matter.
-/
import Dialogue.Proofs.Json.Nested
import Dialogue.Proofs.Source.Json

namespace Dialogue.Source

open Json
open Text.Utf8 (encode)

variable {depth : Nat} {d : Source}

/-- A document without scores. -/
structure Unscored (d : Source) : Prop where
  vectorDistance : d.vectorDistance = none
  rerankerScore : d.rerankerScore = none

/-! ### Members -/

theorem takes_location (location : Location) {ms : List (String × Value)} {t : Draft}
    (hms : Takes Layout.compact (record.readMember depth)
      { others := (Location.members location).reverse } ms t) :
    Takes Layout.compact (record.readMember depth) {} (Location.members location ++ ms) t := by
  cases location with
  | file bucket object =>
    exact record.takes_other rfl rfl (.text bucket) (record.takes_other rfl rfl (.text object) hms)
  | link url => exact record.takes_other rfl rfl (.text url) hms

theorem locationOf?_members (location : Location) :
    locationOf? (Location.members location).reverse = some location := by
  cases location <;> simp [Location.members, locationOf?, soleText?]

/-- A text is kept unless it is empty. -/
theorem citationIdOfValue_text (id : String) :
    citationIdOfValue (.text id) = (some id).filter (· ≠ "") := by
  by_cases hid : id = "" <;> simp [citationIdOfValue, Option.filter, hid]

/-! ### Documents -/

/-- The document with its key for its id. -/
def keyed (d : Source) : Source := { d with citationId := d.citationKey }

theorem keyed_eq_self (h : d.citationId ≠ some "") : d.keyed = d := by
  rw [keyed, citationKey_eq_citationId h]

theorem citationKey_keyed (d : Source) : d.keyed.citationKey = d.citationKey := by
  simp [keyed, citationKey, Option.filter_filter]

/-- A document without scores is read from what is written for it, as far as its key goes. -/
theorem Unscored.read_toValue (h : d.Unscored) (rest : List UInt8) :
    readJson (depth + 1) (encode d.toValue.write ++ rest) = .ok (d.keyed, rest) := by
  obtain ⟨location, _, _, id⟩ := d
  obtain ⟨rfl, rfl⟩ := h
  rw [toValue, readJson]
  simp only [optionalMember, List.append_nil]
  cases id with
  | none =>
    refine record.read_written (takes_location location (.nil _)) rfl ?_ rest
    change Draft.finish _ = _
    simp [Draft.finish, locationOf?_members, keyed, citationKey]
  | some id =>
    have hproper : (Value.text id).Proper depth := .text id
    have hid := fun rest (hrest : EndsNumber rest) => readOptional_text id (hproper.readValue hrest)
    refine record.read_written (takes_location location
      (record.takes_field (some (.text id)) rfl rfl hid (.nil _))) rfl ?_ rest
    change Draft.finish _ = _
    simp [Draft.finish, locationOf?_members, citationIdOfValue_text, keyed, citationKey]

/-- A document without scores, and without an id that means none. -/
structure Lasting (d : Source) : Prop where
  vectorDistance : d.vectorDistance = none
  rerankerScore : d.rerankerScore = none
  citationId : d.citationId ≠ some ""

theorem Lasting.read_toValue (h : d.Lasting) (rest : List UInt8) :
    readJson (depth + 1) (encode d.toValue.write ++ rest) = .ok (d, rest) := by
  have hunscored : d.Unscored := ⟨h.vectorDistance, h.rerankerScore⟩
  have hread : readJson (depth + 1) _ = _ := hunscored.read_toValue rest
  rwa [keyed_eq_self h.citationId] at hread

theorem Lasting.readsItem (h : d.Lasting) : ReadsItem (readJson (depth + 1)) toValue d :=
  ⟨startsItem_object _, fun rest _ => h.read_toValue rest⟩

/-! ### Whole texts -/

theorem Unscored.parse_compact (h : d.Unscored) : parse d.toValue.compact = .ok d.keyed :=
  readString_compact fun rest _ => h.read_toValue rest

/-- No document that was read has an empty id. -/
theorem citationId_ne_empty_of_readJson {bs rest : List UInt8}
    (h : readJson depth bs = .ok (d, rest)) : d.citationId ≠ some "" := by
  obtain ⟨ms, -, hms⟩ := follows_listed depth bs d rest h
  exact hms.citationId_ne_empty

/-- From the text that is written for a document without scores, a document is read that lies in
the same place and has the same key.  It is the same document unless the id was empty; and so it
is the same wherever the first one was itself read, alone or among others, whatever its id was
made of. -/
theorem read_from_own_text (h : d.Unscored) :
    ∃ again, parse d.toValue.compact = .ok again ∧ again.Unscored ∧
      again.location = d.location ∧ again.citationKey = d.citationKey ∧
      (d.citationId ≠ some "" → again = d) ∧
      (∀ text, parse text = .ok d → again = d) ∧
      ∀ depth bs rest, readJson depth bs = .ok (d, rest) → again = d := by
  refine ⟨d.keyed, h.parse_compact, ⟨h.vectorDistance, h.rerankerScore⟩, rfl,
    d.citationKey_keyed, keyed_eq_self, fun text htext => ?_, fun depth bs rest hread => ?_⟩
  · obtain ⟨rest, hread⟩ := readWhole_eq_ok htext
    exact keyed_eq_self (citationId_ne_empty_of_readJson hread)
  · exact keyed_eq_self (citationId_ne_empty_of_readJson hread)

/-- A document whose id is an object, and whose place needs escapes. -/
def writtenSample : Source :=
  { location := .file "b\"\\" "\n\x00é", citationId := some "\x7b\"a\":[],\"z\":\"0\"\x7d" }

/-- A text of which that document is read. -/
def writtenSampleText : String :=
  "\x7b\"citationId\":\x7b\"z\":\"0\",\"a\":1,\"a\":[]\x7d," ++
    "\"objectName\":\"\\n\\u0000\\u00e9\",\"bucketName\":\"b\\\"\\\\\"\x7d"

theorem read_from_own_text_sample :
    parse writtenSampleText = .ok writtenSample ∧ writtenSample.Unscored ∧
      parse writtenSample.toValue.compact = .ok writtenSample ∧
      parse ({ location := .link "l", citationId := some "" } : Source).toValue.compact =
        .ok { location := .link "l" } := by
  have hread : parse writtenSampleText = .ok writtenSample := by decide +kernel
  obtain ⟨again, hagain, -, -, -, -, hsame, -⟩ := read_from_own_text (d := writtenSample) ⟨rfl, rfl⟩
  obtain rfl := hsame _ hread
  have hempty : Unscored { location := .link "l", citationId := some "" } := ⟨rfl, rfl⟩
  exact ⟨hread, ⟨rfl, rfl⟩, hagain, hempty.parse_compact⟩

end Dialogue.Source
