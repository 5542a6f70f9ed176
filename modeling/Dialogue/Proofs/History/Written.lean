/-
Histories survive being written.

A history is written as nested records, and each record is read back from what is written for
its members.  Three things could be lost on the way.  A citation id that is empty would be read
as none.  A member that means nothing here would be lost if it had the name of one that does,
or would change its place if the others were not sorted.  And a number that is no whole one
would depend on how doubles are written; this is why the scores of documents are left out.
What is lasting is free of all of them.
-/
import Dialogue.History
import Dialogue.Proofs.Source.Written

namespace Dialogue

open Json
open Text.Utf8 (encode)

variable {depth : Nat} {rest : List UInt8}

/-! ### Metadata -/

namespace Metadata

/-- Metadata whose members can be told apart and survive; `depth` is the nesting left to their
values. -/
structure Lasting (depth : Nat) (m : Metadata) : Prop where
  docs : ∀ docs ∈ m.rerankedDocs, ∀ d ∈ docs, d.Lasting
  sorted : Sorted m.extra
  foreign : ∀ x ∈ m.extra, x.1 ≠ "rerankedDocs"
  proper : ∀ x ∈ m.extra, x.2.Proper depth

theorem takes_extra {ms : List (String × Value)} (hforeign : ∀ x ∈ ms, x.1 ≠ "rerankedDocs")
    (hproper : ∀ x ∈ ms, x.2.Proper depth) (d : Draft) :
    Takes Layout.compact (record.readMember depth) d ms
      { d with extra := ms.foldl (fun acc m => insertMember m.1 m.2 acc) d.extra } := by
  induction ms generalizing d with
  | nil => exact .nil d
  | cons x ms ih =>
    have hname : "rerankedDocs" ≠ x.1 := (hforeign x (by simp)).symm
    refine record.takes_other ?_ rfl (hproper x (by simp)) ?_
    · simp [record, Field.of, hname]
    · exact ih (fun y hy => hforeign y (by simp [hy])) (fun y hy => hproper y (by simp [hy])) _

/-- The value that is written for the documents. -/
def docsValue : Option (List Source) → Value
  | some docs => .array (docs.map Source.toValue)
  | none => .null

theorem read_docs {docs : Option (List Source)}
    (h : ∀ ds ∈ docs, ∀ d ∈ ds, Source.Lasting d) (rest : List UInt8) :
    readOptional (Source.readList (depth + 2)) (encode (docsValue docs).write ++ rest) =
      .ok (docs, rest) := by
  cases docs with
  | none => exact readOptional_null _ rest
  | some ds =>
    have hread : Source.readList (depth + 2)
        (encode (Value.array (ds.map Source.toValue)).write ++ rest) = .ok (ds, rest) :=
      readList_written fun d hd => (h ds rfl d hd).readsItem
    rw [docsValue]
    rw [encode_array, List.cons_append] at hread ⊢
    exact readOptional_some (by decide) (by decide) hread

theorem Lasting.read_toValue {m : Metadata} (h : m.Lasting (depth + 2)) (rest : List UInt8) :
    record.read (depth + 3) (encode m.toValue.write ++ rest) = .ok (m, rest) := by
  obtain ⟨docs, extra⟩ := m
  have hvalue : toValue ⟨docs, extra⟩ = .object (("rerankedDocs", docsValue docs) :: extra) := by
    cases docs <;> rfl
  rw [hvalue]
  refine record.read_written (record.takes_field docs rfl rfl
    (fun rest _ => read_docs h.docs rest) (takes_extra h.foreign h.proper _)) rfl ?_ rest
  exact congrArg (fun e => Except.ok (Metadata.mk docs e)) h.sorted.ofMembers

end Metadata

/-! ### Records -/

namespace HistoryRecord

/-- The value that is written for the metadata. -/
def metadataValue : Option Metadata → Value
  | some m => m.toValue
  | none => .null

theorem read_metadata {metadata : Option Metadata} (h : ∀ m ∈ metadata, m.Lasting (depth + 2))
    (rest : List UInt8) : readOptional (Metadata.record.read (depth + 3))
      (encode (metadataValue metadata).write ++ rest) = .ok (metadata, rest) := by
  cases metadata with
  | none => exact readOptional_null _ rest
  | some m =>
    have hread := (h m rfl).read_toValue rest
    rw [metadataValue]
    rw [Metadata.toValue, encode_object, List.cons_append] at hread ⊢
    exact readOptional_some (by decide) (by decide) hread

theorem read_toValue {r : HistoryRecord} (h : ∀ m ∈ r.metadata, m.Lasting (depth + 2))
    (rest : List UInt8) :
    record.read (depth + 4) (encode r.toValue.write ++ rest) = .ok (r, rest) := by
  obtain ⟨question, answer, metadata⟩ := r
  have hvalue : toValue ⟨question, answer, metadata⟩ = .object [("question", .text question),
      ("answer", .text answer), ("metadata", metadataValue metadata)] := by
    cases metadata <;> rfl
  have htakes : Takes Layout.compact (record.readMember (depth + 3)) {}
      [("question", .text question), ("answer", .text answer),
        ("metadata", metadataValue metadata)] ⟨some question, some answer, some metadata⟩ :=
    record.takes_field question rfl rfl (fun rest _ => readText_write question rest)
      (record.takes_field answer rfl rfl (fun rest _ => readText_write answer rest)
        (record.takes_field metadata rfl rfl (fun rest _ => read_metadata h rest) (.nil _)))
  rw [hvalue]
  exact record.read_written htakes rfl rfl rest

end HistoryRecord

/-! ### Histories -/

namespace History

/-- The nesting that is left to the members of the metadata. -/
def extraNesting : Nat := nestingLimit - 4

/-- All metadata is lasting. -/
def Lasting (h : History) : Prop :=
  ∀ r ∈ h.records, ∀ m ∈ r.metadata, m.Lasting extraNesting

variable {h : History}

theorem Lasting.read_records (hlasting : h.Lasting) (rest : List UInt8) :
    Json.readList (fun depth => HistoryRecord.record.read depth) (nestingLimit - 1)
        (encode (Value.array (h.records.map HistoryRecord.toValue)).write ++ rest) =
      .ok (h.records, rest) :=
  readList_written fun r hr =>
    ⟨startsItem_object _, fun rest _ => HistoryRecord.read_toValue (hlasting r hr) rest⟩

theorem Lasting.read_toValue (hlasting : h.Lasting) (rest : List UInt8) :
    record.read nestingLimit (encode h.toValue.write ++ rest) = .ok (h, rest) := by
  have htakes : Takes Layout.compact (record.readMember (nestingLimit - 1)) {}
      [("history", .array (h.records.map HistoryRecord.toValue))] ⟨some h.records⟩ :=
    record.takes_field h.records rfl rfl (fun rest _ => hlasting.read_records rest) (.nil _)
  exact record.read_written htakes rfl rfl rest

/-- A lasting history is read back from the text that is written for it. -/
theorem Lasting.parse_compact (hlasting : h.Lasting) : parse h.toValue.compact = .ok h :=
  readString_compact fun rest _ => hlasting.read_toValue rest

end History

end Dialogue
