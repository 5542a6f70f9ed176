/-
What a history keeps of the text that it was read from.

Of the metadata of a record the documents are read, and all other members are kept.  To say
which these are, the text is read a second time, by a reader that goes down to the metadata and
there lists the members as they stand (`History.outline`).  It follows the reader of histories,
so whenever a history is read, there is such a list for each of its records, and the members
that were kept are those of the list that bear another name than the documents; of equal names,
the last one.

The same comparison tells that what was read is lasting if it is without scores and doubles:
the members are sorted in, their values are proper, and no citation id that was read is empty.
So the history is read back from the text that is written for it.
-/
import Mathlib.Data.List.Forall2
import Dialogue.Proofs.History.Written
import Dialogue.Proofs.Source.Json

namespace Dialogue

open Json
open Text.Utf8 (encode)

variable {depth : Nat}

/-! ### Citation ids -/

namespace Source

/-- A document is read where any value would be, and has no empty id. -/
theorem follows_readJson (depth : Nat) :
    Follows (fun d _ => d.citationId ≠ some "") (readJson depth) (readValue depth) := by
  refine ((follows_listed depth).trans (follows_object depth)).mono ?_
  rintro s v ⟨ms, hs, -⟩
  exact hs.citationId_ne_empty

/-- The same of a list of documents. -/
theorem follows_readList (depth : Nat) :
    Follows (fun ds _ => ∀ d ∈ ds, Source.citationId d ≠ some "") (readList depth)
      (readValue depth) := by
  have hitems := Follows.readList depth fun d _ => follows_readJson d
  refine (hitems.trans (follows_array depth)).mono ?_
  rintro ds v ⟨vs, hds, -⟩
  exact forall_of_forall₂ (P := fun d => citationId d ≠ some "") (fun _ _ hd => hd) hds

end Source

/-! ### Metadata -/

namespace Metadata

/-- What is known of metadata when the members of its object are listed. -/
structure OfListed (depth : Nat) (m : Metadata) (ms : List (String × Value)) : Prop where
  extra : m.extra = ofMembers (ms.filter (·.1 ≠ "rerankedDocs"))
  citationIds : ∀ docs ∈ m.rerankedDocs, ∀ d ∈ docs, Source.citationId d ≠ some ""
  proper : ∀ x ∈ m.extra, x.2.Whole → x.2.Proper depth

/-- The metadata that the members read so far would give. -/
def Draft.metadata (d : Draft) : Metadata := ⟨d.docs.join, d.extra⟩

theorem ofListed_docs {d : Draft} {ms : List (String × Value)}
    (h : d.metadata.OfListed depth ms) {docs : Option (List Source)}
    (hdocs : ∀ ds ∈ docs, ∀ s ∈ ds, Source.citationId s ≠ some "") (v : Value) :
    Draft.metadata { d with docs := some docs } |>.OfListed depth
      (ms ++ [("rerankedDocs", v)]) where
  extra := by
    have hnone : [("rerankedDocs", v)].filter (·.1 ≠ "rerankedDocs") = [] := by simp
    rw [List.filter_append, hnone, List.append_nil]
    exact h.extra
  citationIds := hdocs
  proper := h.proper

theorem ofListed_extra {d : Draft} {ms : List (String × Value)}
    (h : d.metadata.OfListed depth ms) {name : String} (hname : name ≠ "rerankedDocs") {v : Value}
    (hproper : v.Whole → v.Proper depth) :
    Draft.metadata { d with extra := insertMember name v d.extra } |>.OfListed depth
      (ms ++ [(name, v)]) where
  extra := by
    have hlast : ([(name, v)].filter (·.1 ≠ "rerankedDocs")) = [(name, v)] := by simp [hname]
    have hold : d.extra = ofMembers (ms.filter (·.1 ≠ "rerankedDocs")) := h.extra
    rw [List.filter_append, hlast, ofMembers_concat, ← hold]
    rfl
  citationIds := h.citationIds
  proper x hx := by
    rcases mem_insertMember hx with rfl | hold
    · exact hproper
    · exact h.proper x hold

theorem like_listed (depth : Nat) :
    Record.Like (fun d ms => d.metadata.OfListed depth ms) (OfListed depth) depth record
      listed := by
  refine .ofListed rfl rfl ⟨rfl, by simp [Draft.metadata, record], by simp [Draft.metadata, record]⟩
    ?_ ?_ ?_
  · simp only [record, List.forall_mem_cons, List.not_mem_nil, false_implies, implies_true,
      and_true]
    intro d ms h
    exact (Source.follows_readList depth).orNull.field fun docs v hdocs =>
      ofListed_docs h hdocs.forall v
  · intro name v d ms hother hproper h
    have hname : "rerankedDocs" ≠ name := hother _ List.mem_cons_self
    exact ofListed_extra h hname.symm hproper
  · intro d ms m h hm
    obtain rfl : d.metadata = m := Except.ok.inj hm
    exact h

end Metadata

/-! ### Outlines -/

namespace HistoryRecord

/-- What was read of a record for its outline. -/
structure OutlineDraft where
  question : Option String := none
  answer : Option String := none
  metadata : Option (Option (List (String × Value))) := none

/-- Of a record only the members of its metadata, as the text has them. -/
def outline : Record OutlineDraft (Option (List (String × Value))) where
  title := "struct HistoryRecord"
  start := {}
  fields := [
    .of "question" (·.question) (fun v d => { d with question := some v })
      (fun _ => readText) true,
    .of "answer" (·.answer) (fun v d => { d with answer := some v }) (fun _ => readText) false,
    .of "metadata" (·.metadata) (fun v d => { d with metadata := some v })
      (fun depth => readOptional (listed.read depth)) false]
  finish d := .ok d.metadata.join

/-- The record has metadata where its outline has a list of members, and this is known of it. -/
def OfListed (depth : Nat) (r : HistoryRecord) (ms : Option (List (String × Value))) : Prop :=
  Option.Rel (Metadata.OfListed depth) r.metadata ms

/-- The same fields were read of a record and for its outline. -/
structure Draft.Like (depth : Nat) (d : Draft) (o : OutlineDraft) : Prop where
  question : d.question.isSome = o.question.isSome
  answer : d.answer.isSome = o.answer.isSome
  metadata : Option.Rel (Option.Rel (Metadata.OfListed depth)) d.metadata o.metadata

theorem isSome_of_rel {α β : Type} {R : α → β → Prop} {x : Option α} {y : Option β}
    (h : Option.Rel R x y) : x.isSome = y.isSome := by
  cases h <;> rfl

theorem join_rel {α β : Type} {R : α → β → Prop} {x : Option (Option α)} {y : Option (Option β)}
    (h : Option.Rel (Option.Rel R) x y) : Option.Rel R x.join y.join := by
  cases h with
  | none => exact .none
  | some h => exact h

theorem like_outline (depth : Nat) :
    Record.Like (Draft.Like depth) (OfListed depth) (depth + 1) record outline := by
  refine .ofFields ⟨rfl, rfl, .none⟩ ?_ rfl rfl rfl ?_
  · have htext := Follows.same readText
    refine .cons (.of (fun _ _ h => h.question) (fun _ _ _ _ _ h => ?_) htext)
      (.cons (.of (fun _ _ h => h.answer) (fun _ _ _ _ _ h => ?_) htext)
        (.cons (.of (fun _ _ h => isSome_of_rel h.metadata) (fun _ _ _ _ hv h => ?_)
          (Metadata.like_listed depth).read_succ.readOptional) .nil))
    · exact ⟨rfl, h.answer, h.metadata⟩
    · exact ⟨h.question, rfl, h.metadata⟩
    · exact ⟨h.question, h.answer, .some hv⟩
  · intro d o r h hr
    cases hr
    exact ⟨_, rfl, join_rel h.metadata⟩

end HistoryRecord

namespace History

/-- The outlines of all records. -/
def outline : Record (Option (List (Option (List (String × Value)))))
    (List (Option (List (String × Value)))) where
  title := "struct ChatHistory"
  start := none
  fields := [
    .of "history" id (fun v _ => some v)
      (fun depth => Json.readList (fun depth => HistoryRecord.outline.read depth) depth) false]
  finish d := .ok (d.getD [])

/-- Each record has its outline, and what is known from it. -/
def OfListed (depth : Nat) (h : History) (outlines : List (Option (List (String × Value)))) :
    Prop :=
  List.Forall₂ (HistoryRecord.OfListed depth) h.records outlines

theorem like_outline (depth : Nat) :
    Record.Like (fun d o => Option.Rel (List.Forall₂ (HistoryRecord.OfListed depth)) d.records o)
      (OfListed depth) (depth + 3) record outline := by
  have hrecord : ∀ d, depth + 3 = d + 1 → Follows (HistoryRecord.OfListed depth)
      (HistoryRecord.record.read d) (HistoryRecord.outline.read d) := by
    intro d hd
    obtain rfl : depth + 2 = d := Nat.succ.inj hd
    exact (HistoryRecord.like_outline depth).read_succ
  have hrecords := Follows.readList (depth + 3) hrecord
  refine .ofFields .none ?_ rfl rfl rfl ?_
  · exact .cons (.of (fun _ _ h => HistoryRecord.isSome_of_rel h) (fun _ _ _ _ hv _ => .some hv)
      hrecords) .nil
  · intro d o h hdo hh
    cases hh
    refine ⟨_, rfl, ?_⟩
    obtain ⟨records⟩ := d
    cases hdo with
    | none => exact .nil
    | some hrecords => exact hrecords

/-- Whenever a history is read, so are its outlines. -/
theorem ofListed_of_ofBytes {bytes : List UInt8} {h : History} (hread : ofBytes bytes = .ok h) :
    ∃ outlines, readWhole (outline.read nestingLimit) bytes = .ok outlines ∧
      h.OfListed extraNesting outlines :=
  ((like_outline extraNesting).read_succ).readWhole hread

/-! ### What is kept -/

/-- No document carries a score. -/
def Unscored (h : History) : Prop :=
  ∀ r ∈ h.records, ∀ m ∈ r.metadata, ∀ docs ∈ m.rerankedDocs, ∀ d ∈ docs,
    Source.vectorDistance d = none ∧ Source.rerankerScore d = none

/-- All numbers in members that mean nothing here are whole. -/
def Whole (h : History) : Prop :=
  ∀ r ∈ h.records, ∀ m ∈ r.metadata, ∀ x ∈ m.extra, x.2.Whole

end History

namespace Metadata

theorem OfListed.lasting {m : Metadata} {ms : List (String × Value)} (h : m.OfListed depth ms)
    (hunscored : ∀ docs ∈ m.rerankedDocs, ∀ d ∈ docs,
      Source.vectorDistance d = none ∧ Source.rerankerScore d = none)
    (hwhole : ∀ x ∈ m.extra, x.2.Whole) : m.Lasting depth where
  docs ds hds d hd :=
    ⟨(hunscored ds hds d hd).1, (hunscored ds hds d hd).2, h.citationIds ds hds d hd⟩
  sorted := by
    rw [h.extra]
    exact sorted_ofMembers _
  foreign x hx := by
    rw [h.extra] at hx
    exact (lastOf_filter.mp (mem_ofMembers.mp hx)).1
  proper x hx := h.proper x hx (hwhole x hx)

/-- Of the members of an object all are kept that mean nothing here, with the last value of their
name, and no others; and written again, no name stands twice. -/
structure KeepsMembers (m : Metadata) (ms : List (String × Value)) : Prop where
  mem_extra : ∀ name v, (name, v) ∈ m.extra ↔ name ≠ "rerankedDocs" ∧ LastOf ms name v
  written : ∃ docs, m.toValue = .object (("rerankedDocs", docs) :: m.extra) ∧
    ("rerankedDocs" :: m.extra.map (·.1)).Nodup

theorem OfListed.keepsMembers {m : Metadata} {ms : List (String × Value)}
    (h : m.OfListed depth ms) : m.KeepsMembers ms := by
  have hmem : ∀ name v, (name, v) ∈ m.extra ↔ name ≠ "rerankedDocs" ∧ LastOf ms name v := by
    intro name v
    rw [h.extra, mem_ofMembers, lastOf_filter]
  refine ⟨hmem, _, rfl, List.nodup_cons.mpr ⟨fun hin => ?_, ?_⟩⟩
  · obtain ⟨x, hx, hname⟩ := List.mem_map.mp hin
    exact ((hmem x.1 x.2).mp hx).1 hname
  · rw [h.extra]
    exact (sorted_ofMembers _).nodup

end Metadata

namespace HistoryRecord

variable {r : HistoryRecord} {ms : Option (List (String × Value))}

theorem OfListed.exists_listed (h : r.OfListed depth ms) :
    ∀ m ∈ r.metadata, ∃ ms, m.OfListed depth ms := by
  unfold OfListed at h
  generalize r.metadata = metadata at h ⊢
  cases h with
  | none => simp
  | some hm => simpa using ⟨_, hm⟩

theorem OfListed.keepsMembers (h : r.OfListed depth ms) :
    Option.Rel Metadata.KeepsMembers r.metadata ms := by
  unfold OfListed at h
  generalize r.metadata = metadata at h ⊢
  cases h with
  | none => exact .none
  | some hm => exact .some hm.keepsMembers

end HistoryRecord

namespace History

theorem OfListed.lasting {h : History} {outlines : List (Option (List (String × Value)))}
    (hlisted : h.OfListed extraNesting outlines) (hunscored : h.Unscored) (hwhole : h.Whole) :
    h.Lasting := by
  have hmetadata : ∀ r ∈ h.records, ∀ m ∈ r.metadata, ∃ ms, m.OfListed extraNesting ms :=
    forall_of_forall₂ (fun _ _ hr => hr.exists_listed) hlisted
  intro r hr m hm
  obtain ⟨ms, hms⟩ := hmetadata r hr m hm
  exact hms.lasting (hunscored r hr m hm) (hwhole r hr m hm)

/-- A history that was read survives a write and a read, if its documents carry no scores and
the numbers that mean nothing here are whole; and for each record, its metadata has kept the
members that the text holds. -/
theorem survives_writing {bytes : List UInt8} {h : History} (hread : ofBytes bytes = .ok h)
    (hunscored : h.Unscored) (hwhole : h.Whole) :
    parse h.toValue.compact = .ok h ∧
      (parse h.toValue.compact).map (fun again => again.toValue.compact) =
        .ok h.toValue.compact ∧
      ∃ outlines, readWhole (outline.read nestingLimit) bytes = .ok outlines ∧
        List.Forall₂ (fun r ms => Option.Rel Metadata.KeepsMembers r.metadata ms)
          h.records outlines := by
  obtain ⟨outlines, houtlines, hlisted⟩ := ofListed_of_ofBytes hread
  have hparse := (hlisted.lasting hunscored hwhole).parse_compact
  exact ⟨hparse, by rw [hparse]; rfl, outlines, houtlines,
    hlisted.imp fun _ _ hr => hr.keepsMembers⟩

/-- Two records.  The metadata of the first one has a name twice and an id that is a number, and
the second one is written as a list. -/
def sampleText : String :=
  "\x7b\"history\":[\x7b\"question\":\"q\",\"metadata\":\x7b\"b\":1," ++
  "\"rerankedDocs\":[\x7b\"link\":\"l\",\"citationId\":3\x7d],\"a\":[true]," ++
  "\"b\":\x7b\"z\":null,\"y\":-2,\"z\":\"\\u0041\"\x7d\x7d\x7d,[\"r\",\"s\"]]\x7d"

/-- What is read of that text. -/
def sample : History := ⟨[
  { question := "q", metadata := some {
      rerankedDocs := some [{ location := .link "l", citationId := some "3" }]
      extra := [("a", .array [.bool true]),
        ("b", .object [("y", .number (.integer (-2))), ("z", .text "A")])] } },
  { question := "r", answer := "s" }]⟩

theorem whole_sample : sample.Whole := by
  intro r hr m hm x hx
  have hfirst : r.metadata = (sample.records.head (by simp [sample])).metadata := by
    rcases List.mem_cons.mp hr with rfl | hr
    · rfl
    · rw [List.mem_singleton.mp hr] at hm
      cases hm
  rw [hfirst] at hm
  obtain rfl := Option.some.inj hm
  rcases List.mem_cons.mp hx with rfl | hx
  · exact .array fun v hv => List.mem_singleton.mp hv ▸ .bool true
  · obtain rfl := List.mem_singleton.mp hx
    refine .object fun y hy => ?_
    rcases List.mem_cons.mp hy with rfl | hy
    · exact .number (-2)
    · rw [List.mem_singleton.mp hy]
      exact .text "A"

theorem survives_writing_sample :
    ofBytes (encode sampleText.toList) = .ok sample ∧ sample.Unscored ∧ sample.Whole ∧
      parse sample.toValue.compact = .ok sample ∧
      ∃ outlines, readWhole (outline.read nestingLimit) (encode sampleText.toList) =
          .ok outlines ∧
        List.Forall₂ (fun r ms => Option.Rel Metadata.KeepsMembers r.metadata ms)
          sample.records outlines := by
  have hread : ofBytes (encode sampleText.toList) = .ok sample := by decide +kernel
  have hunscored : sample.Unscored := by simp [Unscored, sample]
  obtain ⟨hparse, -, hkept⟩ := survives_writing hread hunscored whole_sample
  exact ⟨hread, hunscored, whole_sample, hparse, hkept⟩

end History

end Dialogue
