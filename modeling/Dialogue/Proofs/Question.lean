/-
A question is told by its text.

What is written for a question is read back as the same question, so no two questions have the
same text.  This is also how the id of a chat that is empty is told from one that is missing:
the first one is a member of the object that is written, and the other is not.
-/
import Dialogue.Proofs.Json.Grammar.Record
import Dialogue.Question

namespace Dialogue.Question

open Json
open Text.Utf8 (encode)

variable {depth : Nat}

/-- The members that are written for a question. -/
def members (q : Question) : List (String × Value) :=
  ("question", .text q.question) ::
    match q.chatId with
    | some id => [("conversationId", .text id)]
    | none => []

theorem proper_members (q : Question) : ∀ m ∈ q.members, m.2.Proper depth := by
  obtain ⟨question, _ | id⟩ := q
  all_goals simp [members, Value.Proper.text]

theorem mem_conversationId_iff (q : Question) :
    "conversationId" ∈ q.members.map (·.1) ↔ q.chatId ≠ none := by
  obtain ⟨question, _ | id⟩ := q
  all_goals simp [members]

theorem takes_members (q : Question) :
    Takes Layout.compact (record.readMember depth) {} q.members
      ⟨some q.question, q.chatId.map some⟩ := by
  obtain ⟨question, chatId⟩ := q
  have htext := fun (s : String) rest (_ : EndsNumber rest) => readText_write s rest
  cases chatId with
  | none => exact record.takes_field question rfl rfl (htext question) (.nil _)
  | some id =>
    have hid := fun rest hrest => readOptional_text id (htext id rest hrest)
    exact record.takes_field question rfl rfl (htext question)
      (record.takes_field (some id) rfl rfl hid (.nil _))

/-- A question is read back from what is written for it. -/
theorem read_toValue (q : Question) (rest : List UInt8) :
    record.read (depth + 1) (encode q.toValue.write ++ rest) = .ok (q, rest) := by
  refine record.read_written q.takes_members rfl ?_ rest
  obtain ⟨question, _ | id⟩ := q
  all_goals rfl

theorem parse_compact (q : Question) : parse q.toValue.compact = .ok q :=
  readString_compact fun rest _ => q.read_toValue rest

theorem compact_injective {q q' : Question} (h : q'.toValue.compact = q.toValue.compact) :
    q' = q := by
  have hread := q'.parse_compact
  rw [h, q.parse_compact] at hread
  exact (Except.ok.inj hread).symm

/-- The text of a question is an object of its members, and they include an id just if there is
one.  It is read back as the same question, and no other question has this text; in particular
an id that is empty and one that is missing give different texts. -/
theorem told_by_own_text (q : Question) :
    parse q.toValue.compact = .ok q ∧
      (∀ ms, WholeText (MembersText nestingLimit) ms (encode q.toValue.compact.toList) ↔
        ms = q.members) ∧
      ("conversationId" ∈ q.members.map (·.1) ↔ q.chatId ≠ none) ∧
      (∀ q' : Question, q'.toValue.compact = q.toValue.compact ↔ q' = q) ∧
      ({ q with chatId := some "" } : Question).toValue.compact ≠
        ({ q with chatId := none } : Question).toValue.compact := by
  refine ⟨q.parse_compact, fun ms => ?_, q.mem_conversationId_iff,
    fun q' => ⟨compact_injective, fun heq => by rw [heq]⟩, fun heq => ?_⟩
  · have hlisted : readString (listed.read nestingLimit) q.toValue.compact = .ok q.members :=
      readString_compact fun rest _ => listed_read_written q.proper_members rest
    rw [← (reads_listed nestingLimit).readWhole_eq_ok]
    change readString (listed.read nestingLimit) q.toValue.compact = _ ↔ _
    rw [hlisted]
    exact ⟨fun h => (Except.ok.inj h).symm, fun h => by rw [h]⟩
  · cases congrArg Question.chatId (compact_injective heq)

/-- Quotes, controls and what looks like the members themselves are only text. -/
example : ({ question := "\",\"conversationId\":\"x\x00" } : Question).toValue.compact =
    "\x7b\"question\":\"\\\",\\\"conversationId\\\":\\\"x\\u0000\"\x7d" := by decide

end Dialogue.Question
