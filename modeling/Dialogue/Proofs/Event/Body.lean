/-
The events of a body do not depend on its parts.

Reading a body is running a decoder over its parts and then to the end: where the reader
stops before the end, the decoder has nothing more to tell.  Of lines this gives the events
of all fragments, with the end added if nothing has ended them.  Plain text is told in
chunks; how many there are depends on the parts, but together they are the text of the
whole body, and that is all that a turn keeps of them.
-/
import Dialogue.Event.Body
import Dialogue.Http.Chat
import Dialogue.Proofs.Event.Decoder
import Dialogue.Proofs.Turn

namespace Dialogue

namespace Event

open Text

/-! ### Reading -/

/-- Reading parts of a body, while somebody receives, tells what the decoder tells. -/
theorem events_readBody (pieces : List (List UInt8)) (d : Decoder) :
    (readBody true d (pieces.map .data)).events = (d.run (pieces.map .push ++ [.finish])).1 := by
  induction pieces generalizing d with
  | nil => simp [readBody, Reading.events, Decoder.run, Decoder.step]
  | cons piece pieces ih =>
    simp only [List.map_cons, List.cons_append, readBody, Decoder.run, Decoder.step, Bool.not_true,
      Bool.false_and, Bool.false_or]
    cases hend : (d.push piece).2.terminated with
    | true => simp [Reading.events, Decoder.run_of_terminated hend]
    | false =>
      rw [← ih]
      simp [Reading.events, Reading.cons]

/-- The whole answer of a service is sent as the events of its body, and then nothing. -/
theorem batches_stream {a : Http.Answer} (h : a.ending = .complete) (framing : Framing) :
    (a.stream framing).batches.flatten =
        (readBody true { framing } (a.pieces.map .data)).events ∧
      (a.stream framing).holds = false := by
  have hparts : a.parts = a.pieces.map .data := by simp [Http.Answer.parts, h]
  simp only [Http.Answer.stream, hparts, h]
  cases hlast : (readBody true { framing } (a.pieces.map .data)).last with
  | none => simp [Reading.events, hlast]
  | some last => simp [Reading.events, hlast]

/-- What the worker of a service sends that answers with success. -/
theorem ask_of_answered {service : Http.ChatService} {exchange : Http.Request → Http.Conduct}
    {k : Nat} {q : Question} {r : Http.Request} {a : Http.Answer}
    (hrequest : service.request k q = .ok r)
    (hanswer : (exchange r).outcome service.config.timeouts = .answered a)
    (hsuccess : a.isSuccess = true) :
    service.ask (m := Id) exchange k q = a.stream service.config.framing := by
  unfold Http.ChatService.ask
  rw [hrequest]
  show (((exchange r).outcome service.config.timeouts).plan service.config.framing r) = _
  rw [hanswer, Http.Outcome.plan, if_pos hsuccess]

/-! ### Plain text -/

namespace Decoder

/-- The decoder of plain text to which these bytes were given. -/
def afterText (body : List UInt8) : Decoder where
  framing := .plainText
  utf8 := .after body

theorem afterText_nil : afterText [] = { framing := .plainText } := by
  rw [afterText, Utf8.Decoder.after_nil]

/-- The chunk for a piece of text, unless it is empty. -/
def chunks (text : List Char) : List (List Char) := if text.isEmpty then [] else [text]

theorem flatten_chunks (text : List Char) : (chunks text).flatten = text := by
  cases text <;> simp [chunks]

theorem takeText_plain {d : Decoder} (h : d.framing = .plainText) (text : List Char) :
    d.takeText text = ((chunks text).map fun c => .chunk (String.ofList c), d) := by
  cases text <;> simp [takeText, chunks, h]

theorem push_afterText (body more : List UInt8) :
    (afterText body).push more =
      ((chunks ((Utf8.Decoder.after body).push more).1).map fun c => .chunk (String.ofList c),
        afterText (body ++ more)) := by
  have hutf8 : ((Utf8.Decoder.after body).push more).2 = Utf8.Decoder.after (body ++ more) := by
    rw [Utf8.Decoder.push_after]
  simp only [push, afterText, Bool.false_eq_true, if_false, hutf8]
  exact takeText_plain rfl _

/-- However the bytes are cut into pieces, the chunks together are their text. -/
theorem run_text (pieces : List (List UInt8)) : ∀ body : List UInt8, ∃ texts : List (List Char),
    Utf8.lossyChars (body ++ pieces.flatten) = (Utf8.split body).1 ++ texts.flatten ∧
    ((afterText body).run (pieces.map .push ++ [.finish])).1 =
      (texts.map fun c => .chunk (String.ofList c)) ++ [.done] := by
  induction pieces with
  | nil =>
    intro body
    refine ⟨chunks (Utf8.lossyChars (Utf8.split body).2), ?_, ?_⟩
    · rw [flatten_chunks, List.flatten_nil, List.append_nil, Utf8.lossyChars_eq_split]
    · have hutf8 : (Utf8.Decoder.after body).finish = (Utf8.lossyChars (Utf8.split body).2, {}) := rfl
      simp [run, step, finish, afterText, hutf8, takeText_plain, takeLastLine]
  | cons piece pieces ih =>
    intro body
    obtain ⟨texts, htext, hrun⟩ := ih (body ++ piece)
    refine ⟨chunks ((Utf8.Decoder.after body).push piece).1 ++ texts, ?_, ?_⟩
    · rw [List.flatten_cons, ← List.append_assoc, htext, Utf8.Decoder.split_push,
        List.flatten_append, flatten_chunks, List.append_assoc]
    · simp only [List.map_cons, List.cons_append, run, step, push_afterText, hrun]
      simp

end Decoder

/-- The events of a body that does not break off have an end. -/
theorem any_events_readBody (framing : Framing) (pieces : List (List UInt8)) :
    (readBody true { framing } (pieces.map .data)).events.any isTerminal = true := by
  rw [events_readBody]
  cases framing with
  | eventLines =>
    have hlines := (Decoder.run_pushes_finish pieces).1
    rw [Decoder.after_nil] at hlines
    rw [hlines, any_concluded]
  | plainText =>
    obtain ⟨texts, -, hrun⟩ := Decoder.run_text pieces []
    rw [Decoder.afterText_nil] at hrun
    rw [hrun, List.any_append]
    simp [isTerminal]

end Event

/-! ### Turns -/

namespace Turn

/-- Chunks are put together one after the other. -/
theorem accumulateAll_chunks {t : Turn} (h : t.isPending = true) (texts : List (List Char)) :
    t.accumulateAll (texts.map fun c => .chunk (String.ofList c)) =
      { t with answer := t.answer ++ String.ofList texts.flatten } := by
  induction texts generalizing t with
  | nil => simp [accumulateAll]
  | cons text texts ih =>
    have hstep : t.accumulate (.chunk (String.ofList text)) =
        { t with answer := t.answer ++ String.ofList text } := by simp [accumulate, h]
    rw [List.map_cons, accumulateAll, List.foldl_cons, ← accumulateAll, hstep, ih (by exact h)]
    simp [String.append_assoc, String.ofList_append]

/-- What a question is answered by a whole body. -/
def answered (framing : Framing) (id : TurnId) (question : String) (body : List UInt8) : Turn :=
  match framing with
  | .plainText => resolved id question (Text.Utf8.lossy body) []
  | .eventLines =>
    (pending id question).accumulateAll
      (Event.concluded (Event.upToTerminal (Event.ofFragments body)))

/-- Whatever parts the body comes in, its events make the same turn. -/
theorem accumulateAll_readBody (framing : Framing) (id : TurnId) (question : String)
    (pieces : List (List UInt8)) :
    (pending id question).accumulateAll
        (Event.readBody true { framing } (pieces.map .data)).events =
      answered framing id question pieces.flatten := by
  rw [Event.events_readBody]
  cases framing with
  | eventLines =>
    have hlines := (Event.Decoder.run_pushes_finish pieces).1
    rw [Event.Decoder.after_nil] at hlines
    rw [hlines, answered]
  | plainText =>
    obtain ⟨texts, htext, hrun⟩ := Event.Decoder.run_text pieces []
    rw [Event.Decoder.afterText_nil] at hrun
    rw [List.nil_append, Text.Utf8.split_nil, List.nil_append] at htext
    rw [hrun, accumulateAll_concat, accumulateAll_chunks rfl, answered, Text.Utf8.lossy, htext]
    simp [accumulate, pending, resolved]

end Turn

end Dialogue
