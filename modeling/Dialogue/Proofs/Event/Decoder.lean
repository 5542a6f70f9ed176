/-
Decoding lines comes to the same as reading the whole body line by line.

Three things go on at once while bytes arrive: a character may be unfinished, a line may
be unfinished, and the events may have ended.  Before they have ended the decoder holds
nothing but what `split` keeps of the bytes and what `cut` leaves of the text, so it is
`after` all bytes that came, however they came.  Once a terminal event was told the
buffers do not matter any more, because no push looks at them.

The reference is `fragments`: all bytes read at once, and the text taken apart at its
newlines.  Every fragment but the last is a line that is complete.  What is held back of
an unfinished character belongs to the last fragment, and a carriage return at the end
of a line is trimmed with the line.
-/
import Mathlib.Data.List.TakeWhile
import Dialogue.Event.Decoder
import Dialogue.Proofs.Event
import Dialogue.Proofs.Text.Lines
import Dialogue.Proofs.Text.Utf8

namespace Dialogue.Event

open Text

/-! ### Lines -/

theorem ofLine_dropReturn (l : List Char) : ofLine (Lines.dropReturn l) = ofLine l := by
  simp only [ofLine, parseLine, Text.trim, String.toList_ofList, Lines.trimChars_dropReturn]

theorem ofLine_of_all_blank {l : List Char} (h : l.all isBlank = true) : ofLine l = [] := by
  have hdrop : l.dropWhile isBlank = [] := by
    rw [List.dropWhile_eq_nil_iff]
    exact List.all_eq_true.mp h
  have htrim : Text.trim (String.ofList l) = "" := by
    simp [Text.trim, trimChars, trimStartChars, trimEndChars, hdrop]
  simp [ofLine, parseLine, htrim]

/-- Reading lines one after another is reading all of them and cutting. -/
theorem ofLines_eq_upToTerminal (ls : List (List Char)) :
    ofLines ls = upToTerminal (ls.flatMap ofLine) := by
  induction ls with
  | nil => rfl
  | cons l ls ih =>
    rw [List.flatMap_cons, ofLines]
    cases hl : (ofLine l).any isTerminal with
    | true => simp [upToTerminal_append_of_any hl, upToTerminal_snd, hl]
    | false => simp [upToTerminal_append_of_not_any hl, upToTerminal_of_not_any hl, ih]

theorem flatMap_ofLine_dropReturn (ls : List (List Char)) :
    (ls.map Lines.dropReturn).flatMap ofLine = ls.flatMap ofLine := by
  simp only [List.flatMap_map, ofLine_dropReturn]

/-! ### The whole body -/

/-- The fragments of a body between its newlines, the last one included. -/
def fragments (body : List UInt8) : List (List Char) := (Utf8.lossyChars body).splitOn '\n'

/-- What the complete lines of a body say. -/
def ofCompleteLines (body : List UInt8) : List Event := (fragments body).dropLast.flatMap ofLine

/-- What the whole body says, if it were no matter where it ends. -/
def ofFragments (body : List UInt8) : List Event := (fragments body).flatMap ofLine

theorem fragments_eq_cut (body : List UInt8) :
    fragments body = (Lines.cut (Utf8.split body).1).1 ++
      [(Lines.cut (Utf8.split body).1).2 ++ Utf8.lossyChars (Utf8.split body).2] := by
  rw [fragments, Lines.splitOn_eq_cut, Utf8.lossyChars_eq_split,
    Lines.cut_append_of_not_mem _ (Utf8.newline_not_mem_lossyChars_split body)]

theorem ofCompleteLines_eq_cut (body : List UInt8) :
    ofCompleteLines body = (Lines.cut (Utf8.split body).1).1.flatMap ofLine := by
  rw [ofCompleteLines, fragments_eq_cut, List.dropLast_concat]

theorem ofFragments_eq_append (body : List UInt8) :
    ofFragments body = ofCompleteLines body ++
      ofLine ((Lines.cut (Utf8.split body).1).2 ++ Utf8.lossyChars (Utf8.split body).2) := by
  rw [ofFragments, ofCompleteLines_eq_cut, fragments_eq_cut, List.flatMap_append,
    List.flatMap_singleton]

namespace Decoder

/-! ### Runs of a decoder -/

/-- What is done with a decoder. -/
inductive Step where
  | push (bytes : List UInt8)
  | finish
  deriving DecidableEq, Repr

/-- Does one thing with a decoder, and gives its events. -/
def step (d : Decoder) : Step → List Event × Decoder
  | .push bytes => d.push bytes
  | .finish => d.finish

/-- Does one thing after another, and gives all the events in order. -/
def run (d : Decoder) : List Step → List Event × Decoder
  | [] => ([], d)
  | s :: rest =>
    let r := d.step s
    let more := r.2.run rest
    (r.1 ++ more.1, more.2)

theorem run_append (d : Decoder) (first second : List Step) :
    d.run (first ++ second) =
      ((d.run first).1 ++ ((d.run first).2.run second).1, ((d.run first).2.run second).2) := by
  induction first generalizing d with
  | nil => rfl
  | cons s rest ih => simp [run, ih, List.append_assoc]

/-- After the end nothing is told, and nothing changes. -/
theorem run_of_terminated {d : Decoder} (h : d.terminated = true) (steps : List Step) :
    d.run steps = ([], d) := by
  induction steps with
  | nil => rfl
  | cons s rest ih =>
    have hs : d.step s = ([], d) := by cases s <;> simp [step, push, finish, h]
    simp [run, hs, ih]

/-! ### Lines -/

/-- The decoder of lines to which these bytes were given, none of whose events was terminal. -/
def after (body : List UInt8) : Decoder where
  framing := .eventLines
  utf8 := .after body
  lines := .after (Utf8.split body).1

theorem after_nil : after [] = { framing := .eventLines } := by
  simp [after, Utf8.Decoder.after_nil, Utf8.split_nil, Lines.Buffer.after_nil]

/-- What a decoder of lines does with text: the lines that it completes are read. -/
theorem takeText_eq (utf8 : Utf8.Decoder) (told text : List Char) :
    ({ framing := .eventLines, utf8, lines := .after told } : Decoder).takeText text =
      let r := upToTerminal ((Lines.cut ((Lines.cut told).2 ++ text)).1.flatMap ofLine)
      (r.1, { framing := .eventLines, utf8, lines := .after (told ++ text), terminated := r.2 }) := by
  cases text with
  | nil =>
    rw [List.append_nil, List.append_nil, Lines.cut_of_not_mem (Lines.newline_not_mem_cut told)]
    rfl
  | cons c text =>
    simp only [takeText, List.isEmpty_cons, Lines.Buffer.push_after, ofLines_eq_upToTerminal,
      flatMap_ofLine_dropReturn]
    rfl

/-- A push tells what the lines say that it completes, up to a terminal event. -/
theorem push_after (body more : List UInt8) :
    ∃ new, ofCompleteLines (body ++ more) = ofCompleteLines body ++ new ∧
      (after body).push more = ((upToTerminal new).1,
        { after (body ++ more) with terminated := (upToTerminal new).2 }) := by
  set text := ((Utf8.Decoder.after body).push more).1 with htext
  refine ⟨(Lines.cut ((Lines.cut (Utf8.split body).1).2 ++ text)).1.flatMap ofLine, ?_, ?_⟩
  · rw [ofCompleteLines_eq_cut, ofCompleteLines_eq_cut, Utf8.Decoder.split_push, ← htext,
      Lines.cut_append, List.flatMap_append]
  · have hutf8 : (Utf8.Decoder.after body).push more = (text, Utf8.Decoder.after (body ++ more)) := by
      rw [htext, Utf8.Decoder.push_after]
    have htold : (Utf8.split (body ++ more)).1 = (Utf8.split body).1 ++ text :=
      Utf8.Decoder.split_push body more
    simp only [push, after, hutf8, htold, Bool.false_eq_true, if_false]
    exact takeText_eq ..

/-- However the bytes are cut into pieces: what was told is what the complete lines say up
to a terminal event, and while there was none the decoder is `after` all the bytes. -/
theorem run_pushes (pieces : List (List UInt8)) : ∀ body : List UInt8,
    (ofCompleteLines body).any isTerminal = false →
    (ofCompleteLines body ++ ((after body).run (pieces.map .push)).1,
        ((after body).run (pieces.map .push)).2.terminated) =
      upToTerminal (ofCompleteLines (body ++ pieces.flatten)) ∧
    (((after body).run (pieces.map .push)).2.terminated = false →
      ((after body).run (pieces.map .push)).2 = after (body ++ pieces.flatten)) := by
  induction pieces with
  | nil =>
    intro body hbody
    simp [run, upToTerminal_of_not_any hbody, after]
  | cons piece pieces ih =>
    intro body hbody
    obtain ⟨new, hlines, hpush⟩ := push_after body piece
    simp only [List.map_cons, run, step, hpush, List.flatten_cons, ← List.append_assoc]
    cases hnew : new.any isTerminal with
    | true =>
      -- The events end in this piece: nothing is read of the others.
      have hend : (upToTerminal new).2 = true := by rw [upToTerminal_snd, hnew]
      obtain ⟨later, hlater, -⟩ := push_after (body ++ piece) pieces.flatten
      have hwhole : upToTerminal (ofCompleteLines (body ++ piece ++ pieces.flatten)) =
          (ofCompleteLines body ++ (upToTerminal new).1, true) := by
        rw [hlater, hlines, List.append_assoc, upToTerminal_append_of_not_any hbody,
          upToTerminal_append_of_any hnew, hend]
      rw [run_of_terminated (by exact hend), hwhole, List.append_nil]
      refine ⟨by rw [hend], fun hopen => ?_⟩
      exact Bool.noConfusion (hend.symm.trans hopen)
    | false =>
      have hclear : (ofCompleteLines (body ++ piece)).any isTerminal = false := by
        rw [hlines, List.any_append, hbody, hnew, Bool.false_or]
      have hstate : ({ after (body ++ piece) with terminated := false } : Decoder) =
          after (body ++ piece) := rfl
      obtain ⟨htold, hafter⟩ := ih (body ++ piece) hclear
      simp only [upToTerminal_of_not_any hnew, hstate]
      rw [← hlines]
      exact ⟨htold, hafter⟩

/-- The end of the bytes: the last fragment is read as a line, and the end is added if
nothing has ended the events. -/
theorem finish_after (body : List UInt8) (h : (ofCompleteLines body).any isTerminal = false) :
    ofCompleteLines body ++ (after body).finish.1 = concluded (upToTerminal (ofFragments body)) ∧
      (after body).finish.2.terminated = true := by
  set rest := (Lines.cut (Utf8.split body).1).2 ++ Utf8.lossyChars (Utf8.split body).2 with hrest
  -- No line is completed by what is held back; it only makes the last fragment longer.
  have htext : ({ framing := .eventLines, lines := .after (Utf8.split body).1 } : Decoder).takeText
      (Utf8.lossyChars (Utf8.split body).2) = ([], { framing := .eventLines, lines := ⟨rest⟩ }) := by
    have hnone : '\n' ∉ rest := by
      rw [hrest, List.mem_append, not_or]
      exact ⟨Lines.newline_not_mem_cut _, Utf8.newline_not_mem_lossyChars_split body⟩
    have hlines : Lines.Buffer.after
        ((Utf8.split body).1 ++ Utf8.lossyChars (Utf8.split body).2) = ⟨rest⟩ := by
      rw [Lines.Buffer.after,
        Lines.cut_append_of_not_mem _ (Utf8.newline_not_mem_lossyChars_split body)]
    have := takeText_eq {} (Utf8.split body).1 (Utf8.lossyChars (Utf8.split body).2)
    rw [← hrest, Lines.cut_of_not_mem hnone, hlines] at this
    exact this
  have hlast : ({ framing := .eventLines, lines := ⟨rest⟩ } : Decoder).takeLastLine =
      ((upToTerminal (ofLine rest)).1,
        { framing := .eventLines, terminated := (upToTerminal (ofLine rest)).2 }) := by
    cases hblank : rest.all isBlank with
    | true => simp [takeLastLine, Lines.Buffer.finish, hblank, ofLine_of_all_blank, upToTerminal]
    | false =>
      simp [takeLastLine, Lines.Buffer.finish, hblank, ofLines_eq_upToTerminal]
  have hfinish : (after body).finish =
      (concluded (upToTerminal (ofLine rest)), { framing := .eventLines, terminated := true }) := by
    have hutf8 : (Utf8.Decoder.after body).finish = (Utf8.lossyChars (Utf8.split body).2, {}) := rfl
    simp only [finish, after, hutf8, htext, hlast, concluded]
    cases (upToTerminal (ofLine rest)).2 <;> simp
  rw [hfinish, ofFragments_eq_append, ← hrest, upToTerminal_append_of_not_any h]
  refine ⟨?_, rfl⟩
  unfold concluded
  split <;> simp

theorem ofCompleteLines_nil : ofCompleteLines [] = [] := by
  rw [ofCompleteLines_eq_cut, Utf8.split_nil]
  rfl

/-- Pieces and then the end: all events are those of the whole body. -/
theorem run_pushes_finish (pieces : List (List UInt8)) :
    ((after []).run (pieces.map .push ++ [.finish])).1 =
        concluded (upToTerminal (ofFragments pieces.flatten)) ∧
      ((after []).run (pieces.map .push ++ [.finish])).2.terminated = true := by
  obtain ⟨htold, hopen⟩ := run_pushes pieces [] (by rw [ofCompleteLines_nil]; rfl)
  rw [ofCompleteLines_nil, List.nil_append, List.nil_append] at htold
  rw [List.nil_append] at hopen
  set r := (after []).run (pieces.map .push) with hr
  rw [run_append, ← hr]
  cases hend : r.2.terminated with
  | true =>
    have hany : (ofCompleteLines pieces.flatten).any isTerminal = true := by
      rw [← upToTerminal_snd, ← htold, hend]
    rw [run_of_terminated hend, ofFragments_eq_append, upToTerminal_append_of_any hany, ← htold,
      hend, List.append_nil]
    exact ⟨rfl, rfl⟩
  | false =>
    have hany : (ofCompleteLines pieces.flatten).any isTerminal = false := by
      rw [← upToTerminal_snd, ← htold, hend]
    obtain ⟨hfinish, hover⟩ := finish_after pieces.flatten hany
    have hevents : r.1 = ofCompleteLines pieces.flatten := by
      rw [upToTerminal_of_not_any hany, Prod.mk.injEq] at htold
      exact htold.1
    rw [hopen hend, hevents]
    simp only [run, step, List.append_nil]
    exact ⟨hfinish, hover⟩

end Decoder

end Dialogue.Event
