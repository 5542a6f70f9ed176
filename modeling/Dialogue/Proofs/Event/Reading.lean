/-
A body is read no further than its events need.

Where reading stops can be told from the parts themselves: at the first one that is a failure,
or with which the data so far have an end to tell.  If no one receives the events, it is enough
that there is anything to tell.  That the reader keeps a decoder from part to part makes the
only difficulty: what a part completes depends on all parts before it.  So the parts are cut off
from the front, and what was told of those is put before what the others tell.  Up to the part
where reading stops that is nothing terminal, or nothing at all.
-/
import Dialogue.Proofs.Event.Ending

namespace Dialogue.Event

/-- The bytes of a part that has some. -/
def Part.bytes? : Part → Option (List UInt8)
  | .data bytes => some bytes
  | .broken _ => none

/-- What a part tells by itself. -/
def Part.failure : Part → List Event
  | .data _ => []
  | .broken reason => [brokenBody reason]

/-- Decodes the data among some parts. -/
def Decoder.feed (d : Decoder) (parts : List Part) : List Event × Decoder :=
  d.run ((parts.filterMap Part.bytes?).map .push)

/-- Reading stops at a part: it is a failure, or now there is an end to tell, or, if no one
hears, anything at all. -/
def StopsAt (heard : Bool) (d : Decoder) (before : List Part) : Part → Prop
  | .broken _ => True
  | .data bytes =>
    if heard then (d.feed (before ++ [.data bytes])).1.any isTerminal = true
    else (d.feed (before ++ [.data bytes])).1 ≠ []

/-- Reading stops at none of these parts. -/
def GoesThrough (heard : Bool) (d : Decoder) (parts : List Part) : Prop :=
  ∀ before part behind, parts = before ++ part :: behind → ¬ StopsAt heard d before part

/-- How far a body is read, and what is told of it. -/
inductive ReadAsNeeded (heard : Bool) (d : Decoder) (parts : List Part) (r : Reading) : Prop
  /-- It is read to the first part at which reading stops; what stands behind it might be
  anything. -/
  | stopped {before : List Part} {part : Part} {behind : List Part}
      (hparts : parts = before ++ part :: behind) (hbefore : GoesThrough heard d before)
      (hpart : StopsAt heard d before part) (htaken : r.partsTaken = before.length + 1)
      (hevents : r.events = (d.feed (before ++ [part])).1 ++ part.failure)
      (hunread : ∀ others, readBody heard d (before ++ part :: others) = r)
  /-- It is read to its end. -/
  | ended (hparts : GoesThrough heard d parts) (htaken : r.partsTaken = parts.length)
      (hevents : r.events = (d.feed parts).1 ++ (d.feed parts).2.finish.1)

namespace Decoder

variable {d : Decoder}

theorem feed_nil (d : Decoder) : d.feed [] = ([], d) := rfl

theorem feed_data (d : Decoder) (bytes : List UInt8) (parts : List Part) :
    d.feed (.data bytes :: parts) =
      ((d.push bytes).1 ++ ((d.push bytes).2.feed parts).1, ((d.push bytes).2.feed parts).2) := rfl

end Decoder

variable {heard : Bool} {d : Decoder}

/-- With the first part the reader stops as it should. -/
theorem stopsAt_first_iff (h : d.terminated = false) (bytes : List UInt8) :
    StopsAt heard d [] (.data bytes) ↔
      ((!heard && !(d.push bytes).1.isEmpty) || (d.push bytes).2.terminated) = true := by
  have htold := Decoder.told_push h bytes
  have hfeed : (d.feed [.data bytes]).1 = (d.push bytes).1 := by
    rw [Decoder.feed_data, Decoder.feed_nil, List.append_nil]
  simp only [StopsAt, List.nil_append, hfeed]
  cases heard with
  | true => simp [htold.any_isTerminal]
  | false =>
    -- What has an end is not empty, so here the end makes no difference.
    cases hend : (d.push bytes).2.terminated with
    | false => simp
    | true =>
      rw [hend] at htold
      have hne : (d.push bytes).1 ≠ [] := fun hnil => by
        have hany := htold.any_isTerminal
        rw [hnil] at hany
        cases hany
      simp [hne]

/-- A part at which reading does not stop, can be taken off the front. -/
theorem stopsAt_behind_iff {bytes : List UInt8} (h : d.terminated = false)
    (hfirst : ¬ StopsAt heard d [] (.data bytes)) (before : List Part) (part : Part) :
    StopsAt heard d (.data bytes :: before) part ↔
      StopsAt heard (d.push bytes).2 before part := by
  have htold := Decoder.told_push h bytes
  rw [stopsAt_first_iff h, Bool.or_eq_true, not_or] at hfirst
  obtain ⟨hsilent, hopen⟩ := hfirst
  rw [eq_false_of_ne_true hopen] at htold
  cases part with
  | broken reason => exact Iff.rfl
  | data more =>
    simp only [StopsAt, List.cons_append, Decoder.feed_data, List.any_append,
      htold.any_isTerminal, Bool.false_or]
    cases heard with
    | true => exact Iff.rfl
    | false =>
      have hnil : (d.push bytes).1 = [] := by simpa using hsilent
      rw [hnil, List.nil_append]

theorem goesThrough_nil : GoesThrough heard d [] := by
  intro before part behind hparts
  simp at hparts

theorem goesThrough_cons {bytes : List UInt8} {parts : List Part} (h : d.terminated = false)
    (hfirst : ¬ StopsAt heard d [] (.data bytes))
    (hrest : GoesThrough heard (d.push bytes).2 parts) :
    GoesThrough heard d (.data bytes :: parts) := by
  intro before part behind hparts
  cases before with
  | nil =>
    obtain ⟨rfl, -⟩ := List.cons.inj hparts
    exact hfirst
  | cons first before =>
    obtain ⟨rfl, hbehind⟩ := List.cons.inj hparts
    rw [stopsAt_behind_iff h hfirst]
    exact hrest before part behind hbehind

/-- The reader goes on behind a part at which it does not stop. -/
theorem readBody_behind {bytes : List UInt8} (h : d.terminated = false)
    (hfirst : ¬ StopsAt heard d [] (.data bytes)) (parts : List Part) :
    readBody heard d (.data bytes :: parts) =
      (readBody heard (d.push bytes).2 parts).cons (d.push bytes).1 := by
  rw [stopsAt_first_iff h] at hfirst
  rw [readBody]
  exact if_neg hfirst

theorem ReadAsNeeded.cons {bytes : List UInt8} {parts : List Part} {r : Reading}
    (h : d.terminated = false) (hfirst : ¬ StopsAt heard d [] (.data bytes))
    (hrest : ReadAsNeeded heard (d.push bytes).2 parts r) :
    ReadAsNeeded heard d (.data bytes :: parts) (r.cons (d.push bytes).1) := by
  have hevents : (r.cons (d.push bytes).1).events = (d.push bytes).1 ++ r.events := by
    simp [Reading.events, Reading.cons]
  cases hrest with
  | @stopped before part behind hparts hbefore hpart htaken htold hunread =>
    have hsplit : .data bytes :: parts = (.data bytes :: before) ++ part :: behind :=
      congrArg (Part.data bytes :: ·) hparts
    refine .stopped hsplit (goesThrough_cons h hfirst hbefore)
      ((stopsAt_behind_iff h hfirst before part).mpr hpart) (congrArg (· + 1) htaken) ?_
      fun others => ?_
    · rw [hevents, htold, List.cons_append, Decoder.feed_data, List.append_assoc]
    · rw [List.cons_append, readBody_behind h hfirst, hunread others]
  | ended hparts htaken htold =>
    refine .ended (goesThrough_cons h hfirst hparts) (congrArg (· + 1) htaken) ?_
    rw [hevents, htold, Decoder.feed_data, List.append_assoc]

theorem readAsNeeded (parts : List Part) : ∀ {d : Decoder}, d.terminated = false →
    ReadAsNeeded heard d parts (readBody heard d parts) := by
  induction parts with
  | nil =>
    intro d h
    exact .ended goesThrough_nil rfl rfl
  | cons part parts ih =>
    intro d h
    have hsplit : part :: parts = [] ++ part :: parts := rfl
    cases part with
    | broken reason =>
      exact .stopped hsplit goesThrough_nil trivial rfl rfl fun others => rfl
    | data bytes =>
      by_cases hfirst : StopsAt heard d [] (.data bytes)
      · have hstop : ∀ others, readBody heard d (.data bytes :: others) =
            { batches := [(d.push bytes).1] } := by
          intro others
          rw [readBody]
          exact if_pos ((stopsAt_first_iff h bytes).mp hfirst)
        rw [hstop parts]
        refine .stopped hsplit goesThrough_nil hfirst rfl ?_ hstop
        simp [Reading.events, Decoder.feed_data, Decoder.feed_nil, Part.failure]
      · rw [readBody_behind h hfirst]
        have hopen : (d.push bytes).2.terminated = false := by
          rw [stopsAt_first_iff h, Bool.or_eq_true, not_or] at hfirst
          exact eq_false_of_ne_true hfirst.2
        exact (ih hopen).cons h hfirst

end Dialogue.Event
