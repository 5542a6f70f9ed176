/-
Every answer has one end, and nothing comes behind it.

The terminal event can come from a line that says so, from one that cannot be read, from
the end of the bytes, from a body that breaks off, or from a request that got no answer.
`Told` is what all of these have in common: as long as an answer goes on none of its
events is terminal, and when it has ended the last one is and no other.  A decoder whose
events have ended tells nothing any more, so whatever is done with it, in whatever order,
what it has told stays `Told`; and so it is with every reading of a body and with every
plan that a service makes for its worker.

A worker that waits for ever ends no answer.  It is the one case in which the events of a
plan have no end, and then it does not give up the stream either.
-/
import Dialogue.Proofs.Event.Body

namespace Dialogue

namespace Event

/-- What has been told of an answer, and whether it has ended. -/
inductive Told : List Event → Bool → Prop
  /-- No event is terminal. -/
  | goesOn {es : List Event} (h : es.any isTerminal = false) : Told es false
  /-- The last event is terminal, and no other. -/
  | ends {es : List Event} {e : Event} (h : es.any isTerminal = false)
      (he : e.isTerminal = true) : Told (es ++ [e]) true

/-! ### Putting pieces together -/

theorem Told.any_isTerminal {es : List Event} {ended : Bool} (h : Told es ended) :
    es.any isTerminal = ended := by
  cases h with
  | goesOn h => exact h
  | ends h he => simp [he]

/-- The end alone. -/
theorem told_singleton {e : Event} (he : e.isTerminal = true) : Told [e] true :=
  Told.ends (List.any_nil) he

/-- Behind what goes on more may be told. -/
theorem Told.append {es more : List Event} {ended : Bool} (h : Told es false)
    (hmore : Told more ended) : Told (es ++ more) ended := by
  have hopen := h.any_isTerminal
  cases hmore with
  | goesOn hm => exact .goesOn (by rw [List.any_append, hopen, hm, Bool.or_false])
  | ends hm he =>
    rw [← List.append_assoc]
    exact .ends (by rw [List.any_append, hopen, hm, Bool.or_false]) he

/-- Cutting at the first terminal event leaves what an answer may tell. -/
theorem told_upToTerminal (es : List Event) : Told (upToTerminal es).1 (upToTerminal es).2 := by
  induction es with
  | nil => exact .goesOn rfl
  | cons e es ih =>
    by_cases he : e.isTerminal = true
    · rw [upToTerminal, if_pos he]
      exact told_singleton he
    · rw [upToTerminal, if_neg he]
      have hfirst : Told [e] false := .goesOn (by simpa using he)
      exact hfirst.append ih

/-! ### The decoder -/

theorem told_ofLines (ls : List (List Char)) : Told (ofLines ls).1 (ofLines ls).2 := by
  rw [ofLines_eq_upToTerminal]
  exact told_upToTerminal _

namespace Decoder

variable {d : Decoder}

theorem told_takeText (h : d.terminated = false) (text : List Char) :
    Told (d.takeText text).1 (d.takeText text).2.terminated := by
  have hnone : Told [] d.terminated := by
    rw [h]
    exact .goesOn rfl
  unfold takeText
  split
  · exact hnone
  · split
    · rw [h]
      exact .goesOn rfl
    · exact told_ofLines _

theorem told_takeLastLine (h : d.terminated = false) :
    Told d.takeLastLine.1 d.takeLastLine.2.terminated := by
  have hnone : Told [] d.terminated := by
    rw [h]
    exact .goesOn rfl
  unfold takeLastLine
  split
  · exact hnone
  · split
    split
    · exact hnone
    · rename_i l hline
      have htold := told_ofLines [l]
      -- Opaque, so that the line is not read to compare the two.
      generalize ofLines [l] = r at htold ⊢
      exact htold

theorem takeLastLine_of_terminated (h : d.terminated = true) : d.takeLastLine = ([], d) := by
  unfold takeLastLine
  rw [h, Bool.true_or, if_pos rfl]

theorem told_push (h : d.terminated = false) (bytes : List UInt8) :
    Told (d.push bytes).1 (d.push bytes).2.terminated := by
  unfold push
  rw [if_neg (ne_true_of_eq_false h)]
  exact told_takeText (d := { d with utf8 := (d.utf8.push bytes).2 }) h (d.utf8.push bytes).1

/-- Text that was held back and a last line come before the end, unless one of them has it. -/
theorem told_finish (h : d.terminated = false) :
    Told d.finish.1 true ∧ d.finish.2.terminated = true := by
  have htext := told_takeText (d := { d with utf8 := d.utf8.finish.2 }) h d.utf8.finish.1
  unfold finish
  rw [if_neg (ne_true_of_eq_false h)]
  dsimp only
  generalize ({ d with utf8 := d.utf8.finish.2 } : Decoder).takeText d.utf8.finish.1 = r at htext
  have hlast : Told (r.1 ++ r.2.takeLastLine.1) r.2.takeLastLine.2.terminated := by
    cases hend : r.2.terminated with
    | true =>
      rw [hend] at htext
      rw [takeLastLine_of_terminated hend, List.append_nil, hend]
      exact htext
    | false =>
      rw [hend] at htext
      exact htext.append (told_takeLastLine hend)
  cases hend : r.2.takeLastLine.2.terminated with
  | true =>
    rw [hend] at hlast
    rw [if_pos rfl]
    exact ⟨hlast, hend⟩
  | false =>
    rw [hend] at hlast
    rw [if_neg Bool.false_ne_true]
    exact ⟨hlast.append (told_singleton rfl), rfl⟩

theorem told_step (h : d.terminated = false) (s : Step) :
    Told (d.step s).1 (d.step s).2.terminated := by
  cases s with
  | push bytes => exact told_push h bytes
  | finish =>
    obtain ⟨htold, hend⟩ := told_finish h
    rw [step, hend]
    exact htold

/-- Whatever is done with a decoder, and in whatever order. -/
theorem told_run (steps : List Step) : ∀ {d : Decoder}, d.terminated = false →
    Told (d.run steps).1 (d.run steps).2.terminated := by
  induction steps with
  | nil =>
    intro d h
    rw [run, h]
    exact .goesOn rfl
  | cons s rest ih =>
    intro d h
    have hstep := told_step h s
    rw [run]
    cases hend : (d.step s).2.terminated with
    | true =>
      rw [hend] at hstep
      rw [run_of_terminated hend, List.append_nil, hend]
      exact hstep
    | false =>
      rw [hend] at hstep
      exact hstep.append (ih hend)

/-- Who says that no more bytes come, has the end told at the latest then. -/
theorem terminated_of_finish {steps : List Step} (hfinish : .finish ∈ steps) (d : Decoder) :
    (d.run steps).2.terminated = true := by
  induction steps generalizing d with
  | nil => exact absurd hfinish List.not_mem_nil
  | cons s rest ih =>
    rw [run]
    cases hend : (d.step s).2.terminated with
    | true => rw [run_of_terminated hend, hend]
    | false =>
      rcases List.mem_cons.mp hfinish with rfl | hfinish
      · -- The step ends the events even if they had not ended before.
        cases hd : d.terminated with
        | false => exact absurd ((told_finish hd).2.symm.trans hend) (by simp)
        | true =>
          have hsame : d.step .finish = ([], d) := by rw [step, finish, if_pos hd]
          rw [hsame, hd] at hend
          exact absurd hend (by simp)
      · exact ih hfinish _

end Decoder

/-! ### Bodies -/

/-- Reading a body has come to the end of the events, or to the end of the body, where the
decoder has still to tell the end. -/
theorem told_readBody (parts : List Part) : ∀ {d : Decoder}, d.terminated = false →
    Told (readBody true d parts).batches.flatten (readBody true d parts).last.isNone ∧
      ∀ last, (readBody true d parts).last = some last → Told last true := by
  induction parts with
  | nil =>
    intro d h
    refine ⟨.goesOn rfl, fun last hlast => ?_⟩
    rw [← Option.some.inj hlast]
    exact (Decoder.told_finish h).1
  | cons part rest ih =>
    intro d h
    cases part with
    | broken reason => exact ⟨told_singleton rfl, by simp [readBody]⟩
    | data bytes =>
      have hpush := Decoder.told_push h bytes
      simp only [readBody, Bool.not_true, Bool.false_and, Bool.false_or]
      cases hend : (d.push bytes).2.terminated with
      | true =>
        rw [hend] at hpush
        simpa using hpush
      | false =>
        rw [hend] at hpush
        obtain ⟨htold, hlast⟩ := ih hend
        exact ⟨hpush.append htold, hlast⟩

/-- All events of a body, whatever parts it has, and wherever reading fails. -/
theorem told_events_readBody {d : Decoder} (h : d.terminated = false) (parts : List Part) :
    Told (readBody true d parts).events true := by
  obtain ⟨htold, hlast⟩ := told_readBody parts h
  rw [Reading.events]
  cases hr : (readBody true d parts).last with
  | none =>
    rw [hr] at htold
    simpa using htold
  | some last =>
    rw [hr] at htold
    exact htold.append (hlast last hr)

/-! ### Services -/

/-- The events of a plan have one end, unless the worker waits for ever. -/
def Plan.EndsOnce (p : Plan) : Prop := Told p.batches.flatten (!p.holds)

end Event

namespace Http

theorem endsOnce_failing (f : Failure) : (failing f).EndsOnce :=
  Event.told_singleton rfl

theorem endsOnce_stalled : stalled.EndsOnce := .goesOn rfl

/-- A body that goes on for ever is not read to its end. -/
theorem endsOnce_stream (framing : Framing) (a : Answer) : (a.stream framing).EndsOnce := by
  obtain ⟨htold, hlast⟩ := Event.told_readBody a.parts (d := { framing }) rfl
  unfold Answer.stream
  dsimp only
  generalize Event.readBody true { framing } a.parts = r at htold hlast
  cases hr : r.last with
  | none =>
    rw [hr] at htold
    cases a.ending <;> exact htold
  | some last =>
    rw [hr] at htold
    have hwhole : (⟨r.batches ++ [last], false⟩ : Event.Plan).EndsOnce := by
      rw [Event.Plan.EndsOnce, List.flatten_append, List.flatten_singleton]
      exact htold.append (hlast last hr)
    cases a.ending with
    | held => exact htold
    | complete | broken => exact hwhole

theorem endsOnce_plan (framing : Framing) (r : Request) (o : Outcome) :
    (o.plan framing r).EndsOnce := by
  cases o with
  | unanswered => exact endsOnce_failing _
  | waiting => exact endsOnce_stalled
  | answered a =>
    simp only [Outcome.plan]
    split
    · exact endsOnce_stream framing a
    · split
      · exact endsOnce_stalled
      · exact endsOnce_failing _

/-- Whatever becomes of a question, its events have one end. -/
theorem endsOnce_ask (s : ChatService) (exchange : Request → Conduct) (k : Nat) (q : Question) :
    (s.ask (m := Id) exchange k q).EndsOnce := by
  unfold ChatService.ask
  split
  · exact endsOnce_failing _
  · exact endsOnce_plan ..

end Http

end Dialogue
