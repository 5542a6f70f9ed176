/-
What events and cancellations do to a turn.

The id and the question of a turn never change.  A pending turn stays pending until a
terminal event or a cancellation comes; from then on nothing changes it.
-/
import Mathlib.Tactic.Common
import Dialogue.Proofs.Event
import Dialogue.Turn

namespace Dialogue.Turn

theorem accumulate_of_not_pending {t : Turn} (h : t.isPending = false) (e : Event) :
    t.accumulate e = t := by simp [accumulate, h]

theorem accumulate_id (t : Turn) (e : Event) : (t.accumulate e).id = t.id := by
  unfold accumulate
  split
  · cases e <;> rfl
  · rfl

theorem accumulate_question (t : Turn) (e : Event) :
    (t.accumulate e).question = t.question := by
  unfold accumulate
  split
  · cases e <;> rfl
  · rfl

/-- Of the events only the terminal ones resolve a turn. -/
theorem accumulate_isPending (t : Turn) (e : Event) :
    (t.accumulate e).isPending = (t.isPending && !e.isTerminal) := by
  cases h : t.isPending with
  | false => rw [accumulate_of_not_pending h, h, Bool.false_and]
  | true => cases e <;> simp [accumulate, h, Event.isTerminal]

theorem cancel_id (t : Turn) (message : String) : (t.cancel message).id = t.id := by
  unfold cancel
  split <;> rfl

theorem cancel_question (t : Turn) (message : String) :
    (t.cancel message).question = t.question := by
  unfold cancel
  split <;> rfl

theorem cancel_isPending (t : Turn) (message : String) :
    (t.cancel message).isPending = false := by
  unfold cancel
  split
  · rfl
  · simpa using ‹¬t.isPending = true›

/-- What was answered stays, and events only add to it. -/
theorem accumulate_answer (t : Turn) (e : Event) :
    ∃ rest, (t.accumulate e).answer = t.answer ++ rest := by
  have hkept : ∃ rest, t.answer = t.answer ++ rest := ⟨"", String.append_empty.symm⟩
  unfold accumulate
  split
  · cases e with
    | chunk text => exact ⟨text, rfl⟩
    | sources | failure | done => exact hkept
  · exact hkept

theorem cancel_answer (t : Turn) (message : String) : (t.cancel message).answer = t.answer := by
  unfold cancel
  split <;> rfl

/-! ### Steps -/

theorem step_question (t : Turn) (step : Step) : (t.step step).question = t.question := by
  cases step with
  | event e => exact t.accumulate_question e
  | cancel message => exact t.cancel_question message

theorem step_answer (t : Turn) (step : Step) :
    ∃ rest, (t.step step).answer = t.answer ++ rest := by
  cases step with
  | event e => exact t.accumulate_answer e
  | cancel message => exact ⟨"", (t.cancel_answer message).trans String.append_empty.symm⟩

/-! ### Many events -/

/-- The turn when these events have been taken up. -/
def accumulateAll (t : Turn) (es : List Event) : Turn := es.foldl accumulate t

theorem accumulateAll_append (t : Turn) (es more : List Event) :
    t.accumulateAll (es ++ more) = (t.accumulateAll es).accumulateAll more := List.foldl_append

theorem accumulateAll_concat (t : Turn) (es : List Event) (e : Event) :
    t.accumulateAll (es ++ [e]) = (t.accumulateAll es).accumulate e :=
  accumulateAll_append t es [e]

theorem accumulateAll_id (t : Turn) (es : List Event) : (t.accumulateAll es).id = t.id := by
  induction es generalizing t with
  | nil => rfl
  | cons e es ih => exact (ih _).trans (accumulate_id t e)

theorem accumulateAll_question (t : Turn) (es : List Event) :
    (t.accumulateAll es).question = t.question := by
  induction es generalizing t with
  | nil => rfl
  | cons e es ih => exact (ih _).trans (accumulate_question t e)

theorem accumulateAll_isPending (t : Turn) (es : List Event) :
    (t.accumulateAll es).isPending = (t.isPending && !es.any Event.isTerminal) := by
  induction es generalizing t with
  | nil => simp [accumulateAll]
  | cons e es ih =>
    refine (ih _).trans ?_
    rw [accumulate_isPending, List.any_cons, Bool.not_or, Bool.and_assoc]

theorem accumulateAll_of_not_pending {t : Turn} (h : t.isPending = false) (es : List Event) :
    t.accumulateAll es = t := by
  induction es with
  | nil => rfl
  | cons e es ih =>
    rw [accumulateAll, List.foldl_cons, accumulate_of_not_pending h]
    exact ih

/-- Events behind the first terminal one leave no trace. -/
theorem accumulateAll_upToTerminal (t : Turn) (es : List Event) :
    t.accumulateAll (Event.upToTerminal es).1 = t.accumulateAll es := by
  induction es generalizing t with
  | nil => rfl
  | cons e es ih =>
    by_cases he : e.isTerminal = true
    · have hend : (t.accumulate e).isPending = false := by
        rw [accumulate_isPending, he, Bool.not_true, Bool.and_false]
      rw [Event.upToTerminal, if_pos he]
      exact (accumulateAll_of_not_pending hend es).symm
    · rw [Event.upToTerminal, if_neg he]
      exact ih (t.accumulate e)

end Dialogue.Turn
