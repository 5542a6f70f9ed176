/-
Events up to the first terminal one.

Cutting a list of events at its first terminal event can be done piece by piece: once a
piece holds a terminal event the pieces behind it do not matter, and until then nothing
is cut.
-/
import Mathlib.Tactic.Common
import Dialogue.Event

namespace Dialogue.Event

/-- Does a terminal event occur? -/
theorem upToTerminal_snd (es : List Event) : (upToTerminal es).2 = es.any isTerminal := by
  induction es with
  | nil => rfl
  | cons e es ih => by_cases he : e.isTerminal = true <;> simp [upToTerminal, he, ih]

/-- Cutting keeps the first terminal event. -/
theorem any_upToTerminal (es : List Event) :
    (upToTerminal es).1.any isTerminal = es.any isTerminal := by
  induction es with
  | nil => rfl
  | cons e es ih => by_cases he : e.isTerminal = true <;> simp [upToTerminal, he, ih]

/-- Nothing is cut where no terminal event occurs. -/
theorem upToTerminal_of_not_any {es : List Event} (h : es.any isTerminal = false) :
    upToTerminal es = (es, false) := by
  induction es with
  | nil => rfl
  | cons e es ih =>
    rw [List.any_cons, Bool.or_eq_false_iff] at h
    simp [upToTerminal, h.1, ih h.2]

theorem upToTerminal_append_of_any {es : List Event} (h : es.any isTerminal = true)
    (more : List Event) : upToTerminal (es ++ more) = upToTerminal es := by
  induction es with
  | nil => simp at h
  | cons e es ih =>
    by_cases he : e.isTerminal = true
    · simp [upToTerminal, he]
    · rw [List.any_cons, Bool.or_eq_true, or_iff_right he] at h
      simp [upToTerminal, he, ih h]

theorem upToTerminal_append_of_not_any {es : List Event} (h : es.any isTerminal = false)
    (more : List Event) :
    upToTerminal (es ++ more) = (es ++ (upToTerminal more).1, (upToTerminal more).2) := by
  induction es with
  | nil => rfl
  | cons e es ih =>
    rw [List.any_cons, Bool.or_eq_false_iff] at h
    simp [upToTerminal, h.1, ih h.2]

/-- A terminal event is the last that is kept. -/
theorem upToTerminal_append_terminal {es : List Event} (h : es.any isTerminal = false)
    {e : Event} (he : e.isTerminal = true) : upToTerminal (es ++ [e]) = (es ++ [e], true) := by
  rw [upToTerminal_append_of_not_any h, upToTerminal, if_pos he]

/-- The events of an answer that is over: the end is added if nothing has ended it. -/
def concluded (r : List Event × Bool) : List Event := if r.2 then r.1 else r.1 ++ [.done]

theorem any_concluded (es : List Event) :
    (concluded (upToTerminal es)).any isTerminal = true := by
  unfold concluded
  split
  · rename_i hend
    rwa [upToTerminal_snd, ← any_upToTerminal] at hend
  · simp [isTerminal]

end Dialogue.Event
