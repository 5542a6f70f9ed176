/-
Cutting text into lines, piece by piece.

A text has no newline, or it is a line, its newline and another text, and what `cut` does is told
in these two cases (`cut_of_not_mem`, `cut_line`); so they are the induction for what is said here.
`cut` goes through a text as `split` goes through bytes: what is left behind the last newline of the
first piece is put before the second.  Against the library's `splitOn` it gives the same fragments,
with the last one set apart.  The carriage return that is dropped from a line makes no difference to
anyone who trims it.
-/
import Mathlib.Tactic.Common
import Dialogue.Text.Lines

namespace Dialogue.Text

/-! ### White space at the end -/

theorem trimEndChars_append_blank (cs : List Char) {b : Char} (hb : isBlank b = true) :
    trimEndChars (cs ++ [b]) = trimEndChars cs := by
  simp [trimEndChars, hb]

/-- White space at the end of a text is trimmed, wherever the text begins. -/
theorem trimChars_append_blank (cs : List Char) {b : Char} (hb : isBlank b = true) :
    trimChars (cs ++ [b]) = trimChars cs := by
  induction cs with
  | nil => simp [trimChars, trimStartChars, hb]
  | cons c cs ih =>
    by_cases hc : isBlank c = true
    · simpa [trimChars, trimStartChars, hc] using ih
    · simpa [trimChars, trimStartChars, hc] using trimEndChars_append_blank (c :: cs) hb

namespace Lines

theorem trimChars_dropReturn (l : List Char) : trimChars (dropReturn l) = trimChars l := by
  unfold dropReturn
  split
  · rename_i h
    obtain ⟨start, rfl⟩ := List.getLast?_eq_some_iff.mp h
    rw [List.dropLast_concat, trimChars_append_blank _ (by decide)]
  · rfl

/-! ### Line by line -/

/-- A text without a newline, or a line in front of a text: all texts are made so. -/
theorem lines_induction {motive : List Char → Prop}
    (rest : ∀ text, '\n' ∉ text → motive text)
    (line : ∀ front text, '\n' ∉ front → motive text → motive (front ++ '\n' :: text)) :
    ∀ text, motive text := by
  intro text
  induction hn : text.count '\n' generalizing text with
  | zero => exact rest text (List.count_eq_zero.mp hn)
  | succ n ih =>
    have hmem : '\n' ∈ text := List.count_pos_iff.mp (by omega)
    obtain ⟨front, behind, rfl, hfront⟩ := List.eq_append_cons_of_mem hmem
    refine line front behind hfront (ih behind ?_)
    rw [List.count_append, List.count_eq_zero.mpr hfront, List.count_cons_self] at hn
    omega

/-- Without a newline there is no line. -/
theorem cut_of_not_mem {cs : List Char} (h : '\n' ∉ cs) : cut cs = ([], cs) := by
  induction cs with
  | nil => rfl
  | cons c cs ih =>
    rw [List.mem_cons, not_or] at h
    simp [cut, ih h.2, Ne.symm h.1]

/-- A line in front of a text is its first. -/
theorem cut_line {front : List Char} (h : '\n' ∉ front) (text : List Char) :
    cut (front ++ '\n' :: text) = (front :: (cut text).1, (cut text).2) := by
  induction front with
  | nil => simp [cut]
  | cons c front ih =>
    rw [List.mem_cons, not_or] at h
    simp [cut, Ne.symm h.1, ih h.2]

theorem newline_not_mem_cut (cs : List Char) : '\n' ∉ (cut cs).2 := by
  induction cs using lines_induction with
  | rest cs hnone =>
    rw [cut_of_not_mem hnone]
    exact hnone
  | line front cs hfront ih =>
    rw [cut_line hfront]
    exact ih

/-! ### Pieces -/

/-- What the first piece leaves unfinished goes before the second. -/
theorem cut_append (cs more : List Char) :
    cut (cs ++ more) =
      ((cut cs).1 ++ (cut ((cut cs).2 ++ more)).1, (cut ((cut cs).2 ++ more)).2) := by
  induction cs using lines_induction with
  | rest cs hnone => rw [cut_of_not_mem hnone, List.nil_append]
  | line front cs hfront ih =>
    rw [List.append_assoc, List.cons_append, cut_line hfront, cut_line hfront, ih, List.cons_append]

/-- Text without a newline only makes the unfinished line longer. -/
theorem cut_append_of_not_mem (cs : List Char) {more : List Char} (h : '\n' ∉ more) :
    cut (cs ++ more) = ((cut cs).1, (cut cs).2 ++ more) := by
  have hrest : '\n' ∉ (cut cs).2 ++ more := by
    rw [List.mem_append, not_or]
    exact ⟨newline_not_mem_cut cs, h⟩
  rw [cut_append, cut_of_not_mem hrest, List.append_nil]

/-- The lines and what follows them are the fragments between newlines. -/
theorem splitOn_eq_cut (cs : List Char) : cs.splitOn '\n' = (cut cs).1 ++ [(cut cs).2] := by
  induction cs with
  | nil => rfl
  | cons c cs ih =>
    rw [List.splitOn_cons_eq_if_modifyHead, ih]
    by_cases hc : c = '\n'
    · simp [cut, hc]
    · cases hl : (cut cs).1 with
      | nil => simp [cut, hc, hl]
      | cons l ls => simp [cut, hc, hl]

/-! ### A buffer that has taken some text -/

namespace Buffer

/-- The buffer to which this text was given. -/
def after (cs : List Char) : Buffer := ⟨(cut cs).2⟩

theorem after_nil : after [] = {} := rfl

theorem push_after (cs more : List Char) :
    (after cs).push more =
      ((cut ((cut cs).2 ++ more)).1.map dropReturn, after (cs ++ more)) := by
  rw [after, after, cut_append cs more]
  rfl

end Buffer

end Lines

end Dialogue.Text
