/-
Text cut at marks.

What is before a mark and what is behind it are split each on its own, so a text without the mark
is one part, and a cut at the first mark finds what was put before it.
-/
import Mathlib.Data.List.TakeDrop
import Mathlib.Data.List.TakeWhile
import Mathlib.Tactic.Common
import Dialogue.Text.Split

namespace Dialogue.Text

/-! ### At every mark -/

theorem splitOn_ne_nil (mark : Char) (cs : List Char) : splitOn mark cs ≠ [] := by
  cases cs with
  | nil => simp [splitOn]
  | cons c cs =>
    rw [splitOn, List.foldr_cons]
    split
    · simp
    · split <;> simp

theorem splitOn_cons_mark (mark : Char) (cs : List Char) :
    splitOn mark (mark :: cs) = [] :: splitOn mark cs := by
  simp [splitOn]

theorem splitOn_cons_of_ne {mark c : Char} (hc : c ≠ mark) {cs p : List Char}
    {ps : List (List Char)} (h : splitOn mark cs = p :: ps) :
    splitOn mark (c :: cs) = (c :: p) :: ps := by
  unfold splitOn at h ⊢
  rw [List.foldr_cons, if_neg hc, h]

/-- The parts before and behind a mark are split on their own. -/
theorem splitOn_append (mark : Char) (xs ys : List Char) :
    splitOn mark (xs ++ mark :: ys) = splitOn mark xs ++ splitOn mark ys := by
  induction xs with
  | nil => exact splitOn_cons_mark mark ys
  | cons c xs ih =>
    by_cases hc : c = mark
    · subst hc
      rw [List.cons_append, splitOn_cons_mark, splitOn_cons_mark, ih, List.cons_append]
    · obtain ⟨p, ps, hsplit⟩ := List.exists_cons_of_ne_nil (splitOn_ne_nil mark xs)
      rw [hsplit, List.cons_append] at ih
      rw [List.cons_append, splitOn_cons_of_ne hc ih, splitOn_cons_of_ne hc hsplit,
        List.cons_append]

theorem splitOn_of_not_mem {mark : Char} {cs : List Char} (h : mark ∉ cs) :
    splitOn mark cs = [cs] := by
  induction cs with
  | nil => rfl
  | cons c cs ih =>
    have hc : c ≠ mark := fun hc => h (hc ▸ List.mem_cons_self)
    exact splitOn_cons_of_ne hc (ih fun hmem => h (List.mem_cons_of_mem c hmem))

/-! ### At the first mark -/

variable {mark : Char}

theorem cutMark_of_not_mem {cs : List Char} (h : mark ∉ cs) : cutMark mark cs = (cs, none) := by
  have hall : ∀ c ∈ cs, (!decide (c = mark)) = true := by
    intro c hc
    have hne : c ≠ mark := fun hmark => h (hmark ▸ hc)
    simpa using hne
  have htake := List.takeWhile_eq_self_iff.mpr hall
  have hdrop := List.dropWhile_eq_nil_iff.mpr hall
  simp only [cutMark, cutAt, List.span_eq_takeWhile_dropWhile, htake, hdrop, Option.map_none]

theorem cutMark_append {front : List Char} (h : mark ∉ front) (rest : List Char) :
    cutMark mark (front ++ mark :: rest) = (front, some rest) := by
  have hall : ∀ c ∈ front, (!decide (c = mark)) = true := by
    intro c hc
    have hne : c ≠ mark := fun hmark => h (hmark ▸ hc)
    simpa using hne
  have htake : (front ++ mark :: rest).takeWhile (fun c => !decide (c = mark)) = front := by
    rw [List.takeWhile_append_of_pos hall]
    simp
  have hdrop : (front ++ mark :: rest).dropWhile (fun c => !decide (c = mark)) = mark :: rest := by
    rw [List.dropWhile_append_of_pos hall]
    simp
  simp only [cutMark, cutAt, List.span_eq_takeWhile_dropWhile, htake, hdrop, Option.map_some]

end Dialogue.Text
