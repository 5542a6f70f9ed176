/-
Lines from pieces of text.

A text is a row of lines, each with the newline that ends it, and then what has no newline in it;
one carriage return before a newline belongs to the line's end.  There is one way only to take a
text apart like that (`parts_iff`), and a buffer finds it: the lines that it has given are those
of all text that came, and what it keeps is what stands behind the last newline.

`cut` finds all lines of a text at once.  They can also be taken off its front one by one, for as
long as there is a newline.  Each round takes one newline away and brings none back, so there are as
many rounds as newlines (`rounds_eq`).
-/
import Dialogue.Proofs.Text.Lines
import Dialogue.Proofs.Text.Split

namespace Dialogue.Text.Lines

/-! ### Lines as they stand in a text -/

/-- A line and how it stands in a text, with its end.  Without a carriage return in its end it has
none as its last character either. -/
inductive Ended : List Char → List Char → Prop
  | newline {l : List Char} (hline : '\n' ∉ l) (hreturn : l.getLast? ≠ some '\r') :
      Ended l (l ++ ['\n'])
  | returned {l : List Char} (hline : '\n' ∉ l) : Ended l (l ++ ['\r', '\n'])

/-- A text, its lines, and what stands behind the last newline. -/
inductive Parts : List Char → List (List Char) → List Char → Prop
  | rest {text : List Char} (hnone : '\n' ∉ text) : Parts text [] text
  | line {l whole text rest : List Char} {ls : List (List Char)} (hline : Ended l whole)
      (hmore : Parts text ls rest) : Parts (whole ++ text) (l :: ls) rest

/-- What ends at a newline stands there as a line, less a carriage return. -/
theorem ended_dropReturn {front : List Char} (h : '\n' ∉ front) :
    Ended (dropReturn front) (front ++ ['\n']) := by
  unfold dropReturn
  by_cases hreturn : front.getLast? = some '\r'
  · rw [if_pos hreturn]
    obtain ⟨l, rfl⟩ := List.getLast?_eq_some_iff.mp hreturn
    rw [List.dropLast_concat, List.append_assoc]
    exact .returned fun hl => h (List.mem_append_left _ hl)
  · rw [if_neg hreturn]
    exact .newline h hreturn

theorem Ended.exists_front {l whole : List Char} (h : Ended l whole) :
    ∃ front, '\n' ∉ front ∧ whole = front ++ ['\n'] ∧ dropReturn front = l := by
  cases h with
  | newline hline hreturn => exact ⟨l, hline, rfl, if_neg hreturn⟩
  | returned hline =>
    refine ⟨l ++ ['\r'], by simp [hline], by rw [List.append_assoc]; rfl, ?_⟩
    rw [dropReturn, List.getLast?_concat, if_pos rfl, List.dropLast_concat]

theorem parts_cut (text : List Char) : Parts text ((cut text).1.map dropReturn) (cut text).2 := by
  induction text using lines_induction with
  | rest text hnone =>
    rw [cut_of_not_mem hnone]
    exact .rest hnone
  | line front text hfront ih =>
    rw [cut_line hfront, ← List.singleton_append, ← List.append_assoc]
    exact .line (ended_dropReturn hfront) ih

/-- There is no other way to take a text apart. -/
theorem Parts.eq_cut {text rest : List Char} {ls : List (List Char)} (h : Parts text ls rest) :
    ls = (cut text).1.map dropReturn ∧ rest = (cut text).2 := by
  induction h with
  | rest hnone =>
    rw [cut_of_not_mem hnone]
    exact ⟨rfl, rfl⟩
  | line hline hmore ih =>
    obtain ⟨front, hfront, rfl, rfl⟩ := hline.exists_front
    rw [List.append_assoc, List.singleton_append, cut_line hfront, List.map_cons, ← ih.1]
    exact ⟨rfl, ih.2⟩

theorem parts_iff {text rest : List Char} {ls : List (List Char)} :
    Parts text ls rest ↔ ls = (cut text).1.map dropReturn ∧ rest = (cut text).2 := by
  constructor
  · exact Parts.eq_cut
  · rintro ⟨rfl, rfl⟩
    exact parts_cut text

/-! ### One line after another -/

/-- Takes the first line off a text, and puts it behind the lines that were taken, for as long as
there is a newline; nothing if that needs more rounds. -/
def rounds (n : Nat) (taken : List (List Char)) (text : List Char) :
    Option (List (List Char) × List Char) :=
  match cutMark '\n' text with
  | (rest, none) => some (taken, rest)
  | (front, some behind) =>
    match n with
    | 0 => none
    | n + 1 => rounds n (taken ++ [dropReturn front]) behind

/-- There are as many rounds as newlines, and they take the lines that `cut` finds. -/
theorem rounds_eq (n : Nat) (taken : List (List Char)) (text : List Char) :
    rounds n taken text =
      if text.count '\n' ≤ n then some (taken ++ (cut text).1.map dropReturn, (cut text).2)
      else none := by
  induction text using lines_induction generalizing n taken with
  | rest text hnone =>
    rw [rounds.eq_def, cutMark_of_not_mem hnone, cut_of_not_mem hnone,
      List.count_eq_zero.mpr hnone, if_pos (Nat.zero_le n), List.map_nil, List.append_nil]
  | line front text hfront ih =>
    have hcount : (front ++ '\n' :: text).count '\n' = text.count '\n' + 1 := by
      rw [List.count_append, List.count_eq_zero.mpr hfront, List.count_cons_self, Nat.zero_add]
    rw [rounds.eq_def, cutMark_append hfront, cut_line hfront, hcount]
    cases n with
    | zero => rw [if_neg (by omega)]
    | succ n =>
      simp only [ih, Nat.add_le_add_iff_right, List.map_cons, List.append_assoc,
        List.singleton_append]

/-! ### Pieces -/

namespace Buffer

/-- The lines that some pieces complete, and the buffer behind them. -/
def pushAll (b : Buffer) : List (List Char) → List (List Char) × Buffer
  | [] => ([], b)
  | piece :: pieces =>
    let r := b.push piece
    let more := r.2.pushAll pieces
    (r.1 ++ more.1, more.2)

/-- The buffer does not tell where the pieces were cut. -/
theorem pushAll_after (text : List Char) (pieces : List (List Char)) :
    (after text).pushAll pieces = (after text).push pieces.flatten := by
  induction pieces generalizing text with
  | nil =>
    rw [List.flatten_nil, push_after, List.append_nil, List.append_nil,
      cut_of_not_mem (newline_not_mem_cut text)]
    rfl
  | cons piece pieces ih =>
    rw [pushAll, push_after, List.flatten_cons, push_after]
    simp only [ih, push_after, List.append_assoc]
    rw [← List.append_assoc (cut text).2, cut_append ((cut text).2 ++ piece), List.map_append,
      cut_append text piece]

/-- What is kept is a last line, unless it is blank. -/
theorem finish_eq_some_iff {b : Buffer} {l : List Char} :
    b.finish.1 = some l ↔ l = b.part ∧ ∃ c ∈ l, isBlank c = false := by
  show (if b.part.all isBlank then none else some b.part) = some l ↔ _
  by_cases hblank : b.part.all isBlank = true
  · rw [if_pos hblank]
    constructor
    · intro hnone
      cases hnone
    · rintro ⟨rfl, c, hc, hsome⟩
      rw [List.all_eq_true.mp hblank c hc] at hsome
      cases hsome
  · rw [if_neg hblank, Option.some.injEq]
    constructor
    · rintro rfl
      exact ⟨rfl, by simpa using hblank⟩
    · rintro ⟨rfl, -⟩
      rfl

/-- **No text is lost in a line buffer.**  A new buffer is given pieces of text, as many and as
long as may be, and gives lines.  All lines that it has given, and what it keeps, are the lines of
the whole text and what stands behind its last newline, in the only way there is to take the text
apart.  They are the same as if the text had come in one piece.  If the buffer is finished now, it
gives what it has kept, if that is more than white space, and is as new.  And if another piece
comes, its lines can be taken off the front one after another, in as many rounds as the piece has
newlines and no fewer. -/
theorem pieces_cut (pieces : List (List Char)) :
    let text := pieces.flatten
    let r := ({} : Buffer).pushAll pieces
    (∀ ls rest, Parts text ls rest ↔ ls = r.1 ∧ rest = r.2.part) ∧
      '\n' ∉ r.2.part ∧
      r = ({} : Buffer).push text ∧
      (∀ l, r.2.finish.1 = some l ↔ l = r.2.part ∧ ∃ c ∈ l, isBlank c = false) ∧
      r.2.finish.2 = {} ∧
      ∀ piece n, rounds n [] (r.2.part ++ piece) =
        if piece.count '\n' ≤ n then some ((r.2.push piece).1, (r.2.push piece).2.part)
        else none := by
  intro text r
  have hone : r = ({} : Buffer).push text := pushAll_after [] pieces
  have hnone : '\n' ∉ r.2.part := by
    rw [hone]
    exact newline_not_mem_cut text
  refine ⟨?_, hnone, hone, fun l => finish_eq_some_iff, rfl, ?_⟩
  · intro ls rest
    rw [hone]
    exact parts_iff
  · intro piece n
    rw [rounds_eq, List.count_append, List.count_eq_zero.mpr hnone, Nat.zero_add]
    rfl

end Buffer

end Dialogue.Text.Lines
