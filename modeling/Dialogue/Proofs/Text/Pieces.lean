/-
Reading text from pieces.

However bytes are cut into pieces, a decoder has at any time told the text of all that it was
given, less the beginning of one character that it holds back; and when it is finished it has told
the text of the whole.  Both follow from what `split` does to bytes that are followed by others
(`split_append`): the decoder is at any time where it would be if all bytes had come at once.

A piece can also be read in rounds, each of which takes all characters there are, and then one
U+FFFD for the bytes that come in the way.  A round that does not end the reading takes at least
one byte, so there are at most as many rounds as bytes, and one for the end.
-/
import Dialogue.Proofs.Text.Lossy

namespace Dialogue.Text.Utf8

/-! ### Reading in rounds -/

/-- The characters up to the place where none can be told, and the bytes from there on. -/
def takeChars (bs : List UInt8) : List Char × List UInt8 :=
  match _h : front bs with
  | .char c rest => let r := takeChars rest; (c :: r.1, r.2)
  | .empty | .broken _ | .unfinished => ([], bs)
termination_by bs.length
decreasing_by exact front_char_length _h

/-- Reads in at most so many rounds behind what is `told`; none if these are not enough. -/
def rounds : Nat → List Char → List UInt8 → Option (List Char × List UInt8)
  | 0, _, _ => none
  | n + 1, told, bs =>
    let r := takeChars bs
    match front r.2 with
    | .broken rest => rounds n (told ++ r.1 ++ [replacement]) rest
    | .empty | .unfinished | .char .. => some (told ++ r.1, r.2)

/-- A round takes no bytes back. -/
theorem length_takeChars_le (bs : List UInt8) : (takeChars bs).2.length ≤ bs.length := by
  fun_induction takeChars bs with
  | case1 bs c rest hf r ih =>
    show r.2.length ≤ bs.length
    exact Nat.le_trans ih (Nat.le_of_lt (front_char_length hf))
  | case2 | case3 | case4 => exact Nat.le_refl _

theorem front_takeChars_ne_char (bs : List UInt8) (c : Char) (rest : List UInt8) :
    front (takeChars bs).2 ≠ .char c rest := by
  fun_induction takeChars bs with
  | case1 bs c rest hf r ih => exact ih
  | case2 bs hf | case3 bs _ hf | case4 bs hf =>
    rw [hf]
    simp

/-- The characters that a round takes are told in any case. -/
theorem split_takeChars (bs : List UInt8) :
    split bs = ((takeChars bs).1 ++ (split (takeChars bs).2).1, (split (takeChars bs).2).2) := by
  fun_induction takeChars bs with
  | case1 bs c rest hf r ih =>
    rw [split_of_char hf, ih]
    rfl
  | case2 | case3 | case4 => rfl

/-- Enough rounds come to an end, and to the same as reading character by character. -/
theorem rounds_eq (n : Nat) (told : List Char) (bs : List UInt8) (h : bs.length < n) :
    rounds n told bs = some (told ++ (split bs).1, (split bs).2) := by
  induction n generalizing told bs with
  | zero => exact absurd h (Nat.not_lt_zero _)
  | succ n ih =>
    have hle := length_takeChars_le bs
    have hne := front_takeChars_ne_char bs
    rw [rounds, split_takeChars bs]
    generalize takeChars bs = r at hle hne ⊢
    cases hf : front r.2 with
    | char c rest => exact absurd hf (hne c rest)
    | broken rest =>
      have hlen := front_broken_length hf
      show rounds n (told ++ r.1 ++ [replacement]) rest = _
      rw [ih _ rest (by omega), split_of_broken hf]
      simp
    | empty =>
      have hend : r.2 = [] := front_eq_empty_iff.mp hf
      show some (told ++ r.1, r.2) = _
      rw [hend, split_nil, List.append_nil]
    | unfinished =>
      show some (told ++ r.1, r.2) = _
      rw [split_of_unfinished hf, List.append_nil]

/-! ### What was told and what is held back -/

/-- A piece that is cut out of the bytes is a piece when fewer bytes stand behind it. -/
theorem Broken.of_append {bad rest more : List UInt8} (h : Broken bad (rest ++ more)) :
    Broken bad rest := by
  refine ⟨?_, h.kind, ?_⟩
  · intro c behind hc
    refine h.no_char c (behind ++ more) ?_
    rw [← List.append_assoc, hc, List.append_assoc]
  · intro p behind hp hbehind
    refine h.longest p (behind ++ more) hp ?_
    rw [← List.append_assoc, hbehind, List.append_assoc]

/-- What is told is the text of all bytes but those held back, which are the last. -/
theorem exists_told (bs : List UInt8) :
    ∃ told, bs = told ++ (split bs).2 ∧ (split bs).1 = lossyChars told := by
  fun_induction split bs with
  | case1 bs hf => exact ⟨[], front_eq_empty_iff.mp hf, (@lossyChars_of_empty [] rfl).symm⟩
  | case2 bs c rest hf r ih =>
    obtain ⟨told, hrest, htold⟩ := ih
    refine ⟨String.utf8EncodeChar c ++ told, ?_, ?_⟩
    · rw [List.append_assoc, ← hrest]
      exact eq_encodeChar_of_front hf
    · rw [lossyChars_of_char (front_encodeChar c told), ← htold]
  | case3 bs rest hf r ih =>
    obtain ⟨told, hrest, htold⟩ := ih
    obtain ⟨bad, hbs, hbad⟩ := broken_of_front hf
    refine ⟨bad ++ told, ?_, ?_⟩
    · rw [List.append_assoc, ← hrest]
      exact hbs
    · rw [hrest] at hbad
      rw [lossyChars_of_piece hbad.of_append, ← htold]
  | case4 bs hf => exact ⟨[], rfl, (@lossyChars_of_empty [] rfl).symm⟩

/-! ### Pieces -/

namespace Decoder

/-- The texts that pieces give, one for each, and the decoder behind them. -/
def pushAll (d : Decoder) : List (List UInt8) → List (List Char) × Decoder
  | [] => ([], d)
  | piece :: pieces =>
    let r := d.push piece
    let rest := r.2.pushAll pieces
    (r.1 :: rest.1, rest.2)

/-- The decoder does not tell where the pieces were cut. -/
theorem pushAll_after (bs : List UInt8) (pieces : List (List UInt8)) :
    ((after bs).pushAll pieces).2 = after (bs ++ pieces.flatten) ∧
      (split bs).1 ++ ((after bs).pushAll pieces).1.flatten =
        (split (bs ++ pieces.flatten)).1 := by
  induction pieces generalizing bs with
  | nil => simp [pushAll]
  | cons piece pieces ih =>
    obtain ⟨hdecoder, htexts⟩ := ih (bs ++ piece)
    have hnext : ((after bs).push piece).2 = after (bs ++ piece) := by rw [push_after]
    rw [List.append_assoc] at hdecoder htexts
    rw [pushAll, List.flatten_cons, hnext]
    refine ⟨hdecoder, ?_⟩
    rw [List.flatten_cons, ← List.append_assoc, ← split_push]
    exact htexts

/-- **Text can be read from pieces.**  The text of bytes is the one that follows the rule of
replacement.  A new decoder is given pieces, as many and as long as may be.  Then it holds back
nothing, or the beginning of a character, which is the end of the bytes that it was given, and
it says which; the texts that it has told are the text of the bytes before that.  If it is
finished now, it has told the text of all bytes, and is as new.  And if another piece comes,
reading it ends after at most as many rounds as there are bytes to read, and one. -/
theorem pieces_read (pieces : List (List UInt8)) :
    (∀ bs cs, Lossy bs cs ↔ cs = lossyChars bs) ∧
      let r := ({} : Decoder).pushAll pieces
      let held := r.2.held
      (held = [] ∨ Begins held ∧ held.length ≤ 3) ∧
        (r.2.hasPending = true ↔ held ≠ []) ∧
        (∃ told, pieces.flatten = told ++ held ∧ r.1.flatten = lossyChars told) ∧
        r.1.flatten ++ r.2.finish.1 = lossyChars pieces.flatten ∧
        r.2.finish.2 = {} ∧
        ∀ piece, rounds ((held ++ piece).length + 1) [] (held ++ piece) =
          some ((r.2.push piece).1, (r.2.push piece).2.held) := by
  refine ⟨fun bs cs => lossy_iff, ?_⟩
  intro r held
  obtain ⟨hdecoder, htexts⟩ := pushAll_after [] pieces
  rw [after_nil, List.nil_append] at hdecoder
  rw [after_nil, split_nil, List.nil_append, List.nil_append] at htexts
  have hheld : held = (split pieces.flatten).2 := congrArg Decoder.held hdecoder
  obtain ⟨told, hbytes, htold⟩ := exists_told pieces.flatten
  refine ⟨?_, ?_, ⟨told, ?_, ?_⟩, ?_, rfl, ?_⟩
  · rw [hheld]
    rcases front_split pieces.flatten with hfront | hfront
    · exact Or.inl (front_eq_empty_iff.mp hfront)
    · have hbegins := begins_of_front hfront
      exact Or.inr ⟨hbegins, hbegins.length_le⟩
  · show (!held.isEmpty) = true ↔ held ≠ []
    simp
  · rw [hheld]
    exact hbytes
  · exact htexts.trans htold
  · show ((({} : Decoder).pushAll pieces).1).flatten ++ lossyChars held = lossyChars pieces.flatten
    rw [htexts, hheld, ← lossyChars_eq_split]
  · intro piece
    rw [rounds_eq _ _ _ (Nat.lt_succ_self _), List.nil_append]
    rfl

end Decoder

end Dialogue.Text.Utf8
