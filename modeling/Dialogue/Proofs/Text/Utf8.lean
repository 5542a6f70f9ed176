/-
Reading UTF-8 in pieces comes to the same as reading it at once.

Everything rests on one fact about `front`: what it says about the first character of
some bytes does not change when more bytes follow, unless it says `unfinished`.  So
`split` can go through a text piece by piece: what it holds back of the first piece is
put before the second, and the rest is as if both had been there from the start.  A
beginning that is held back reads as one U+FFFD, which is no newline; this is what keeps
lines and characters apart.
-/
import Mathlib.Tactic.Common
import Dialogue.Text.Utf8

namespace Dialogue.Text.Utf8

/-! ### More bytes behind a character -/

/-- The same finding when more bytes stand behind. -/
def Front.before (more : List UInt8) : Front → Front
  | .char c rest => .char c (rest ++ more)
  | .broken rest => .broken (rest ++ more)
  | .empty => .empty
  | .unfinished => .unfinished

theorem frontLong_append {b : UInt8} {l : Lead} {bs : List UInt8}
    (h : frontLong b l bs ≠ .unfinished) (more : List UInt8) :
    frontLong b l (bs ++ more) = (frontLong b l bs).before more := by
  rcases bs with _ | ⟨b1, bs⟩
  · exact absurd rfl h
  by_cases h1 : l.low ≤ b1 ∧ b1 ≤ l.high
  · -- One case for each number of bytes that there are, down to the last that counts.
    rcases bs with _ | ⟨b2, _ | ⟨b3, r3⟩⟩
    all_goals
      simp only [frontLong, h1, List.cons_append, List.nil_append] at h ⊢
      split_ifs at h ⊢
      all_goals simp_all [Front.before]
  · simp only [frontLong, h1, if_false, List.cons_append]
    rfl

theorem frontLong_ne_empty {b : UInt8} {l : Lead} {bs : List UInt8} :
    frontLong b l bs ≠ .empty := by
  unfold frontLong
  repeat' split
  all_goals simp

theorem front_append {bs : List UInt8} (hne : bs ≠ []) (h : front bs ≠ .unfinished)
    (more : List UInt8) : front (bs ++ more) = (front bs).before more := by
  cases bs with
  | nil => exact absurd rfl hne
  | cons b bs =>
    simp only [front, List.cons_append] at h ⊢
    by_cases hb : b < 0x80
    · simp only [hb, if_true]
      rfl
    · simp only [hb, if_false] at h ⊢
      cases hl : lead? b with
      | none => rfl
      | some l =>
        simp only [hl] at h
        exact frontLong_append h more

theorem front_eq_empty_iff {bs : List UInt8} : front bs = .empty ↔ bs = [] := by
  constructor
  · intro h
    cases bs with
    | nil => rfl
    | cons b bs =>
      simp only [front] at h
      split at h
      · simp at h
      · split at h
        · simp at h
        · exact absurd h frontLong_ne_empty
  · rintro rfl
    rfl

/-! ### Pieces -/

theorem split_nil : split [] = ([], []) := by rw [split]; rfl

theorem split_of_char {bs rest : List UInt8} {c : Char} (h : front bs = .char c rest) :
    split bs = (c :: (split rest).1, (split rest).2) := by
  rw [split]
  split <;> simp_all

theorem split_of_broken {bs rest : List UInt8} (h : front bs = .broken rest) :
    split bs = (replacement :: (split rest).1, (split rest).2) := by
  rw [split]
  split <;> simp_all

theorem split_of_unfinished {bs : List UInt8} (h : front bs = .unfinished) :
    split bs = ([], bs) := by
  rw [split]
  split <;> simp_all

/-- What is held back of the first piece goes before the second. -/
theorem split_append (bs more : List UInt8) :
    split (bs ++ more) =
      ((split bs).1 ++ (split ((split bs).2 ++ more)).1, (split ((split bs).2 ++ more)).2) := by
  induction h : bs.length using Nat.strongRecOn generalizing bs with
  | _ n ih =>
    cases hf : front bs with
    | empty =>
      rw [front_eq_empty_iff] at hf
      subst hf
      simp [split_nil]
    | char c rest =>
      have hlen := front_char_length hf
      have hmore : front (bs ++ more) = .char c (rest ++ more) := by
        rw [front_append (by rintro rfl; simp [front] at hf) (by simp [hf]), hf]
        rfl
      rw [split_of_char hmore, split_of_char hf, ih rest.length (h ▸ hlen) rest rfl]
      rfl
    | broken rest =>
      have hlen := front_broken_length hf
      have hmore : front (bs ++ more) = .broken (rest ++ more) := by
        rw [front_append (by rintro rfl; simp [front] at hf) (by simp [hf]), hf]
        rfl
      rw [split_of_broken hmore, split_of_broken hf, ih rest.length (h ▸ hlen) rest rfl]
      rfl
    | unfinished => simp [split_of_unfinished hf]

/-- What is held back is the beginning of a character, or nothing. -/
theorem front_split (bs : List UInt8) :
    front (split bs).2 = .empty ∨ front (split bs).2 = .unfinished := by
  fun_induction split bs with
  | case1 bs hf => exact Or.inl rfl
  | case2 bs c rest hf r ih => exact ih
  | case3 bs rest hf r ih => exact ih
  | case4 bs hf => exact Or.inr hf

/-! ### The whole text -/

theorem lossyChars_of_empty {bs : List UInt8} (h : front bs = .empty) : lossyChars bs = [] := by
  rw [lossyChars]
  split <;> simp_all

theorem lossyChars_of_unfinished {bs : List UInt8} (h : front bs = .unfinished) :
    lossyChars bs = [replacement] := by
  rw [lossyChars]
  split <;> simp_all

theorem lossyChars_of_char {bs rest : List UInt8} {c : Char} (h : front bs = .char c rest) :
    lossyChars bs = c :: lossyChars rest := by
  rw [lossyChars]
  split <;> simp_all

theorem lossyChars_of_broken {bs rest : List UInt8} (h : front bs = .broken rest) :
    lossyChars bs = replacement :: lossyChars rest := by
  rw [lossyChars]
  split <;> simp_all

/-- The text told so far, and then what is held back, given up as unreadable. -/
theorem lossyChars_eq_split (bs : List UInt8) :
    lossyChars bs = (split bs).1 ++ lossyChars (split bs).2 := by
  fun_induction split bs with
  | case1 bs hf => simp [lossyChars_of_empty hf, @lossyChars_of_empty [] rfl]
  | case2 bs c rest hf r ih =>
    rw [lossyChars_of_char hf, ih]
    rfl
  | case3 bs rest hf r ih =>
    rw [lossyChars_of_broken hf, ih]
    rfl
  | case4 bs hf => rfl

/-- What is held back is no newline, whatever comes of it. -/
theorem newline_not_mem_lossyChars_split (bs : List UInt8) :
    '\n' ∉ lossyChars (split bs).2 := by
  rcases front_split bs with h | h
  · rw [lossyChars_of_empty h]
    exact List.not_mem_nil
  · rw [lossyChars_of_unfinished h]
    decide

/-! ### A decoder that has read some bytes -/

namespace Decoder

/-- The decoder to which these bytes were given. -/
def after (bs : List UInt8) : Decoder := ⟨(split bs).2⟩

theorem after_nil : after [] = {} := by rw [after, split_nil]

theorem push_after (bs more : List UInt8) :
    (after bs).push more = ((split ((split bs).2 ++ more)).1, after (bs ++ more)) := by
  rw [after, after, split_append bs more]
  rfl

/-- A push tells what the whole has more to tell than its beginning. -/
theorem split_push (bs more : List UInt8) :
    (split (bs ++ more)).1 = (split bs).1 ++ ((after bs).push more).1 := by
  rw [push_after, split_append bs more]

end Decoder

end Dialogue.Text.Utf8
