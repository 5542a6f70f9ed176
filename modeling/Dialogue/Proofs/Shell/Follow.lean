/-
Following one turn.

What was printed of an answer is remembered by its number of bytes alone.  That is enough,
because answers only grow at their end: what was printed once is a beginning of the answer ever
after, and the bytes behind it are what is still to be printed.
-/
import Mathlib.Tactic.Common
import Dialogue.Shell.Follow

namespace Dialogue.Shell

/-- Behind the bytes of a beginning stands the rest. -/
theorem dropBytes?_append (told rest : List Char) :
    dropBytes? (String.ofList told).utf8ByteSize (told ++ rest) = some rest := by
  induction told with
  | nil =>
    have hnone : (String.ofList []).utf8ByteSize = 0 := by rw [String.ofList_nil]; rfl
    rw [hnone, List.nil_append, dropBytes?]
  | cons c told ih =>
    have hsize : (String.ofList (c :: told)).utf8ByteSize =
        c.utf8Size + (String.ofList told).utf8ByteSize := by
      have hsplit : String.ofList (c :: told) = String.singleton c ++ String.ofList told := by
        rw [← String.toList_inj]
        simp
      rw [hsplit, String.utf8ByteSize_append, String.utf8ByteSize_singleton]
    have hpos := c.utf8Size_pos
    obtain ⟨n, hn⟩ : ∃ n, c.utf8Size + (String.ofList told).utf8ByteSize = n + 1 :=
      ⟨c.utf8Size + (String.ofList told).utf8ByteSize - 1, by omega⟩
    rw [hsize, hn, List.cons_append, dropBytes?, if_neg (by omega)]
    have hrest : n + 1 - c.utf8Size = (String.ofList told).utf8ByteSize := by omega
    rw [hrest, ih]

/-- What is printed behind an answer: nothing while the turn waits, and then the end of the line and
the outcome. -/
def ending (t : Turn) : String := if t.isPending then "" else "\n" ++ outcomeText t

theorem ending_of_pending {t : Turn} (h : t.isPending = true) : ending t = "" := if_pos h

theorem ending_of_resolved {t : Turn} (h : t.isPending = false) :
    ending t = "\n" ++ outcomeText t := if_neg (by simp [h])

/-- One look at a conversation, if a beginning of the answer was printed before. -/
theorem advance_eq {f : Follow} {c : Conversation} {t : Turn} {told rest : String}
    (hturn : c.turn? f.turn = some t) (hanswer : t.answer = told ++ rest)
    (hprinted : f.printed = told.utf8ByteSize) :
    f.advance c =
      ⟨rest ++ ending t, { f with printed := t.answer.utf8ByteSize }, !t.isPending⟩ := by
  have hfresh : dropBytes? f.printed t.answer.toList = some rest.toList := by
    have hdrop := dropBytes?_append told.toList rest.toList
    rw [String.ofList_toList] at hdrop
    rw [hprinted, hanswer, String.toList_append]
    exact hdrop
  simp only [Follow.advance, hturn, hfresh, String.ofList_toList]
  cases hpending : t.isPending with
  | true =>
    rw [ending_of_pending hpending, String.append_empty]
    rfl
  | false =>
    rw [ending_of_resolved hpending, ← String.append_assoc]
    rfl

end Dialogue.Shell
