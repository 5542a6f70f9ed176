/-
Ids of the turns that are made from a chat's records.
-/
import Dialogue.History.Reconcile

namespace Dialogue

/-- The turns take the ids that are next, and none of them is pending. -/
theorem reconcile_spec (m : Mint) (records : List HistoryRecord) :
    m.next ≤ (reconcile m records).2.next ∧
      ∀ t ∈ (reconcile m records).1, t.isPending = false ∧ m.next ≤ t.id.serial ∧
        t.id.serial < (reconcile m records).2.next := by
  induction records generalizing m with
  | nil => exact ⟨Nat.le_refl _, by simp [reconcile]⟩
  | cons r rest ih =>
    obtain ⟨hle, hrest⟩ := ih m.take.2
    have hnext : m.take.2.next = m.next + 1 := rfl
    have hmint : (reconcile m (r :: rest)).2 = (reconcile m.take.2 rest).2 := rfl
    have hturns : (reconcile m (r :: rest)).1 =
        Turn.resolved m.take.1 r.question r.answer r.sources :: (reconcile m.take.2 rest).1 := rfl
    rw [hmint, hturns]
    refine ⟨by omega, ?_⟩
    intro t ht
    rcases List.mem_cons.mp ht with rfl | ht
    · refine ⟨rfl, Nat.le_refl _, ?_⟩
      show m.next < _
      omega
    · obtain ⟨hp, hge, hlt⟩ := hrest t ht
      exact ⟨hp, by omega, hlt⟩

end Dialogue
