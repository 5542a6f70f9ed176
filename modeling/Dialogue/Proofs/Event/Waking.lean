/-
Who learns that it was asked to stop.

Until then every wait goes on.  From then on the flag is set, so a wait that begins is over at
once; one that had begun is over only if it was woken, and asking wakes one of them, the
oldest.  Nobody is missed, then, as long as no more than one waits when the asking comes.
Who waits behind another goes on waiting, until somebody who was woken is given up.

A poll, a drop and the asking itself are told once, by what they leave of the waits
(`waits_poll`, `waits_drop`, `waits_cancel`); the invariant is read off these.
-/
import Mathlib.Data.List.Nodup
import Dialogue.Proofs.Event.Stopping

namespace Dialogue.Event.Cancellation

/-- What is done with a cancellation, by whoever holds it. -/
inductive Act where
  | poll (w : Nat)
  | drop (w : Nat)
  | cancel
  deriving DecidableEq, Repr

/-- What one of these leaves of a cancellation. -/
def act (c : Cancellation) : Act → Cancellation
  | .poll w => (c.poll w).2
  | .drop w => c.drop w
  | .cancel => c.cancel.2

/-- What some of them leave of it, one after the other. -/
def run (c : Cancellation) (acts : List Act) : Cancellation := acts.foldl act c

variable {c : Cancellation} {w : Nat}

/-! ### The waits -/

/-- The waits that have begun and are not over: those that were woken, and those that go on. -/
def waits (c : Cancellation) : List Nat := c.woken ++ c.waiting

/-- The wait that is woken goes from the one list to the other. -/
theorem waits_wakeOne (c : Cancellation) : c.wakeOne.waits.Perm c.waits := by
  unfold wakeOne
  split
  · rfl
  · rename_i w rest hwaiting
    rw [waits, waits, hwaiting]
    exact List.perm_middle.symm

theorem waits_cancel (c : Cancellation) : c.cancel.2.waits.Perm c.waits := by
  unfold cancel
  split
  · rfl
  · exact waits_wakeOne _

/-- A poll ends a wait, or begins one behind all the others, or leaves them as they are. -/
theorem waits_poll (c : Cancellation) (w : Nat) :
    (c.poll w).2.waits.Sublist c.waits ∨ w ∉ c.waits ∧ (c.poll w).2.waits = c.waits ++ [w] := by
  unfold poll
  split
  · exact Or.inl (List.erase_sublist.append_right _)
  rename_i hwoken
  split
  · exact Or.inl (List.Sublist.refl _)
  rename_i hwaiting
  split
  · exact Or.inl (List.Sublist.refl _)
  split
  · exact Or.inl (List.Sublist.refl _)
  · refine Or.inr ⟨fun hmem => (List.mem_append.mp hmem).elim hwoken hwaiting, ?_⟩
    exact (List.append_assoc ..).symm

/-- A wait that is given up is one less. -/
theorem waits_drop (c : Cancellation) (w : Nat) : (c.drop w).waits.Perm (c.waits.erase w) := by
  show (c.drop w).waits.Perm ((c.woken ++ c.waiting).erase w)
  rw [List.erase_append]
  unfold drop
  split
  · exact waits_wakeOne _
  · rfl

/-- A wait is woken at most once and does not wait any more then, and nobody is woken before
somebody asks. -/
structure InOrder (c : Cancellation) : Prop where
  nodup : c.waits.Nodup
  unasked : c.requested = false → c.woken = [] ∧ c.kept = false

theorem inOrder_empty : InOrder {} := ⟨List.nodup_nil, fun _ => ⟨rfl, rfl⟩⟩

/-! ### What a poll tells -/

theorem InOrder.poll_of_unasked (h : c.InOrder) (hunasked : c.requested = false) (w : Nat) :
    (c.poll w).1 = false := by
  obtain ⟨hwoken, hkept⟩ := h.unasked hunasked
  obtain ⟨waiting, hpoll⟩ := poll_eq_of_unasked hunasked hkept hwoken w
  rw [hpoll]

theorem InOrder.poll_of_requested (h : c.InOrder) (hrequested : c.requested = true) :
    (c.poll w).1 = true ↔ w ∉ c.waiting := by
  unfold poll
  rw [if_pos hrequested]
  split
  · rename_i hwoken
    exact iff_of_true rfl fun hwaits => List.disjoint_of_nodup_append h.nodup hwoken hwaits
  split
  · rename_i hwaits
    exact iff_of_false Bool.false_ne_true (not_not_intro hwaits)
  · rename_i hwaits
    exact iff_of_true rfl hwaits

/-! ### The order is kept -/

theorem InOrder.cancel (h : c.InOrder) : c.cancel.2.InOrder := by
  refine ⟨c.waits_cancel.nodup_iff.mpr h.nodup, fun hunasked => ?_⟩
  exact absurd (hunasked.symm.trans c.requested_cancel) (by simp)

theorem InOrder.poll (h : c.InOrder) (w : Nat) : (c.poll w).2.InOrder := by
  refine ⟨?_, fun hunasked => ?_⟩
  · rcases c.waits_poll w with hsub | ⟨hnew, hwaits⟩
    · exact h.nodup.sublist hsub
    · rw [hwaits]
      exact h.nodup.append (List.nodup_singleton w) (List.disjoint_singleton.mpr hnew)
  · rw [requested_poll] at hunasked
    obtain ⟨hwoken, hkept⟩ := h.unasked hunasked
    obtain ⟨waiting, hpoll⟩ := poll_eq_of_unasked hunasked hkept hwoken w
    rw [hpoll]
    exact ⟨hwoken, hkept⟩

theorem InOrder.drop (h : c.InOrder) (w : Nat) : (c.drop w).InOrder := by
  refine ⟨(c.waits_drop w).nodup_iff.mpr (h.nodup.erase w), fun hunasked => ?_⟩
  rw [requested_drop] at hunasked
  obtain ⟨hwoken, hkept⟩ := h.unasked hunasked
  rw [Cancellation.drop, if_neg (by simp [hwoken])]
  exact ⟨hwoken, hkept⟩

theorem InOrder.act (h : c.InOrder) (a : Act) : (c.act a).InOrder := by
  cases a with
  | poll w => exact h.poll w
  | drop w => exact h.drop w
  | cancel => exact h.cancel

theorem InOrder.run (h : c.InOrder) (acts : List Act) : (c.run acts).InOrder := by
  induction acts generalizing c with
  | nil => exact h
  | cons a acts ih => exact ih (h.act a)

/-! ### Once asked -/

/-- What was asked stays asked. -/
theorem requested_act (hrequested : c.requested = true) (a : Act) :
    (c.act a).requested = true := by
  cases a with
  | poll w => exact (c.requested_poll w).trans hrequested
  | drop w => exact (c.requested_drop w).trans hrequested
  | cancel => exact c.requested_cancel

theorem waiting_poll (hrequested : c.requested = true) (w : Nat) :
    (c.poll w).2.waiting = c.waiting := by
  unfold poll
  rw [if_pos hrequested]
  repeat' split
  all_goals rfl

theorem waiting_drop_sublist (c : Cancellation) (w : Nat) :
    (c.drop w).waiting.Sublist c.waiting := by
  unfold drop
  split
  · rw [waiting_wakeOne]
    exact List.tail_sublist _
  · exact List.erase_sublist

/-- No wait begins any more, and only giving one up ends one. -/
theorem waiting_act (hrequested : c.requested = true) (a : Act) :
    (c.act a).waiting = c.waiting ∨ ∃ w, a = .drop w ∧ (c.act a).waiting.Sublist c.waiting := by
  cases a with
  | poll w => exact Or.inl (waiting_poll hrequested w)
  | drop w => exact Or.inr ⟨w, rfl, waiting_drop_sublist c w⟩
  | cancel =>
    refine Or.inl ?_
    show c.cancel.2.waiting = c.waiting
    rw [cancel, if_pos hrequested]

theorem waiting_run_sublist (hrequested : c.requested = true) (acts : List Act) :
    (c.run acts).waiting.Sublist c.waiting := by
  induction acts generalizing c with
  | nil => exact List.Sublist.refl _
  | cons a acts ih =>
    refine (ih (requested_act hrequested a)).trans ?_
    rcases waiting_act hrequested a with hsame | ⟨-, -, hsub⟩
    · exact hsame ▸ List.Sublist.refl _
    · exact hsub

theorem waiting_run (hrequested : c.requested = true) {acts : List Act}
    (hkeep : ∀ w, .drop w ∉ acts) : (c.run acts).waiting = c.waiting := by
  induction acts generalizing c with
  | nil => rfl
  | cons a acts ih =>
    refine (ih (requested_act hrequested a) fun w hw =>
      hkeep w (List.mem_cons_of_mem a hw)).trans ?_
    rcases waiting_act hrequested a with hsame | ⟨w, rfl, -⟩
    · exact hsame
    · exact absurd List.mem_cons_self (hkeep w)

theorem requested_run (hrequested : c.requested = true) (acts : List Act) :
    (c.run acts).requested = true := by
  induction acts generalizing c with
  | nil => exact hrequested
  | cons a acts ih => exact ih (requested_act hrequested a)

theorem waiting_cancel (hunasked : c.requested = false) :
    c.cancel.2.waiting = c.waiting.tail := by
  unfold cancel
  rw [hunasked]
  exact waiting_wakeOne _

/-- From the asking on every wait is over when it is polled, whether it began before or not,
but those that waited behind another. -/
theorem InOrder.poll_after_cancel (h : c.InOrder) (hunasked : c.requested = false)
    (acts : List Act) (hfront : w ∉ c.waiting.tail) :
    ((c.cancel.2.run acts).poll w).1 = true := by
  have hrequested := c.requested_cancel
  refine ((h.cancel.run acts).poll_of_requested (requested_run hrequested acts)).mpr
    fun hwaits => hfront ?_
  rw [← waiting_cancel hunasked]
  exact (waiting_run_sublist hrequested acts).subset hwaits

/-- Those behind another are not woken, however often they are polled and however often
somebody asks, as long as no wait is given up. -/
theorem InOrder.poll_behind (h : c.InOrder) (hunasked : c.requested = false)
    {acts : List Act} (hkeep : ∀ w, .drop w ∉ acts) (hbehind : w ∈ c.waiting.tail) :
    ((c.cancel.2.run acts).poll w).1 = false := by
  have hrequested := c.requested_cancel
  refine eq_false_of_ne_true fun hover => ?_
  refine ((h.cancel.run acts).poll_of_requested (requested_run hrequested acts)).mp hover ?_
  rw [waiting_run hrequested hkeep, waiting_cancel hunasked]
  exact hbehind

/-! ### From the start -/

/-- As long as nobody asks, the flag is not set. -/
theorem requested_run_of_unasked (hunasked : c.requested = false) {acts : List Act}
    (hnone : .cancel ∉ acts) : (c.run acts).requested = false := by
  induction acts generalizing c with
  | nil => exact hunasked
  | cons a acts ih =>
    refine ih ?_ fun hmem => hnone (List.mem_cons_of_mem a hmem)
    cases a with
    | poll w => exact (c.requested_poll w).trans hunasked
    | drop w => exact (c.requested_drop w).trans hunasked
    | cancel => exact absurd List.mem_cons_self hnone

/-- Whatever is done, every wait goes on until somebody asks for the first time; and every wait
is over from then on, if no more than one waited at that time. -/
theorem wakes_of_one_waiting {before : List Act} (hnone : .cancel ∉ before)
    (hone : (run {} before).waiting.length ≤ 1) (after : List Act) (w : Nat) :
    ((run {} before).poll w).1 = false ∧
      ((run {} (before ++ .cancel :: after)).poll w).1 = true := by
  have horder : (run {} before).InOrder := inOrder_empty.run before
  have hunasked : (run {} before).requested = false := requested_run_of_unasked rfl hnone
  have htail : (run {} before).waiting.tail = [] :=
    List.eq_nil_of_length_eq_zero (by rw [List.length_tail]; omega)
  refine ⟨horder.poll_of_unasked hunasked w, ?_⟩
  rw [run, List.foldl_append]
  refine horder.poll_after_cancel hunasked after ?_
  rw [htail]
  exact List.not_mem_nil

/-- The younger of two waits goes on, and is over when the older, woken but not polled, is
given up. -/
example :
    ((run {} [.poll 0, .poll 1, .cancel]).poll 1).1 = false ∧
      ((run {} [.poll 0, .poll 1, .cancel, .drop 0]).poll 1).1 = true := by
  decide

end Dialogue.Event.Cancellation
