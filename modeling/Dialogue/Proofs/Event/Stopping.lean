/-
A worker that was asked to stop ends at its next poll.

The first poll of the worker looks at the flag; from then on the worker waits to be woken,
and does not look again.  So it is not enough that the flag is set.  What helps is that
nobody else waits for it: asking wakes who has waited longest, and that is the worker if it
waits at all (`Heeded`).  If it does not wait yet, it will see the flag.

A feed that was just opened is in that order, and whatever is done to it keeps it so.
-/
import Mathlib.Tactic.Common
import Dialogue.Event.Stream

namespace Dialogue.Event

namespace Cancellation

variable {c : Cancellation}

/-- Nobody waits, or only the worker does and it was not asked to stop. -/
def Heeded (c : Cancellation) : Prop :=
  c.waiting = [] ∨ c.waiting = [Feed.workerWait] ∧ c.requested = false

@[simp] theorem requested_wakeOne (c : Cancellation) : c.wakeOne.requested = c.requested := by
  unfold wakeOne
  split <;> rfl

@[simp] theorem waiting_wakeOne (c : Cancellation) : c.wakeOne.waiting = c.waiting.tail := by
  unfold wakeOne
  split
  · rename_i hnone
    simp [hnone]
  · rename_i hsome
    simp [hsome]

/-- The flag stays as it is, whoever is polled. -/
theorem requested_poll (c : Cancellation) (w : Nat) : (c.poll w).2.requested = c.requested := by
  unfold poll
  repeat' split
  all_goals rfl

theorem requested_drop (c : Cancellation) (w : Nat) : (c.drop w).requested = c.requested := by
  unfold drop
  split
  · exact requested_wakeOne _
  · rfl

theorem requested_cancel (c : Cancellation) : c.cancel.2.requested = true := by
  unfold cancel
  split
  · assumption
  · exact requested_wakeOne _

/-- While nobody asks to stop a wait goes on, whether it is new or not. -/
theorem poll_eq_of_unasked (hrequested : c.requested = false) (hkept : c.kept = false)
    (hwoken : c.woken = []) (w : Nat) :
    ∃ waiting, c.poll w = (false, { c with waiting }) := by
  unfold poll
  rw [hwoken, if_neg List.not_mem_nil]
  by_cases hw : w ∈ c.waiting
  · exact ⟨c.waiting, by rw [if_pos hw, ← hwoken]⟩
  · refine ⟨c.waiting ++ [w], ?_⟩
    rw [if_neg hw, hrequested, hkept, ← hwoken]
    rfl

/-- Once one has been woken or has gone, nobody waits. -/
theorem Heeded.tail (h : c.Heeded) : c.waiting.tail = [] := by
  rcases h with hnone | ⟨hone, -⟩
  · rw [hnone, List.tail_nil]
  · rw [hone, List.tail_cons]

theorem Heeded.cancel (h : c.Heeded) : c.cancel.2.Heeded := by
  unfold Cancellation.cancel
  split
  · exact h
  · exact Or.inl ((waiting_wakeOne _).trans h.tail)

theorem Heeded.poll (h : c.Heeded) : (c.poll Feed.workerWait).2.Heeded := by
  unfold Cancellation.poll
  split
  · exact h
  split
  · exact h
  rename_i hwaits
  split
  · exact h
  rename_i hrequested
  split
  · exact h
  -- The worker begins to wait, and it is the only one.
  rcases h with hnone | ⟨hone, -⟩
  · exact Or.inr ⟨by simp [hnone], eq_false_of_ne_true hrequested⟩
  · exact absurd (by simp [hone]) hwaits

theorem Heeded.drop (h : c.Heeded) : (c.drop Feed.workerWait).Heeded := by
  unfold Cancellation.drop
  split
  · exact Or.inl ((waiting_wakeOne _).trans h.tail)
  · rcases h with hnone | ⟨hone, -⟩
    · exact Or.inl (by simp [hnone])
    · exact Or.inl (by simp [hone])

/-- Who was asked to stop finds its wait over. -/
theorem Heeded.poll_of_requested (h : c.Heeded) (hrequested : c.requested = true) :
    (c.poll Feed.workerWait).1 = true := by
  have hnone : c.waiting = [] := by
    rcases h with hnone | ⟨-, hunasked⟩
    · exact hnone
    · exact absurd (hrequested.symm.trans hunasked) (by simp)
  unfold Cancellation.poll
  rw [hnone, if_neg List.not_mem_nil, if_pos hrequested]
  split <;> rfl

end Cancellation

/-! ### The stream -/

namespace Stream

theorem isCancelled_cancel (s : Stream) : s.cancel.2.isCancelled = true :=
  s.cancellation.requested_cancel

/-- Receiving changes nothing but the queue. -/
theorem receive_eq (s : Stream) : ∃ queue, s.receive.2 = { s with queue } := by
  unfold receive
  split
  · exact ⟨_, rfl⟩
  · exact ⟨s.queue, rfl⟩

/-- Nor does sending. -/
theorem send_eq (s : Stream) (e : Event) : ∃ queue, (s.send e).2 = { s with queue } := by
  unfold send
  split
  · exact ⟨_, rfl⟩
  · exact ⟨s.queue, rfl⟩

/-- A stream that nobody fills any more is read to its end. -/
theorem receive_of_not_open {s : Stream} (h : s.isOpen = false) :
    s.queue = [] ∧ s.receive = (.closed, s) ∨
      ∃ e rest, s.queue = e :: rest ∧ s.receive = (.event e, { s with queue := rest }) := by
  unfold receive
  split
  · rename_i e rest hqueue
    exact Or.inr ⟨e, rest, hqueue, rfl⟩
  · rename_i hqueue
    exact Or.inl ⟨hqueue, by rw [h]; rfl⟩

end Stream

/-! ### The worker -/

namespace Feed

variable {f : Feed}

theorem sendAll_eq_queue (s : Stream) (batch : List Event) :
    ∃ queue, sendAll s batch = { s with queue } := by
  induction batch generalizing s with
  | nil => exact ⟨s.queue, rfl⟩
  | cons e batch ih =>
    obtain ⟨sent, hsent⟩ := s.send_eq e
    obtain ⟨queue, hqueue⟩ := ih (s.send e).2
    refine ⟨queue, hqueue.trans ?_⟩
    rw [hsent]

/-- The ways in which a poll of the worker can go. -/
inductive Worked (f : Feed) : WorkerReply × Feed → Prop
  | gone (hworker : f.worker = .gone) : Worked f (.gone, f)
  /-- Its wait for being asked to stop is over. -/
  | stops {c plan} (hpoll : f.stream.cancellation.poll workerWait = (true, c)) :
      Worked f (.finished, endWorker ⟨{ f.stream with cancellation := c }, .working plan⟩)
  /-- It has sent its last batch. -/
  | finishes {c queue plan} (hpoll : f.stream.cancellation.poll workerWait = (false, c)) :
      Worked f (.finished,
        endWorker ⟨{ f.stream with queue, cancellation := c }, .working plan⟩)
  | goesOn {c queue plan} (hpoll : f.stream.cancellation.poll workerWait = (false, c)) :
      Worked f (.pending, ⟨{ f.stream with queue, cancellation := c }, .working plan⟩)

theorem pollWorker_worked (f : Feed) : f.Worked f.pollWorker := by
  cases hworker : f.worker with
  | gone =>
    simp only [pollWorker, hworker]
    exact .gone hworker
  | working plan =>
    rcases hpoll : f.stream.cancellation.poll workerWait with ⟨stop, c⟩
    simp only [pollWorker, hworker, hpoll]
    cases stop with
    | true => exact .stops hpoll
    | false =>
      have hsent := sendAll_eq_queue { f.stream with cancellation := c }
      cases plan.batches with
      | nil =>
        obtain ⟨queue, hqueue⟩ := hsent []
        rw [hqueue]
        by_cases hlast : ([] : List (List Event)).isEmpty && !plan.holds
        · simp only [hlast, if_true, Bool.false_eq_true, if_false]
          exact .finishes hpoll
        · simp only [hlast, Bool.false_eq_true, if_false]
          exact .goesOn hpoll
      | cons b rest =>
        obtain ⟨queue, hqueue⟩ := hsent b
        rw [hqueue]
        by_cases hlast : rest.isEmpty && !plan.holds
        · simp only [hlast, if_true, Bool.false_eq_true, if_false]
          exact .finishes hpoll
        · simp only [hlast, Bool.false_eq_true, if_false]
          exact .goesOn hpoll

/-- The worker will notice that it is asked to stop, and when it has ended it does not hold
the sending end. -/
structure Heeds (f : Feed) : Prop where
  heeded : f.stream.cancellation.Heeded
  quits : f.worker = .gone → f.stream.workerSends = false

/-- A feed that was just opened: its worker was not polled, and nobody else waits.  Events may
be queued already, and the worker may have been asked to stop. -/
structure IsNew (f : Feed) : Prop where
  unpolled : f.stream.cancellation.waiting = []
  works : f.worker ≠ .gone

theorem IsNew.heeds (h : f.IsNew) : f.Heeds :=
  ⟨Or.inl h.unpolled, fun hgone => absurd hgone h.works⟩

/-- A worker that has ended neither waits nor holds the sending end. -/
theorem heeds_endWorker {s : Stream} (h : s.cancellation.Heeded) (plan : Plan) :
    (endWorker ⟨s, .working plan⟩).Heeds := ⟨h.drop, fun _ => rfl⟩

theorem Heeds.pollWorker (h : f.Heeds) : f.pollWorker.2.Heeds := by
  have hheeded := h.heeded.poll
  have hworked := f.pollWorker_worked
  generalize f.pollWorker = r at hworked
  cases hworked with
  | gone => exact h
  | stops hpoll | finishes hpoll =>
    rw [hpoll] at hheeded
    exact heeds_endWorker (by exact hheeded) _
  | goesOn hpoll =>
    rw [hpoll] at hheeded
    exact ⟨hheeded, fun hgone => nomatch hgone⟩

theorem Heeds.cancel (h : f.Heeds) : Heeds { f with stream := f.stream.cancel.2 } :=
  ⟨h.heeded.cancel, h.quits⟩

theorem Heeds.close (h : f.Heeds) : Heeds { f with stream := f.stream.close } :=
  ⟨h.heeded, fun _ => rfl⟩

theorem Heeds.drop (h : f.Heeds) : Heeds { f with stream := f.stream.drop } :=
  ⟨h.heeded.cancel, h.quits⟩

theorem Heeds.send (h : f.Heeds) (e : Event) : Heeds { f with stream := (f.stream.send e).2 } := by
  obtain ⟨queue, hsend⟩ := f.stream.send_eq e
  rw [hsend]
  exact ⟨h.heeded, h.quits⟩

theorem Heeds.received (h : f.Heeds) {found : Reception} {stream : Stream}
    (hrec : f.stream.receive = (found, stream)) : Heeds { f with stream } := by
  obtain ⟨queue, hstream⟩ := f.stream.receive_eq
  rw [hrec] at hstream
  rw [show stream = _ from hstream]
  exact ⟨h.heeded, h.quits⟩

theorem isCancelled_endWorker (f : Feed) :
    f.endWorker.stream.isCancelled = f.stream.isCancelled := by
  unfold endWorker
  split
  · rfl
  · exact f.stream.cancellation.requested_drop workerWait

/-- A poll of the worker asks nobody to stop, and takes nothing back. -/
theorem isCancelled_pollWorker (f : Feed) :
    f.pollWorker.2.stream.isCancelled = f.stream.isCancelled := by
  have hkept := f.stream.cancellation.requested_poll workerWait
  have hworked := f.pollWorker_worked
  generalize f.pollWorker = r at hworked
  cases hworked with
  | gone => rfl
  | stops hpoll | finishes hpoll =>
    rw [hpoll] at hkept
    exact (isCancelled_endWorker _).trans hkept
  | goesOn hpoll =>
    rw [hpoll] at hkept
    exact hkept

/-- A worker that was asked to stop ends at once, whatever it has still to send; what it has
sent stays to be received. -/
theorem Heeds.pollWorker_of_stopped (h : f.Heeds) (hstop : f.stream.isCancelled = true)
    (hworker : f.worker ≠ .gone) :
    ∃ c, f.pollWorker = (.finished,
      ⟨{ f.stream with workerSends := false, cancellation := c }, .gone⟩) := by
  have hpolled := h.heeded.poll_of_requested hstop
  have hworked := f.pollWorker_worked
  generalize f.pollWorker = r at hworked
  cases hworked with
  | gone hgone => exact absurd hgone hworker
  | @stops c plan hpoll => exact ⟨c.drop workerWait, rfl⟩
  | finishes hpoll | goesOn hpoll =>
    rw [hpoll] at hpolled
    exact absurd hpolled Bool.false_ne_true

end Feed

end Dialogue.Event
