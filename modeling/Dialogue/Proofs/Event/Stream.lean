/-
Nothing is lost between a worker and who receives.

What is still to come on a feed is what is queued and then what the worker has not sent.
As long as the worker serves, that is while nobody has asked it to stop or given an end up,
a poll of the worker moves events from the one to the other, and receiving takes the first
of them.  If the worker does not wait for ever, both come to an end: `toDo` counts what the
worker has still to do and what is still to receive, and each step that does anything
lowers it.
-/
import Dialogue.Proofs.Event.Stopping

namespace Dialogue.Event

/-- What a worker has not sent. -/
def Worker.unsent : Worker → List Event
  | .working plan => plan.batches.flatten
  | .gone => []

namespace Feed

/-- The events that are still to be received. -/
def toCome (f : Feed) : List Event := f.stream.queue ++ f.worker.unsent

/-- Nobody was asked to stop, the receiving end is held, and of the sending end only the
worker has a part.  It may wait for ever behind its last batch, and `holds` tells whether it
does; one that does never gives the sending end up. -/
structure Serves (holds : Bool) (f : Feed) : Prop where
  isReceived : f.stream.isReceived = true
  alone : f.stream.othersSend = false
  sends : f.stream.workerSends = true ↔ f.worker ≠ .gone
  ends : ∀ plan, f.worker = .working plan → plan.holds = holds
  finished : f.worker = .gone → holds = false
  unasked : f.stream.cancellation.requested = false
  unkept : f.stream.cancellation.kept = false
  unwoken : f.stream.cancellation.woken = []

/-- A feed that was just opened. -/
theorem serves_of_plan (plan : Plan) : Serves plan.holds { worker := .working plan } where
  isReceived := rfl
  alone := rfl
  sends := by simp
  ends := by simp
  finished := by simp
  unasked := rfl
  unkept := rfl
  unwoken := rfl

theorem Serves.isCancelled {f : Feed} {holds : Bool} (h : f.Serves holds) :
    f.stream.isCancelled = false := h.unasked

/-! ### The worker -/

/-- Who receives gets a batch in order. -/
theorem sendAll_eq {s : Stream} (h : s.isReceived = true) (batch : List Event) :
    sendAll s batch = { s with queue := s.queue ++ batch } := by
  induction batch generalizing s with
  | nil => simp [sendAll]
  | cons e batch ih =>
    have hsend : (s.send e).2 = { s with queue := s.queue ++ [e] } := by simp [Stream.send, h]
    rw [sendAll, List.foldl_cons, ← sendAll, hsend, ih (by exact h)]
    simp

theorem Serves.working {f : Feed} {holds : Bool} (h : f.Serves holds)
    (hworker : f.worker ≠ .gone) : ∃ batches, f.worker = .working ⟨batches, holds⟩ := by
  cases hw : f.worker with
  | gone => exact absurd hw hworker
  | working plan =>
    have hholds := h.ends plan hw
    exact ⟨plan.batches, by rw [← hholds]⟩

/-- A worker that is not asked to stop sends its last batch and ends, or sends a batch and
goes on, or has none left and waits for ever. -/
theorem pollWorker_of_serves {f : Feed} {holds : Bool} (h : f.Serves holds)
    {batches : List (List Event)} (hworker : f.worker = .working ⟨batches, holds⟩) : ∃ waiting,
    holds = false ∧ f.pollWorker.2 =
        { stream := { f.stream with
            queue := f.stream.queue ++ batches.flatten, workerSends := false
            cancellation := { f.stream.cancellation with waiting } }
          worker := .gone } ∨
      ∃ b rest, (batches = b :: rest ∨ batches = [] ∧ b = [] ∧ rest = [] ∧ holds = true) ∧
        f.pollWorker.2 =
          { stream := { f.stream with
              queue := f.stream.queue ++ b
              cancellation := { f.stream.cancellation with waiting } }
            worker := .working ⟨rest, holds⟩ } := by
  obtain ⟨waiting, hpoll⟩ :=
    Cancellation.poll_eq_of_unasked h.unasked h.unkept h.unwoken workerWait
  cases batches with
  | nil =>
    cases holds with
    | false =>
      refine ⟨waiting.erase workerWait, Or.inl ⟨rfl, ?_⟩⟩
      simp [pollWorker, hworker, hpoll, sendAll, endWorker, Cancellation.drop, h.unwoken]
    | true =>
      refine ⟨waiting, Or.inr ⟨[], [], Or.inr ⟨rfl, rfl, rfl, rfl⟩, ?_⟩⟩
      simp [pollWorker, hworker, hpoll, sendAll]
  | cons b rest =>
    by_cases hlast : rest = [] ∧ holds = false
    · obtain ⟨rfl, rfl⟩ := hlast
      refine ⟨waiting.erase workerWait, Or.inl ⟨rfl, ?_⟩⟩
      simp [pollWorker, hworker, hpoll, sendAll_eq, h.isReceived, endWorker, Cancellation.drop,
        h.unwoken]
    · refine ⟨waiting, Or.inr ⟨b, rest, Or.inl rfl, ?_⟩⟩
      have hgoes : (rest.isEmpty && !holds) = false := by
        rw [Bool.eq_false_iff]
        simpa using hlast
      simp [pollWorker, hworker, hpoll, sendAll_eq, h.isReceived, hgoes]

/-- A poll of the worker loses nothing. -/
theorem Serves.pollWorker {f : Feed} {holds : Bool} (h : f.Serves holds) :
    f.pollWorker.2.Serves holds ∧ f.pollWorker.2.toCome = f.toCome := by
  by_cases hworker : f.worker = .gone
  · have hsame : f.pollWorker.2 = f := by simp [Feed.pollWorker, hworker]
    rw [hsame]
    exact ⟨h, rfl⟩
  · obtain ⟨batches, hbatches⟩ := h.working hworker
    obtain ⟨waiting, ⟨hholds, hpoll⟩ | ⟨b, rest, hb, hpoll⟩⟩ := pollWorker_of_serves h hbatches
    · rw [hpoll]
      refine ⟨⟨h.isReceived, h.alone, by simp, by simp, fun _ => hholds, h.unasked, h.unkept,
        h.unwoken⟩, ?_⟩
      simp [toCome, hbatches, Worker.unsent]
    · have hflat : batches.flatten = b ++ rest.flatten := by
        rcases hb with rfl | ⟨rfl, rfl, rfl, -⟩ <;> rfl
      rw [hpoll]
      refine ⟨⟨h.isReceived, h.alone, ?_, by simp, by simp, h.unasked, h.unkept, h.unwoken⟩, ?_⟩
      · simp [h.sends, hbatches]
      · simp [toCome, hbatches, Worker.unsent, hflat]

/-! ### What a step leaves to do -/

/-- The steps that worker and receiver have to make at most. -/
def toDo (f : Feed) : Nat :=
  f.toCome.length + match f.worker with
    | .working plan => plan.batches.length + 1
    | .gone => 0

/-- A poll of a worker that does not wait for ever leaves less to do. -/
theorem Serves.toDo_pollWorker {f : Feed} (h : f.Serves false) (hworker : f.worker ≠ .gone) :
    f.pollWorker.2.toDo < f.toDo := by
  obtain ⟨batches, hbatches⟩ := h.working hworker
  rw [toDo, toDo, h.pollWorker.2, hbatches]
  obtain ⟨waiting, ⟨-, hpoll⟩ | ⟨b, rest, rfl | ⟨-, -, -, hholds⟩, hpoll⟩⟩ :=
    pollWorker_of_serves h hbatches
  · simp [hpoll]
  · simp [hpoll]
  · exact absurd hholds Bool.false_ne_true

/-! ### Receiving -/

theorem Serves.receive {f : Feed} {holds : Bool} (h : f.Serves holds) {found : Reception}
    {stream : Stream} (hrec : f.stream.receive = (found, stream)) :
    ({ f with stream } : Feed).Serves holds := by
  unfold Stream.receive at hrec
  split at hrec
  · rw [← (Prod.mk.inj hrec).2]
    exact ⟨h.isReceived, h.alone, h.sends, h.ends, h.finished, h.unasked, h.unkept, h.unwoken⟩
  · rw [← (Prod.mk.inj hrec).2]
    exact h

/-- What is received was the first to come. -/
theorem toCome_of_event {f : Feed} {e : Event} {stream : Stream}
    (hrec : f.stream.receive = (.event e, stream)) :
    f.toCome = e :: ({ f with stream } : Feed).toCome := by
  unfold Stream.receive at hrec
  split at hrec
  · rename_i e' rest hqueue
    obtain ⟨he, hstream⟩ := Prod.mk.inj hrec
    rw [← hstream, ← Reception.event.inj he, toCome, hqueue]
    rfl
  · split at hrec <;> exact absurd (Prod.mk.inj hrec).1 (by simp)

theorem toDo_of_event {f : Feed} {e : Event} {stream : Stream}
    (hrec : f.stream.receive = (.event e, stream)) : ({ f with stream } : Feed).toDo < f.toDo := by
  unfold toDo
  rw [toCome_of_event hrec, List.length_cons]
  simp

/-- While there is nothing to receive the worker has not ended. -/
theorem Serves.of_pending {f : Feed} {holds : Bool} (h : f.Serves holds) {stream : Stream}
    (hrec : f.stream.receive = (.pending, stream)) : stream = f.stream ∧ f.worker ≠ .gone := by
  unfold Stream.receive at hrec
  split at hrec
  · exact absurd (Prod.mk.inj hrec).1 (by simp)
  · split at hrec
    · rename_i hopen
      rw [Stream.isOpen, h.alone, Bool.or_false] at hopen
      exact ⟨(Prod.mk.inj hrec).2.symm, h.sends.mp hopen⟩
    · exact absurd (Prod.mk.inj hrec).1 (by simp)

/-- A stream that is found closed has told everything, and its worker did not wait. -/
theorem Serves.of_closed {f : Feed} {holds : Bool} (h : f.Serves holds) {stream : Stream}
    (hrec : f.stream.receive = (.closed, stream)) : f.toCome = [] ∧ holds = false := by
  unfold Stream.receive at hrec
  split at hrec
  · exact absurd (Prod.mk.inj hrec).1 (by simp)
  · rename_i hqueue
    split at hrec
    · exact absurd (Prod.mk.inj hrec).1 (by simp)
    · rename_i hopen
      rw [Stream.isOpen, h.alone, Bool.or_false] at hopen
      have hgone : f.worker = .gone := by
        by_contra hne
        exact hopen (h.sends.mpr hne)
      refine ⟨?_, h.finished hgone⟩
      rw [toCome, hqueue, hgone]
      rfl

end Feed

end Dialogue.Event
