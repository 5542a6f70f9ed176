/-
What becomes of a stream, whoever handles it.

A worker sends all its events at its first poll and then ends, or waits for ever.  The one
who holds the stream receives, cancels, or drops it; others cancel through a handle of their
own, ask whether that was done, or wait for it for the time of one poll; and whoever runs the
worker polls it or drops it.  All of these come in any order.

The order matters in two places only.  Whether the events are sent is decided by what comes
first of a poll of the worker and of what ends it (`served`), and who cancels is told whether
that was the first time (`firsts`).  From then on the queue is what was sent less what was
received, until the stream is dropped.  Three invariants say this of everything that was done
so far and of the feed that it led to: who asked to stop and who holds what (`Controlled`),
where the events are (`Flows`), and who was told to be the first (`Ranked`).
-/
import Dialogue.Proofs.Event.Stream
import Dialogue.Proofs.Event.Waking

namespace Dialogue.Event

/-! ### One who waits besides the worker -/

namespace Cancellation

variable {c : Cancellation}

/-- Of all waits there is only the worker's, and it goes on only while nobody asks to stop. -/
structure Single (c : Cancellation) : Prop extends InOrder c where
  heeded : c.Heeded
  alone : ∀ w ∈ c.waits, w = Feed.workerWait

theorem single_new : Single {} := { inOrder_empty with heeded := Or.inl rfl, alone := nofun }

theorem Single.cancel (h : c.Single) : c.cancel.2.Single where
  toInOrder := h.toInOrder.cancel
  heeded := h.heeded.cancel
  alone := fun w hw => h.alone w (c.waits_cancel.subset hw)

theorem Single.poll (h : c.Single) : (c.poll Feed.workerWait).2.Single where
  toInOrder := h.toInOrder.poll _
  heeded := h.heeded.poll
  alone := by
    intro w hw
    rcases c.waits_poll Feed.workerWait with hsub | ⟨-, hwaits⟩
    · exact h.alone w (hsub.subset hw)
    · rw [hwaits] at hw
      exact (List.mem_append.mp hw).elim (h.alone w) List.mem_singleton.mp

theorem Single.drop (h : c.Single) : (c.drop Feed.workerWait).Single where
  toInOrder := h.toInOrder.drop _
  heeded := h.heeded.drop
  alone := fun w hw => h.alone w (List.mem_of_mem_erase ((c.waits_drop _).subset hw))

/-- Who comes for one poll learns whether stopping was asked for, and is not noticed. -/
theorem Single.poll_drop (h : c.Single) {w : Nat} (hw : w ≠ Feed.workerWait) :
    (c.poll w).1 = c.requested ∧ (c.poll w).2.drop w = c := by
  have hwoken : w ∉ c.woken := fun hmem => hw (h.alone w (List.mem_append_left _ hmem))
  have hwaiting : w ∉ c.waiting := fun hmem => hw (h.alone w (List.mem_append_right _ hmem))
  by_cases hrequested : c.requested = true
  · have hpoll : c.poll w = (true, c) := by
      simp [Cancellation.poll, hwoken, hwaiting, hrequested]
    rw [hpoll]
    refine ⟨hrequested.symm, ?_⟩
    rw [Cancellation.drop, if_neg hwoken, List.erase_of_not_mem hwaiting]
  · have hkept := (h.unasked (eq_false_of_ne_true hrequested)).2
    have hpoll : c.poll w = (false, { c with waiting := c.waiting ++ [w] }) := by
      simp [Cancellation.poll, hwoken, hwaiting, hrequested, hkept]
    rw [hpoll]
    refine ⟨(eq_false_of_ne_true hrequested).symm, ?_⟩
    simp [Cancellation.drop, hwoken, List.erase_append_right, hwaiting]

end Cancellation

/-! ### What ends a worker -/

namespace Feed

variable {f : Feed}

/-- The worker holds the sending end, and nobody else does, as long as the worker is there. -/
structure Solo (f : Feed) : Prop where
  single : f.stream.cancellation.Single
  alone : f.stream.othersSend = false
  sends : f.stream.workerSends = true ↔ f.worker ≠ .gone

theorem Solo.isOpen_iff (h : f.Solo) : f.stream.isOpen = true ↔ f.worker ≠ .gone := by
  rw [Stream.isOpen, h.alone, Bool.or_false]
  exact h.sends

theorem Solo.heeds (h : f.Solo) : f.Heeds := by
  refine ⟨h.single.heeded, fun hgone => ?_⟩
  by_contra hsends
  exact h.sends.mp (eq_true_of_ne_false hsends) hgone

/-- A feed is left with what is left of its queue. -/
theorem Solo.withQueue (h : f.Solo) (queue : List Event) :
    Solo { f with stream := { f.stream with queue } } := ⟨h.single, h.alone, h.sends⟩

theorem Solo.cancel (h : f.Solo) : Solo { f with stream := f.stream.cancel.2 } :=
  ⟨h.single.cancel, h.alone, h.sends⟩

theorem Solo.drop (h : f.Solo) : Solo { f with stream := f.stream.drop } :=
  ⟨h.single.cancel, h.alone, h.sends⟩

theorem Solo.endWorker (h : f.Solo) : f.endWorker.Solo := by
  unfold Feed.endWorker
  split
  · exact h
  · exact ⟨h.single.drop, h.alone, by simp⟩

theorem Solo.pollWorker (h : f.Solo) : f.pollWorker.2.Solo := by
  by_cases hgone : f.worker = .gone
  · simp only [Feed.pollWorker, hgone]
    exact h
  have hsingle := h.single.poll
  have hsends := h.sends.mpr hgone
  have hworked := f.pollWorker_worked
  generalize f.pollWorker = r at hworked
  cases hworked with
  | gone => exact h
  | stops hpoll | finishes hpoll =>
    rw [hpoll] at hsingle
    exact ⟨Cancellation.Single.drop hsingle, h.alone, by simp [Feed.endWorker]⟩
  | goesOn hpoll =>
    rw [hpoll] at hsingle
    exact ⟨hsingle, h.alone, by simp [hsends]⟩

theorem isReceived_endWorker (f : Feed) :
    f.endWorker.stream.isReceived = f.stream.isReceived := by
  unfold endWorker
  split <;> rfl

theorem isReceived_pollWorker (f : Feed) :
    f.pollWorker.2.stream.isReceived = f.stream.isReceived := by
  have hworked := f.pollWorker_worked
  generalize f.pollWorker = r at hworked
  cases hworked with
  | gone | goesOn => rfl
  | stops | finishes => exact isReceived_endWorker _

end Feed

/-! ### Uses -/

/-- What can be done with a stream, a handle of its cancellation, and its worker. -/
inductive Use where
  | poll
  | dropWorker
  | receive
  /-- Cancels through the stream. -/
  | cancel
  | cancelByHandle
  | dropStream
  /-- Asks whether stopping was asked for. -/
  | asks
  /-- Waits for it, for one poll. -/
  | waits
  deriving DecidableEq, Repr

/-- What comes of a use. -/
inductive Answer where
  | worker (r : WorkerReply)
  | found (r : Reception)
  /-- Was it the first time? -/
  | cancelled (first : Bool)
  /-- Was stopping asked for? -/
  | told (requested : Bool)
  | nothing
  deriving DecidableEq, Repr

namespace Use

/-- Does the use ask the worker to stop? -/
def stops : Use → Bool
  | .cancel | .cancelByHandle | .dropStream => true
  | _ => false

/-- Does it settle whether the worker sends anything? -/
def decides (u : Use) : Bool := u = .poll || u = .dropWorker || u.stops

end Use

namespace Feed

/-- The number of a wait that is not the worker's. -/
def guestWait : Nat := workerWait + 1

/-- A stream that was dropped is used no more. -/
def use (f : Feed) : Use → Answer × Feed
  | .poll => let (reply, f) := f.pollWorker; (.worker reply, f)
  | .dropWorker => (.nothing, f.endWorker)
  | .receive =>
    if f.stream.isReceived then
      let (reception, stream) := f.stream.receive
      (.found reception, { f with stream })
    else (.nothing, f)
  | .cancel =>
    if f.stream.isReceived then
      let (first, stream) := f.stream.cancel
      (.cancelled first, { f with stream })
    else (.nothing, f)
  | .cancelByHandle =>
    let (first, stream) := f.stream.cancel
    (.cancelled first, { f with stream })
  | .dropStream =>
    (.nothing, if f.stream.isReceived then { f with stream := f.stream.drop } else f)
  | .asks => (.told f.stream.isCancelled, f)
  | .waits =>
    let (asked, cancellation) := f.stream.cancellation.poll guestWait
    (.told asked,
      { f with stream := { f.stream with cancellation := cancellation.drop guestWait } })

end Feed

/-- A feed and all that was done with it, the oldest first. -/
structure Handling where
  feed : Feed
  log : List (Use × Answer) := []
  deriving DecidableEq, Repr

namespace Handling

/-- The worker is going to send these events. -/
def start (events : List Event) (holds : Bool) : Handling :=
  { feed := { worker := .working ⟨[events], holds⟩ } }

/-- Does one more thing, and takes it down. -/
def use (h : Handling) (u : Use) : Handling where
  feed := (h.feed.use u).2
  log := h.log ++ [(u, (h.feed.use u).1)]

/-- Does one thing after another. -/
def run (h : Handling) (us : List Use) : Handling := us.foldl use h

/-! ### Views of the log -/

/-- What was done, without the answers. -/
def uses (h : Handling) : List Use := h.log.map (·.1)

/-- The events among the answers of a log. -/
def receivedIn (log : List (Use × Answer)) : List Event :=
  log.filterMap fun entry =>
    match entry.2 with
    | .found (.event e) => some e
    | _ => none

/-- The events that were received. -/
def received (h : Handling) : List Event := receivedIn h.log

/-- What those who canceled were told, by a log. -/
def firstsIn (log : List (Use × Answer)) : List Bool :=
  log.filterMap fun entry =>
    match entry.2 with
    | .cancelled first => some first
    | _ => none

/-- What those who canceled were told. -/
def firsts (h : Handling) : List Bool := firstsIn h.log

/-- Has the worker ended, or was it dropped? -/
def isOver (h : Handling) : Bool :=
  h.log.any fun entry => entry.1 = .dropWorker || entry = (.poll, .worker .finished)

end Handling

/-- Was the worker polled before anything could end it? -/
def served (us : List Use) : Bool := us.find? Use.decides = some .poll

/-- Was the worker asked to stop by somebody who canceled, and not by dropping the stream? -/
def canceledFirst (us : List Use) : Bool :=
  us.find? Use.stops = some .cancel || us.find? Use.stops = some .cancelByHandle

theorem served_concat_of_ne {u : Use} (hu : u ≠ .poll) (us : List Use) :
    served (us ++ [u]) = served us := by
  unfold served
  rw [List.find?_append]
  cases hfind : us.find? Use.decides with
  | some v => rfl
  | none =>
    by_cases hdecides : u.decides = true
    · simp [hdecides, hu]
    · simp [hdecides]

theorem served_concat_of_mem {us : List Use} {v : Use} (hv : v ∈ us) (hdecides : v.decides = true)
    (u : Use) : served (us ++ [u]) = served us := by
  unfold served
  rw [List.find?_append]
  cases hfind : us.find? Use.decides with
  | some w => rfl
  | none =>
    rw [List.find?_eq_none] at hfind
    exact absurd hdecides (hfind v hv)

theorem served_concat_poll {us : List Use} (hnone : ∀ v ∈ us, v.decides = false) :
    served us = false ∧ served (us ++ [.poll]) = true := by
  have hfind : us.find? Use.decides = none := by
    rw [List.find?_eq_none]
    intro v hv
    simp [hnone v hv]
  unfold served
  rw [List.find?_append, hfind]
  exact ⟨rfl, rfl⟩

theorem canceledFirst_concat_of_any {us : List Use} (h : us.any Use.stops = true) (u : Use) :
    canceledFirst (us ++ [u]) = canceledFirst us := by
  unfold canceledFirst
  rw [List.find?_append]
  cases hfind : us.find? Use.stops with
  | some w => rfl
  | none =>
    rw [List.find?_eq_none] at hfind
    obtain ⟨v, hv, hstops⟩ := List.any_eq_true.mp h
    exact absurd hstops (hfind v hv)

theorem canceledFirst_concat_of_not_any {us : List Use} (h : us.any Use.stops = false) (u : Use) :
    canceledFirst us = false ∧
      canceledFirst (us ++ [u]) = (u = .cancel || u = .cancelByHandle : Bool) := by
  have hfind : us.find? Use.stops = none := by
    rw [List.find?_eq_none]
    intro v hv hstops
    rw [List.any_eq_false] at h
    exact h v hv hstops
  unfold canceledFirst
  rw [List.find?_append, hfind]
  refine ⟨rfl, ?_⟩
  cases u <;> rfl

/-! ### What every use keeps -/

namespace Handling

variable {events : List Event} {holds : Bool} {h : Handling}

/-- The events that a worker sends that was handled like this. -/
def sent (events : List Event) (us : List Use) : List Event := if served us then events else []

theorem uses_use (h : Handling) (u : Use) : (h.use u).uses = h.uses ++ [u] := by
  simp [uses, use]

theorem uses_run (h : Handling) (us : List Use) : (h.run us).uses = h.uses ++ us := by
  induction us generalizing h with
  | nil => simp [run]
  | cons u us ih =>
    have hrun : (h.run (u :: us)).uses = (h.use u).uses ++ us := ih (h.use u)
    rw [hrun, uses_use]
    simp

/-- The ends of the feed are held and the flag is set as the uses tell. -/
structure Controlled (h : Handling) : Prop where
  solo : h.feed.Solo
  isCancelled : h.feed.stream.isCancelled = h.uses.any Use.stops
  isReceived : h.feed.stream.isReceived = true ↔ .dropStream ∉ h.uses

theorem controlled_start (events : List Event) (holds : Bool) :
    Controlled (start events holds) where
  solo := ⟨Cancellation.single_new, rfl, by simp [start]⟩
  isCancelled := rfl
  isReceived := by simp [start, uses]

theorem any_stops_use (h : Handling) (u : Use) :
    (h.use u).uses.any Use.stops = (h.uses.any Use.stops || u.stops) := by
  simp [uses_use]

theorem Controlled.isCancelled_of_dropped (hc : Controlled h)
    (hdropped : h.feed.stream.isReceived = false) : h.feed.stream.isCancelled = true := by
  rw [hc.isCancelled, List.any_eq_true]
  refine ⟨.dropStream, ?_, rfl⟩
  by_contra hnot
  rw [hc.isReceived.mpr hnot] at hdropped
  simp at hdropped

/-- A use that does not touch the receiving end. -/
theorem Controlled.keeps (hc : Controlled h) {u : Use} (hu : u ≠ .dropStream) {f : Feed}
    (hfeed : (h.feed.use u).2 = f) (hsolo : f.Solo)
    (hcancelled : f.stream.isCancelled = (h.feed.stream.isCancelled || u.stops))
    (hreceived : f.stream.isReceived = h.feed.stream.isReceived) : Controlled (h.use u) := by
  have huse : (h.use u).feed = f := hfeed
  have huses : .dropStream ∉ (h.use u).uses ↔ .dropStream ∉ h.uses := by simp [uses_use, hu.symm]
  refine ⟨?_, ?_, ?_⟩
  · rw [huse]
    exact hsolo
  · rw [huse, hcancelled, hc.isCancelled, any_stops_use]
  · rw [huse, hreceived, huses]
    exact hc.isReceived

theorem Controlled.use (hc : Controlled h) (u : Use) : Controlled (h.use u) := by
  cases u with
  | poll =>
    refine hc.keeps nofun rfl hc.solo.pollWorker ?_ h.feed.isReceived_pollWorker
    exact h.feed.isCancelled_pollWorker.trans (Bool.or_false _).symm
  | dropWorker =>
    refine hc.keeps nofun rfl hc.solo.endWorker ?_ h.feed.isReceived_endWorker
    exact h.feed.isCancelled_endWorker.trans (Bool.or_false _).symm
  | receive =>
    by_cases hheld : h.feed.stream.isReceived = true
    · obtain ⟨queue, hqueue⟩ := h.feed.stream.receive_eq
      have hfeed : (h.feed.use .receive).2 =
          { h.feed with stream := { h.feed.stream with queue } } := by
        simp [Feed.use, hheld, hqueue]
      exact hc.keeps nofun hfeed (hc.solo.withQueue queue) (Bool.or_false _).symm rfl
    · have hfeed : (h.feed.use .receive).2 = h.feed := by simp [Feed.use, hheld]
      exact hc.keeps nofun hfeed hc.solo (Bool.or_false _).symm rfl
  | cancel =>
    by_cases hheld : h.feed.stream.isReceived = true
    · have hfeed : (h.feed.use .cancel).2 = { h.feed with stream := h.feed.stream.cancel.2 } := by
        simp [Feed.use, hheld]
      refine hc.keeps nofun hfeed hc.solo.cancel ?_ rfl
      exact h.feed.stream.isCancelled_cancel.trans (Bool.or_true _).symm
    · have hfeed : (h.feed.use .cancel).2 = h.feed := by simp [Feed.use, hheld]
      refine hc.keeps nofun hfeed hc.solo ?_ rfl
      rw [hc.isCancelled_of_dropped (eq_false_of_ne_true hheld), Bool.true_or]
  | cancelByHandle =>
    refine hc.keeps nofun rfl hc.solo.cancel ?_ rfl
    exact h.feed.stream.isCancelled_cancel.trans (Bool.or_true _).symm
  | dropStream =>
    have hmem : .dropStream ∈ (h.use .dropStream).uses := by simp [uses_use]
    have hany : (h.use .dropStream).uses.any Use.stops = true :=
      List.any_eq_true.mpr ⟨_, hmem, rfl⟩
    by_cases hheld : h.feed.stream.isReceived = true
    · have hfeed : (h.use .dropStream).feed = { h.feed with stream := h.feed.stream.drop } := by
        simp [Handling.use, Feed.use, hheld]
      refine ⟨?_, ?_, ?_⟩
      · rw [hfeed]
        exact hc.solo.drop
      · rw [hany, hfeed]
        exact h.feed.stream.isCancelled_cancel
      · rw [hfeed]
        simp [Stream.drop, hmem]
    · have hfeed : (h.use .dropStream).feed = h.feed := by simp [Handling.use, Feed.use, hheld]
      refine ⟨?_, ?_, ?_⟩
      · rw [hfeed]
        exact hc.solo
      · rw [hany, hfeed]
        exact hc.isCancelled_of_dropped (eq_false_of_ne_true hheld)
      · rw [hfeed]
        simp [hheld, hmem]
  | asks => exact hc.keeps nofun rfl hc.solo (Bool.or_false _).symm rfl
  | waits =>
    have hsame := (hc.solo.single.poll_drop (w := Feed.guestWait) (by decide)).2
    have hfeed : (h.feed.use .waits).2 = h.feed := by simp only [Feed.use, hsame]
    exact hc.keeps nofun hfeed hc.solo (Bool.or_false _).symm rfl

/-! ### What is sent and received -/

/-- What is queued is what was sent less what was received. -/
structure Flows (events : List Event) (h : Handling) : Prop where
  /-- A worker that is still there was not dropped.  It was not polled either, or it was
  polled in time. -/
  works : ∀ plan, h.feed.worker = .working plan → .dropWorker ∉ h.uses ∧
    (plan.batches = [events] ∧ .poll ∉ h.uses ∨ plan.batches = [] ∧ served h.uses = true)
  held : h.feed.stream.isReceived = true →
    h.received ++ h.feed.stream.queue = sent events h.uses
  lost : h.feed.stream.isReceived = false →
    h.feed.stream.queue = [] ∧ h.received <+: sent events h.uses
  isOver : h.feed.worker = .gone ↔ h.isOver = true

theorem flows_start (events : List Event) (holds : Bool) : Flows events (start events holds) where
  works := by
    intro plan hplan
    obtain rfl := Worker.working.inj hplan
    simp [start, uses]
  held := fun _ => rfl
  lost := by simp [start]
  isOver := by simp [start, Handling.isOver]

theorem received_use (h : Handling) (u : Use) :
    (h.use u).received = h.received ++ receivedIn [(u, (h.feed.use u).1)] := by
  simp [received, receivedIn, use, List.filterMap_append]

theorem isOver_use (h : Handling) (u : Use) : (h.use u).isOver = (h.isOver ||
    (u = .dropWorker || (u, (h.feed.use u).1) = (.poll, .worker .finished) : Bool)) := by
  simp [isOver, use, List.any_append]

/-- What has ended a worker has decided what it sends. -/
theorem decided_of_isOver (hover : h.isOver = true) : ∃ v ∈ h.uses, v.decides = true := by
  obtain ⟨⟨v, a⟩, hmem, hended⟩ := List.any_eq_true.mp hover
  refine ⟨v, List.mem_map_of_mem hmem, ?_⟩
  rcases (Bool.or_eq_true _ _).mp hended with hdrop | hpoll
  · have hv : v = .dropWorker := of_decide_eq_true hdrop
    rw [hv]
    rfl
  · have hv : v = .poll := (Prod.mk.inj (of_decide_eq_true hpoll)).1
    rw [hv]
    rfl

/-- Only a poll in time makes a difference to what is sent. -/
theorem Flows.sent_use (hf : Flows events h) {u : Use}
    (hu : u ≠ .poll ∨ h.feed.worker = .gone) :
    sent events (h.use u).uses = sent events h.uses := by
  rw [sent, sent, uses_use]
  rcases hu with hne | hgone
  · rw [served_concat_of_ne hne]
  · obtain ⟨v, hv, hdecides⟩ := decided_of_isOver (hf.isOver.mp hgone)
    rw [served_concat_of_mem hv hdecides]

theorem isOver_use_of_ne {u : Use} (hpoll : u ≠ .poll) (hdrop : u ≠ .dropWorker) (h : Handling) :
    (h.use u).isOver = h.isOver := by
  simp [isOver_use, hpoll, hdrop]

/-- Only polls and drops say anything about a worker. -/
theorem Flows.works_use (hf : Flows events h) {u : Use} (hpoll : u ≠ .poll)
    (hdrop : u ≠ .dropWorker) {plan : Plan} (hplan : h.feed.worker = .working plan) :
    .dropWorker ∉ (h.use u).uses ∧ (plan.batches = [events] ∧ .poll ∉ (h.use u).uses ∨
      plan.batches = [] ∧ served (h.use u).uses = true) := by
  rw [uses_use, served_concat_of_ne hpoll]
  simpa [hpoll.symm, hdrop.symm] using hf.works plan hplan

/-- A use that leaves the worker, the queue and the receiving end alone. -/
theorem Flows.keeps (hf : Flows events h) {u : Use}
    (hworker : (h.feed.use u).2.worker = h.feed.worker)
    (hqueue : (h.feed.use u).2.stream.queue = h.feed.stream.queue)
    (hends : (h.feed.use u).2.stream.isReceived = h.feed.stream.isReceived)
    (hreceived : receivedIn [(u, (h.feed.use u).1)] = [])
    (hgone : u = .poll ∨ u = .dropWorker → h.feed.worker = .gone) : Flows events (h.use u) := by
  have hw : (h.use u).feed.worker = h.feed.worker := hworker
  have hq : (h.use u).feed.stream.queue = h.feed.stream.queue := hqueue
  have he : (h.use u).feed.stream.isReceived = h.feed.stream.isReceived := hends
  have hr : (h.use u).received = h.received := by rw [received_use, hreceived, List.append_nil]
  have hs : sent events (h.use u).uses = sent events h.uses := by
    by_cases hpoll : u = .poll
    · exact hf.sent_use (Or.inr (hgone (Or.inl hpoll)))
    · exact hf.sent_use (Or.inl hpoll)
  refine ⟨?_, ?_, ?_, ?_⟩
  · rw [hw]
    intro plan hplan
    have hne : h.feed.worker ≠ .gone := by simp [hplan]
    have hpoll : u ≠ .poll := fun hu => hne (hgone (Or.inl hu))
    have hdrop : u ≠ .dropWorker := fun hu => hne (hgone (Or.inr hu))
    exact hf.works_use hpoll hdrop hplan
  · rw [he, hr, hq, hs]
    exact hf.held
  · rw [he, hr, hq, hs]
    exact hf.lost
  · rw [hw]
    by_cases hu : u = .poll ∨ u = .dropWorker
    · rw [isOver_use, hf.isOver.mp (hgone hu), Bool.true_or]
      exact iff_of_true (hgone hu) rfl
    · rw [not_or] at hu
      rw [isOver_use_of_ne hu.1 hu.2]
      exact hf.isOver

/-- The worker leaves: what is queued stays to be received. -/
theorem Flows.dropWorker (hf : Flows events h) : Flows events (h.use .dropWorker) := by
  cases hworker : h.feed.worker with
  | gone =>
    have hfeed : (h.feed.use .dropWorker).2 = h.feed := by simp [Feed.use, Feed.endWorker, hworker]
    exact hf.keeps (by rw [hfeed]) (by rw [hfeed]) (by rw [hfeed]) rfl fun _ => hworker
  | working plan =>
    have hfeed : (h.use .dropWorker).feed =
        { stream := { h.feed.stream with
            workerSends := false
            cancellation := h.feed.stream.cancellation.drop Feed.workerWait }
          worker := .gone } := by
      simp [use, Feed.use, Feed.endWorker, hworker]
    have hr : (h.use .dropWorker).received = h.received := by
      rw [received_use]
      exact List.append_nil _
    have hs := hf.sent_use (u := .dropWorker) (Or.inl (by simp))
    refine ⟨by simp [hfeed], ?_, ?_, by simp [hfeed, isOver_use]⟩
    · rw [hfeed, hr, hs]
      exact hf.held
    · rw [hfeed, hr, hs]
      exact hf.lost

/-- A poll ends the worker exactly if it says so. -/
theorem pollWorker_finished_iff {f : Feed} (hworker : f.worker ≠ .gone) :
    f.pollWorker.2.worker = .gone ↔ f.pollWorker.1 = .finished := by
  have hworked := f.pollWorker_worked
  generalize f.pollWorker = r at hworked
  cases hworked with
  | gone hgone => exact absurd hgone hworker
  | stops | finishes => simp [Feed.endWorker]
  | goesOn => simp

theorem received_use_poll (h : Handling) : (h.use .poll).received = h.received := by
  rw [received_use]
  exact List.append_nil _

theorem isOver_use_poll (hf : Flows events h) (hworker : h.feed.worker ≠ .gone) :
    (h.use .poll).feed.worker = .gone ↔ (h.use .poll).isOver = true := by
  have hbefore : h.isOver = false := by
    by_contra hover
    exact hworker (hf.isOver.mpr (eq_true_of_ne_false hover))
  rw [isOver_use, hbefore]
  simpa [use, Feed.use] using pollWorker_finished_iff hworker

/-- The feed of a worker that is not asked to stop serves who receives. -/
theorem Controlled.serves (hc : Controlled h) (hcalm : h.feed.stream.isCancelled = false)
    {plan : Plan} (hworker : h.feed.worker = .working plan) : h.feed.Serves plan.holds := by
  obtain ⟨hwoken, hkept⟩ := hc.solo.single.unasked hcalm
  have hheld : h.feed.stream.isReceived = true := by
    by_contra hdropped
    rw [hc.isCancelled_of_dropped (eq_false_of_ne_true hdropped)] at hcalm
    simp at hcalm
  refine ⟨hheld, hc.solo.alone, hc.solo.sends, ?_, by simp [hworker], hcalm, hkept, hwoken⟩
  intro plan' hplan'
  rw [hworker] at hplan'
  rw [Worker.working.inj hplan']

/-- Before anything has decided, nothing was sent. -/
theorem Controlled.undecided (hc : Controlled h) (hcalm : h.feed.stream.isCancelled = false)
    (hdrop : .dropWorker ∉ h.uses) (hpoll : .poll ∉ h.uses) :
    ∀ v ∈ h.uses, v.decides = false := by
  rw [hc.isCancelled, List.any_eq_false] at hcalm
  intro v hv
  have hstops : v.stops = false := eq_false_of_ne_true (hcalm v hv)
  have hne : v ≠ .poll ∧ v ≠ .dropWorker := by
    constructor
    · rintro rfl
      exact hpoll hv
    · rintro rfl
      exact hdrop hv
  simp [Use.decides, hne.1, hne.2, hstops]

/-- The first poll sends everything if nothing came before it, and no other poll sends
anything: what a poll adds to the queue is what it adds to what was sent. -/
theorem Flows.sent_poll (hf : Flows events h) (hc : Controlled h)
    (hcalm : h.feed.stream.isCancelled = false) {plan : Plan} (hworker : h.feed.worker = .working plan) :
    plan.batches.tail = [] ∧ served (h.use .poll).uses = true ∧
      sent events (h.use .poll).uses = sent events h.uses ++ plan.batches.flatten := by
  obtain ⟨hdrop, hstage⟩ := hf.works plan hworker
  rw [sent, sent, uses_use]
  rcases hstage with ⟨hbatches, hunpolled⟩ | ⟨hbatches, hserved⟩
  · obtain ⟨hbefore, hafter⟩ := served_concat_poll (hc.undecided hcalm hdrop hunpolled)
    simp [hbatches, hbefore, hafter]
  · have hsome := of_decide_eq_true hserved
    have hafter := served_concat_of_mem (List.mem_of_find?_eq_some hsome) (List.find?_some hsome)
    simp [hafter, hbatches, hserved]

/-- A worker that was asked to stop sends nothing more. -/
theorem Flows.poll_of_stopped (hf : Flows events h) (hc : Controlled h)
    (hcancelled : h.feed.stream.isCancelled = true) (hworker : h.feed.worker ≠ .gone) :
    Flows events (h.use .poll) := by
  have hfeed : (h.use .poll).feed = h.feed.pollWorker.2 := rfl
  have hr := h.received_use_poll
  obtain ⟨c, hpoll⟩ := hc.solo.heeds.pollWorker_of_stopped hcancelled hworker
  have hs : sent events (h.use .poll).uses = sent events h.uses := by
    rw [hc.isCancelled] at hcancelled
    obtain ⟨v, hv, hstops⟩ := List.any_eq_true.mp hcancelled
    rw [sent, sent, uses_use, served_concat_of_mem hv (by simp [Use.decides, hstops])]
  refine ⟨by simp [hfeed, hpoll], ?_, ?_, isOver_use_poll hf hworker⟩
  · rw [hr, hs, hfeed, hpoll]
    exact hf.held
  · rw [hr, hs, hfeed, hpoll]
    exact hf.lost

theorem Flows.poll (hf : Flows events h) (hc : Controlled h) : Flows events (h.use .poll) := by
  cases hworker : h.feed.worker with
  | gone =>
    have hfeed : (h.feed.use .poll).2 = h.feed := by simp [Feed.use, Feed.pollWorker, hworker]
    have hanswer : (h.feed.use .poll).1 = .worker .gone := by
      simp [Feed.use, Feed.pollWorker, hworker]
    exact hf.keeps (by rw [hfeed]) (by rw [hfeed]) (by rw [hfeed]) (by rw [hanswer]; rfl)
      fun _ => hworker
  | working plan =>
    have hne : h.feed.worker ≠ .gone := by simp [hworker]
    cases hcancelled : h.feed.stream.isCancelled with
    | true => exact hf.poll_of_stopped hc hcancelled hne
    | false =>
      have hover := isOver_use_poll hf hne
      have hr := h.received_use_poll
      have hfeed : (h.use .poll).feed = h.feed.pollWorker.2 := rfl
      have hserves := hc.serves hcancelled hworker
      have hflow := hf.held hserves.isReceived
      obtain ⟨hone, hserved, hs⟩ := hf.sent_poll hc hcancelled hworker
      have hwork : h.feed.worker = .working ⟨plan.batches, plan.holds⟩ := hworker
      have hlost : (h.use .poll).feed.stream.isReceived = true :=
        h.feed.isReceived_pollWorker.trans hserves.isReceived
      obtain ⟨waiting, ⟨-, hpoll⟩ | ⟨b, rest, hb, hpoll⟩⟩ := Feed.pollWorker_of_serves hserves hwork
      · refine ⟨by simp [hfeed, hpoll], ?_, by simp [hlost], hover⟩
        intro _
        rw [hr, hs, hfeed, hpoll, ← hflow, List.append_assoc]
      · have hrest : rest = [] ∧ plan.batches.flatten = b := by
          rcases hb with hb | ⟨hb, rfl, rfl, -⟩
          · rw [hb] at hone
            have hnil : rest = [] := hone
            exact ⟨hnil, by simp [hb, hnil]⟩
          · exact ⟨rfl, by simp [hb]⟩
        obtain ⟨rfl, hflat⟩ := hrest
        refine ⟨?_, ?_, by simp [hlost], hover⟩
        · intro plan' hplan'
          rw [hfeed, hpoll] at hplan'
          rw [← Worker.working.inj hplan']
          exact ⟨by simpa [uses_use] using (hf.works plan hworker).1, Or.inr ⟨rfl, hserved⟩⟩
        · intro _
          rw [hr, hs, hfeed, hpoll, ← hflow, hflat, List.append_assoc]

/-- What is received was the first in the queue. -/
theorem Flows.receive (hf : Flows events h) : Flows events (h.use .receive) := by
  by_cases hheld : h.feed.stream.isReceived = true
  · cases hqueue : h.feed.stream.queue with
    | nil =>
      have hfeed : (h.feed.use .receive).2 = h.feed := by
        simp [Feed.use, hheld, Stream.receive, hqueue]
      have hnone : receivedIn [(.receive, (h.feed.use .receive).1)] = [] := by
        unfold Feed.use Stream.receive
        simp only [hheld, hqueue, if_true]
        split <;> rfl
      exact hf.keeps (by rw [hfeed]) (by rw [hfeed]) (by rw [hfeed]) hnone (by simp)
    | cons e rest =>
      have hfeed : (h.use .receive).feed =
          { h.feed with stream := { h.feed.stream with queue := rest } } := by
        simp [use, Feed.use, hheld, Stream.receive, hqueue]
      have hanswer : (h.feed.use .receive).1 = .found (.event e) := by
        simp [Feed.use, hheld, Stream.receive, hqueue]
      have hr : (h.use .receive).received = h.received ++ [e] := by
        rw [received_use, hanswer]
        rfl
      have hs := hf.sent_use (u := .receive) (Or.inl nofun)
      refine ⟨?_, ?_, by simp [hfeed, hheld], ?_⟩
      · rw [hfeed]
        exact fun plan hplan => hf.works_use (by simp) (by simp) hplan
      · intro _
        rw [hr, hs, hfeed, ← hf.held hheld, hqueue, List.append_assoc, List.singleton_append]
      · rw [hfeed, isOver_use_of_ne (by simp) (by simp)]
        exact hf.isOver
  · have hfeed : h.feed.use .receive = (.nothing, h.feed) := by simp [Feed.use, hheld]
    exact hf.keeps (by rw [hfeed]) (by rw [hfeed]) (by rw [hfeed]) (by rw [hfeed]; rfl) (by simp)

/-- What is dropped was not received, and nothing is received after it. -/
theorem Flows.dropStream (hf : Flows events h) : Flows events (h.use .dropStream) := by
  by_cases hheld : h.feed.stream.isReceived = true
  · have hfeed : (h.use .dropStream).feed = { h.feed with stream := h.feed.stream.drop } := by
      simp [use, Feed.use, hheld]
    have hr : (h.use .dropStream).received = h.received := by
      rw [received_use]
      exact List.append_nil _
    have hs := hf.sent_use (u := .dropStream) (Or.inl nofun)
    refine ⟨?_, by simp [hfeed, Stream.drop], ?_, ?_⟩
    · rw [hfeed]
      exact fun plan hplan => hf.works_use (by simp) (by simp) hplan
    · intro _
      rw [hr, hs, hfeed, ← hf.held hheld]
      exact ⟨rfl, List.prefix_append _ _⟩
    · rw [hfeed, isOver_use_of_ne (by simp) (by simp)]
      exact hf.isOver
  · have hfeed : h.feed.use .dropStream = (.nothing, h.feed) := by simp [Feed.use, hheld]
    exact hf.keeps (by rw [hfeed]) (by rw [hfeed]) (by rw [hfeed]) (by rw [hfeed]; rfl) (by simp)

theorem Flows.use (hf : Flows events h) (hc : Controlled h) (u : Use) :
    Flows events (h.use u) := by
  cases u with
  | poll => exact hf.poll hc
  | dropWorker => exact hf.dropWorker
  | receive => exact hf.receive
  | dropStream => exact hf.dropStream
  | cancel =>
    by_cases hheld : h.feed.stream.isReceived = true
    · have hfeed : h.feed.use .cancel = (.cancelled h.feed.stream.cancel.1,
          { h.feed with stream := h.feed.stream.cancel.2 }) := by simp [Feed.use, hheld]
      exact hf.keeps (by rw [hfeed]) (by rw [hfeed]; rfl) (by rw [hfeed]; rfl) (by rw [hfeed]; rfl)
        (by simp)
    · have hfeed : h.feed.use .cancel = (.nothing, h.feed) := by simp [Feed.use, hheld]
      exact hf.keeps (by rw [hfeed]) (by rw [hfeed]) (by rw [hfeed]) (by rw [hfeed]; rfl) (by simp)
  | cancelByHandle => exact hf.keeps rfl rfl rfl rfl (by simp)
  | asks => exact hf.keeps rfl rfl rfl rfl (by simp)
  | waits => exact hf.keeps rfl rfl rfl rfl (by simp)

/-! ### Who canceled first -/

/-- Only the first of all who cancel is told so, and nobody if the stream was dropped before. -/
def Ranked (h : Handling) : Prop :=
  h.uses.any Use.stops = false ∧ h.firsts = [] ∨ h.uses.any Use.stops = true ∧
    ∃ n, h.firsts = (if canceledFirst h.uses then [true] else []) ++ List.replicate n false

theorem firsts_use (h : Handling) (u : Use) :
    (h.use u).firsts = h.firsts ++ firstsIn [(u, (h.feed.use u).1)] := by
  simp [firsts, firstsIn, use, List.filterMap_append]

/-- Who cancels is told whether nobody has asked to stop before. -/
theorem cancel_first (s : Stream) : s.cancel.1 = !s.isCancelled := by
  unfold Stream.cancel Cancellation.cancel Stream.isCancelled
  by_cases hrequested : s.cancellation.requested = true
  · simp [hrequested]
  · simp [hrequested]

/-- A use adds an answer if it cancels; it does not if the stream is not there to cancel
through. -/
theorem Controlled.firstsIn_use (hc : Controlled h) (u : Use) :
    firstsIn [(u, (h.feed.use u).1)] = [] ∧
        (h.uses.any Use.stops = true ∨ u = .dropStream ∨ u.stops = false) ∨
      (u = .cancel ∨ u = .cancelByHandle) ∧
        firstsIn [(u, (h.feed.use u).1)] = [!h.uses.any Use.stops] := by
  have hfirst := cancel_first h.feed.stream
  rw [hc.isCancelled] at hfirst
  cases u with
  | cancel =>
    by_cases hheld : h.feed.stream.isReceived = true
    · refine Or.inr ⟨Or.inl rfl, ?_⟩
      rw [← hfirst]
      simp [Feed.use, hheld, firstsIn]
    · have hany := hc.isCancelled_of_dropped (eq_false_of_ne_true hheld)
      rw [hc.isCancelled] at hany
      exact Or.inl ⟨by simp [Feed.use, hheld, firstsIn], Or.inl hany⟩
  | cancelByHandle =>
    refine Or.inr ⟨Or.inr rfl, ?_⟩
    rw [← hfirst]
    rfl
  | receive =>
    refine Or.inl ⟨?_, Or.inr (Or.inr rfl)⟩
    by_cases hheld : h.feed.stream.isReceived = true
    · simp [Feed.use, hheld, firstsIn]
    · simp [Feed.use, hheld, firstsIn]
  | dropStream => exact Or.inl ⟨rfl, Or.inr (Or.inl rfl)⟩
  | poll | dropWorker | asks | waits => exact Or.inl ⟨rfl, Or.inr (Or.inr rfl)⟩

theorem Ranked.use (hr : Ranked h) (hc : Controlled h) (u : Use) : Ranked (h.use u) := by
  unfold Ranked
  rw [any_stops_use, firsts_use, uses_use]
  rcases hr with ⟨hany, hfirsts⟩ | ⟨hany, n, hfirsts⟩
  · rw [hany, Bool.false_or, hfirsts, List.nil_append,
      (canceledFirst_concat_of_not_any hany u).2]
    rcases hc.firstsIn_use u with ⟨hnone, hstops | rfl | hstops⟩ | ⟨hu, hone⟩
    · rw [hany] at hstops
      simp at hstops
    · exact Or.inr ⟨rfl, 0, hnone⟩
    · exact Or.inl ⟨hstops, hnone⟩
    · refine Or.inr ⟨?_, 0, ?_⟩
      · rcases hu with rfl | rfl
        · rfl
        · rfl
      · rw [hone, hany]
        rcases hu with rfl | rfl
        · rfl
        · rfl
  · rw [hany, Bool.true_or, canceledFirst_concat_of_any hany, hfirsts]
    rcases hc.firstsIn_use u with ⟨hnone, -⟩ | ⟨-, hone⟩
    · exact Or.inr ⟨rfl, n, by rw [hnone, List.append_nil]⟩
    · refine Or.inr ⟨rfl, n + 1, ?_⟩
      rw [hone, hany, List.append_assoc, List.replicate_succ']
      rfl

/-! ### Whole histories -/

theorem controlled_run (hc : Controlled h) (us : List Use) : Controlled (h.run us) := by
  induction us generalizing h with
  | nil => exact hc
  | cons u us ih => exact ih (hc.use u)

theorem flows_run (hf : Flows events h) (hc : Controlled h) (us : List Use) :
    Flows events (h.run us) := by
  induction us generalizing h with
  | nil => exact hf
  | cons u us ih => exact ih (hf.use hc u) (hc.use u)

theorem ranked_run (hr : Ranked h) (hc : Controlled h) (us : List Use) : Ranked (h.run us) := by
  induction us generalizing h with
  | nil => exact hr
  | cons u us ih => exact ih (hr.use hc u) (hc.use u)

/-- Once the worker is gone and everything was received, nothing comes any more. -/
theorem spent_use (hworker : h.feed.worker = .gone) (hqueue : h.feed.stream.queue = [])
    (u : Use) : (h.use u).feed.worker = .gone ∧ (h.use u).feed.stream.queue = [] := by
  have huse : (h.use u).feed = (h.feed.use u).2 := rfl
  rw [huse]
  cases u with
  | poll => simp [Feed.use, Feed.pollWorker, hworker, hqueue]
  | dropWorker => simp [Feed.use, Feed.endWorker, hworker, hqueue]
  | receive | cancel | dropStream =>
    by_cases hheld : h.feed.stream.isReceived = true
    · simp [Feed.use, hheld, Stream.receive, Stream.cancel, Stream.drop, hqueue, hworker]
    · simp [Feed.use, hheld, hqueue, hworker]
  | cancelByHandle | asks | waits => exact ⟨hworker, hqueue⟩

theorem spent_run (hworker : h.feed.worker = .gone) (hqueue : h.feed.stream.queue = [])
    (us : List Use) : (h.run us).feed.worker = .gone ∧ (h.run us).feed.stream.queue = [] := by
  induction us generalizing h with
  | nil => exact ⟨hworker, hqueue⟩
  | cons u us ih =>
    obtain ⟨hgone, hempty⟩ := spent_use hworker hqueue u
    exact ih hgone hempty

/-- A stream that is held is found closed if everything was received and the worker is gone. -/
theorem Controlled.closed_iff (hc : Controlled h) (hheld : .dropStream ∉ h.uses) :
    (h.feed.use .receive).1 = .found .closed ↔
      h.feed.stream.queue = [] ∧ h.feed.worker = .gone := by
  have hreceived := hc.isReceived.mpr hheld
  have hopen := hc.solo.isOpen_iff
  unfold Feed.use Stream.receive
  simp only [hreceived, if_true]
  split
  · rename_i e rest hqueue
    simp [hqueue]
  · rename_i hqueue
    by_cases hgone : h.feed.worker = .gone
    · have hshut : h.feed.stream.isOpen = false := by
        by_contra hcon
        exact hopen.mp (eq_true_of_ne_false hcon) hgone
      simp [hqueue, hgone, hshut]
    · simp [hgone, hopen.mpr hgone]

/-- Canceling leaves the queue as it is. -/
theorem queue_use_cancel (h : Handling) {u : Use} (hu : u = .cancel ∨ u = .cancelByHandle) :
    (h.use u).feed.stream.queue = h.feed.stream.queue := by
  have huse : (h.use u).feed = (h.feed.use u).2 := rfl
  rw [huse]
  rcases hu with rfl | rfl
  · by_cases hheld : h.feed.stream.isReceived = true
    · simp [Feed.use, hheld, Stream.cancel]
    · simp [Feed.use, hheld]
  · rfl

/-- A worker that was asked to stop ends at its next poll, if it has not ended yet. -/
theorem Controlled.poll_of_cancelled (hc : Controlled h)
    (hcancelled : h.feed.stream.isCancelled = true) :
    (h.use .poll).feed.worker = .gone ∧ (h.feed.use .poll).1 ≠ .worker .pending := by
  have hfeed : (h.use .poll).feed = h.feed.pollWorker.2 := rfl
  have hanswer : (h.feed.use .poll).1 = .worker h.feed.pollWorker.1 := rfl
  rw [hfeed, hanswer]
  by_cases hgone : h.feed.worker = .gone
  · simp [Feed.pollWorker, hgone]
  · obtain ⟨c, hpoll⟩ := hc.solo.heeds.pollWorker_of_stopped hcancelled hgone
    simp [hpoll]

/-- Who asks, and who waits for one poll, learns whether stopping was asked for. -/
theorem Controlled.told (hc : Controlled h) :
    (h.feed.use .asks).1 = .told (h.uses.any Use.stops) ∧
      (h.feed.use .waits).1 = .told (h.uses.any Use.stops) := by
  have hwaits := (hc.solo.single.poll_drop (w := Feed.guestWait) (by decide)).1
  rw [← hc.isCancelled]
  have hanswer : (h.feed.use .waits).1 =
      .told (h.feed.stream.cancellation.poll Feed.guestWait).1 := rfl
  refine ⟨rfl, ?_⟩
  rw [hanswer, hwaits]
  rfl

/-- **What becomes of a stream, whoever handles it.**  After any uses in any order:

What was received is the beginning of what the worker sends, and as long as the stream is held
the rest of it is queued.  That is all events if the worker was polled before anything could
end it, and nothing else.  Canceling leaves the queue alone, and behind it every poll ends the
worker.  The stream is found closed exactly if nothing is queued and the worker has ended or
was dropped, and then for ever.  Of all who cancel the first is told so and nobody else, and
not even the first if the stream was dropped before.  And who asks is told whether anybody has
canceled or dropped the stream. -/
theorem handled_run (events : List Event) (holds : Bool) (us : List Use) :
    let h := (start events holds).run us
    let all := if served us then events else []
    h.received <+: all ∧
    (.dropStream ∉ us → h.received ++ h.feed.stream.queue = all) ∧
    (∀ u, u = .cancel ∨ u = .cancelByHandle →
      (h.use u).feed.stream.queue = h.feed.stream.queue) ∧
    (us.any Use.stops = true →
      (h.use .poll).feed.worker = .gone ∧ (h.feed.use .poll).1 ≠ .worker .pending) ∧
    (.dropStream ∉ us →
      ((h.feed.use .receive).1 = .found .closed ↔ h.feed.stream.queue = [] ∧ h.isOver = true) ∧
      ((h.feed.use .receive).1 = .found .closed → ∀ more, .dropStream ∉ more →
        ((h.run more).feed.use .receive).1 = .found .closed)) ∧
    (∃ n, h.firsts = (if canceledFirst us then [true] else []) ++ List.replicate n false) ∧
    (h.feed.use .asks).1 = .told (us.any Use.stops) ∧
    (h.feed.use .waits).1 = .told (us.any Use.stops) := by
  intro h all
  have huses : h.uses = us := uses_run (start events holds) us
  have hc : Controlled h := controlled_run (controlled_start events holds) us
  have hf : Flows events h :=
    flows_run (flows_start events holds) (controlled_start events holds) us
  have hr : Ranked h :=
    ranked_run (Or.inl ⟨rfl, rfl⟩) (controlled_start events holds) us
  have hflow : .dropStream ∉ us → h.received ++ h.feed.stream.queue = all := by
    intro hheld
    have hkept := hf.held (hc.isReceived.mpr (huses.symm ▸ hheld))
    rwa [sent, huses] at hkept
  refine ⟨?_, hflow, fun u => h.queue_use_cancel, ?_, ?_, ?_, ?_⟩
  · by_cases hheld : .dropStream ∈ us
    · have hlost : h.feed.stream.isReceived = false := by
        by_contra hreceived
        exact hc.isReceived.mp (eq_true_of_ne_false hreceived) (huses.symm ▸ hheld)
      have hpre := (hf.lost hlost).2
      rwa [sent, huses] at hpre
    · rw [← hflow hheld]
      exact List.prefix_append _ _
  · intro hstops
    refine hc.poll_of_cancelled ?_
    rw [hc.isCancelled, huses]
    exact hstops
  · intro hheld
    have hclosed := hc.closed_iff (huses.symm ▸ hheld)
    refine ⟨by rw [hclosed, hf.isOver], fun hnow more hmore => ?_⟩
    obtain ⟨hqueue, hgone⟩ := hclosed.mp hnow
    obtain ⟨hgone', hqueue'⟩ := spent_run hgone hqueue more
    refine ((controlled_run hc more).closed_iff ?_).mpr ⟨hqueue', hgone'⟩
    rw [uses_run, huses, List.mem_append, not_or]
    exact ⟨hheld, hmore⟩
  · rcases hr with ⟨hany, hnone⟩ | ⟨-, hsome⟩
    · rw [huses] at hany
      have hnobody := (canceledFirst_concat_of_not_any hany .poll).1
      exact ⟨0, by rw [hnone, hnobody]; rfl⟩
    · rw [huses] at hsome
      exact hsome
  · rw [← huses]
    exact hc.told

end Handling

end Dialogue.Event
