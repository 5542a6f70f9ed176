/-
A session does not get stuck.

A busy session becomes idle when the driver of its request ends, and the driver ends when it
has received what is queued and finds the stream closed, if no terminal event has ended it
before.  So all depends on the stream being closed at last.  A worker that was asked to stop
gives its end of the stream up at its next poll, whatever it has still to send; and a
session that is canceling has asked it.

The turn of the request does not stay behind.  The driver resolves it with its last fold, if
it is the turn that the fold finds; and no other turn of that id can wait beside it, because
every act writes to the store by its operations, and none of these makes a second turn wait.
-/
import Dialogue.Proofs.Session.Abort
import Dialogue.Proofs.Event.Stopping
import Dialogue.Proofs.Session.Coherence
import Dialogue.Proofs.Session.Watch
import Dialogue.Proofs.Store.History

namespace Dialogue

/-- The request when its worker has ended: it sends no more, and what it has sent stays. -/
def Request.unworked (r : Request) (c : Event.Cancellation) : Request :=
  { r with feed := { stream := { r.feed.stream with workerSends := false, cancellation := c }
                     worker := .gone } }

namespace Session

variable {s : Session}

/-! ### A session that is canceling has asked its request to stop -/

/-- The driver that is at work while the session is canceling finds its request stopped. -/
def Stopping (s : Session) : Prop :=
  s.phase = .canceling → ∀ r ∈ s.requests, r.isDriven = true → r.feed.stream.isCancelled = true

/-- Nobody who fills a stream takes the wish to stop back. -/
theorem Feeds.isCancelled {n : Nat} {feed feed' : Event.Feed} {a : Act}
    (h : Feeds n feed a feed') (hstop : feed.stream.isCancelled = true) :
    feed'.stream.isCancelled = true := by
  cases h with
  | works => rw [Event.Feed.isCancelled_pollWorker, hstop]
  | @emits e =>
    obtain ⟨queue, hsend⟩ := feed.stream.send_eq e
    rw [hsend]
    exact hstop
  | closes => exact hstop
  | stops => exact feed.stream.isCancelled_cancel

theorem Stopping.refeed (h : Stopping s) (hs : Sound s) {a : Act} {n : Nat}
    {g : Event.Feed → Event.Feed}
    (hfeeds : ∀ r, s.request? n = some r → Feeds n r.feed a (g r.feed)) :
    Stopping (s.refeed n g) := by
  intro hphase
  refine forall_updateRequest (h hphase) ?_
  rintro r hr rfl hd
  exact (hfeeds r (hs.request?_of_mem hr)).isCancelled (h hphase r hr hd)

theorem Stopping.setStream (h : Stopping s) (hs : Sound s) {n : Nat} {r : Request}
    (hr : s.request? n = some r) {found : Event.Reception} {stream : Event.Stream}
    (hrec : r.feed.stream.receive = (found, stream)) : Stopping (s.setStream n stream) := by
  intro hphase
  refine forall_updateRequest (h hphase) ?_
  intro r' hr' hn hd
  obtain rfl : r' = r := hs.eq_of_number hr' (request?_mem hr) (hn.trans (request?_number hr).symm)
  have hkept := receive_isCancelled r'.feed.stream
  rw [hrec] at hkept
  exact hkept.trans (h hphase r' hr' hd)

theorem Stopping.drive (h : Stopping s) (hs : Sound s) {n : Nat} {s' : Session}
    (hdrive : s.Drive n s') : Stopping s' := by
  cases hdrive with
  | ended => exact h
  | waits hr hd hrec | discards hr hd hrec | folds hr hd hrec => exact h.setStream hs hr hrec
  | ends hr hd | closes hr hd =>
    rw [finishDriver_eq (by exact hs.active_of_request? hr hd)]
    exact fun hphase => nomatch hphase

theorem Stopping.polled (h : Stopping s) (hs : Sound s) {c : Call} {stage : Stage}
    {r : Option Outcome × Session} (hpolled : s.Polled c stage r) : Stopping r.2 := by
  cases hpolled with
  | @aborts c a hc hp ha =>
    -- The session was not canceling, but whoever is driven is the request that is asked.
    intro hphase r' hr' hd
    obtain ⟨r, hr, rfl⟩ := List.mem_map.mp hr'
    by_cases hn : r.number = a.number
    · rw [if_pos hn]
      exact r.feed.stream.isCancelled_cancel
    · rw [if_neg hn] at hd
      have hslot := hs.active_of_driven hr hd
      rw [ha, Option.some.injEq] at hslot
      exact absurd (congrArg Active.number hslot.symm) hn
  | refused | waits | aborted | clears | found => exact h

theorem Stopping.submit (h : Stopping s) (feed : Event.Feed) (question : String) :
    Stopping (s.submit feed question).2 := by
  rcases s.submit_cases feed question with ⟨e, -, hs | hs⟩ | ⟨-, -, hs⟩
  · rw [hs]
    exact h
  · rw [hs]
    exact h
  · rw [hs]
    exact fun hphase => nomatch hphase

/-! ### At most one turn waits, whoever writes -/

/-- A step of a driver performs at most one operation of the store. -/
theorem written_drive {n : Nat} {s' : Session} (hdrive : s.Drive n s') :
    s.store.Written s'.store := by
  cases hdrive with
  | ended | waits | discards => exact .keeps
  | @folds r e => exact .performs (.fold r.turn (·.accumulate e))
  | @ends r e =>
    rw [store_finishDriver]
    exact .performs (.fold r.turn (·.accumulate e))
  | @closes r =>
    rw [store_finishDriver]
    exact .performs (.fold r.turn (s.resolution r))

theorem written_submit (s : Session) (feed : Event.Feed) (question : String) :
    s.store.Written (s.submit feed question).2.store := by
  rcases s.submit_cases feed question with ⟨e, -, hs | hs⟩ | ⟨-, hnone, hs⟩
  · rw [hs]
    exact .keeps
  · rw [hs]
    exact .keeps
  · have hwritten := Store.Written.performs (s := s.store) (.append s.mint.take.1 question)
    rw [Store.perform, Store.append_of_no_pending hnone] at hwritten
    rw [hs]
    exact hwritten

theorem written_write (s : Session) (w : Write) : s.store.Written (s.write w).store := by
  cases w with
  | append question =>
    have hwritten := Store.Written.performs (s := s.store) (.append s.mint.take.1 question)
    cases happend : s.store.append s.mint.take.1 question with
    | error e =>
      simp only [write, happend]
      exact .keeps
    | ok store =>
      simp only [Store.perform, happend] at hwritten
      simp only [write, happend]
      exact hwritten
  | fold id f => exact .performs (.fold id f)
  | reset => exact .performs .reset
  | replace chatId turns =>
    rw [write]
    split
    · exact .performs (.replace chatId turns)
    · exact .keeps
  | setChatId chatId => exact .performs (.setChatId chatId)
  | mint => exact .keeps

/-- What holds of every state, however the store is written to. -/
structure Orderly (s : Session) : Prop extends Sound s where
  stopping : Stopping s
  atMostOne : s.store.conversation.pendingCount ≤ 1

/-! ### A session that is free again -/

/-- The session is free for the next question, and the turn is done with. -/
structure Released (id : TurnId) (s : Session) : Prop where
  idle : s.phase = .idle
  inactive : s.active = none
  /-- The turn has left the store, or it is resolved. -/
  settled : s.store.conversation.Settled id

/-- The driver of the active request ends with a fold that resolves the turn. -/
theorem released_finishDriver (hone : s.store.conversation.pendingCount ≤ 1) {r : Request}
    (ha : s.active = some r.slot) {f : Turn → Turn} (hf : ∀ t, (f t).isPending = false) :
    Released r.turn ((s.fold r.turn f).finishDriver r) := by
  rw [finishDriver_eq (by exact ha)]
  exact ⟨rfl, rfl, Store.settled_foldPending_of_resolves hone r.turn hf⟩

end Session

namespace Scene

open Session

/-! ### Every run -/

theorem stopping_act {s : Scene} (hs : Sound s.session) (h : Stopping s.session) (a : Act) :
    Stopping (s.act a).session := by
  have hacted := s.act_acted a
  generalize (s.act a).session = s' at hacted
  cases hacted with
  | idles | reopens => exact h
  | asks => exact h.submit _ _
  | polls hpolled => exact h.polled hs hpolled
  | refeeds hfeeds => exact h.refeed hs hfeeds
  | drives hdrive => exact h.drive hs hdrive
  | @writes w =>
    obtain ⟨store, mint, hwrite⟩ := s.session.write_eq w
    rw [hwrite]
    exact h

/-- Every act performs at most one operation of the store. -/
theorem written_act (s : Scene) (a : Act) :
    s.session.store.Written (s.act a).session.store := by
  have hacted := s.act_acted a
  generalize (s.act a).session = s' at hacted
  cases hacted with
  | idles | refeeds => exact .keeps
  | asks => exact s.session.written_submit ..
  | polls hpolled =>
    cases hpolled with
    | refused | aborts | waits | aborted | found => exact .keeps
    | clears => exact .performs .reset
  | @reopens chatId reply =>
    cases reply with
    | error failure => exact .keeps
    | ok history => exact .performs (.replace _ _)
  | drives hdrive => exact written_drive hdrive
  | writes => exact s.session.written_write _

theorem orderly_start (message : String) : Orderly (start message).session :=
  { sound_start message with
    stopping := fun hphase => nomatch hphase
    atMostOne := Nat.zero_le 1 }

theorem orderly_act {s : Scene} (h : Orderly s.session) (a : Act) : Orderly (s.act a).session :=
  { sound_act h.toSound a with
    stopping := stopping_act h.toSound h.stopping a
    atMostOne := (s.written_act a).pendingCount_le h.atMostOne }

theorem orderly_run {s : Scene} (h : Orderly s.session) (acts : List Act) :
    Orderly (s.run acts).session :=
  run_induction (P := fun s => Orderly s.session) (fun _ a (_ : True) hs => orderly_act hs a) h acts
    fun _ _ => trivial

/-! ### Where a request comes from -/

theorem active_act {s : Scene} (hs : Sound s.session) {a : Act} {active : Active}
    (h : (s.act a).session.active = some active) :
    s.session.active = some active ∨ ∃ feed question, a = .submit feed question ∧
      (s.session.submit feed question).1 = .ok active.turn ∧
      active.number = s.session.requests.length + 1 := by
  have hmoves := moves_act hs a
  generalize (s.act a).session = s' at h hmoves
  cases hmoves with
  | stays hsame => exact Or.inl (hsame.symm.trans h)
  | ends hnone => exact absurd (hnone.symm.trans h) (by simp)
  | @begins feed question id s' hnew hlength hok =>
    obtain rfl := Option.some.inj (hnew.symm.trans h)
    exact Or.inr ⟨feed, question, rfl, hok, rfl⟩

/-- The request came with these acts: the first ones, the question, and all that followed. -/
structure Asked (s : Scene) (active : Active) (acts before : List Act) (feed : Event.Feed)
    (question : String) (after : List Act) : Prop where
  acts_eq : acts = before ++ .submit feed question :: after
  accepted : ((s.run before).session.submit feed question).1 = .ok active.turn
  number_eq : active.number = (s.run before).session.requests.length + 1

theorem asked_run (acts : List Act) : ∀ {s : Scene}, Sound s.session → ∀ {active : Active},
    (s.run acts).session.active = some active → s.session.active = some active ∨
      ∃ before feed question after, Asked s active acts before feed question after := by
  induction acts with
  | nil => exact fun _ _ h => Or.inl h
  | cons a acts ih =>
    intro s hs active h
    rcases ih (sound_act hs a) h with hactive | ⟨before, feed, question, after, hasked⟩
    · rcases active_act hs hactive with hactive | ⟨feed, question, rfl, hok, hnumber⟩
      · exact Or.inl hactive
      · exact Or.inr ⟨[], feed, question, acts, rfl, hok, hnumber⟩
    · refine Or.inr ⟨a :: before, feed, question, after, ?_, hasked.accepted, hasked.number_eq⟩
      rw [hasked.acts_eq, List.cons_append]

/-! ### A worker that notices that it is asked to stop -/

theorem Leaves.heeds {n : Nat} {feed feed' : Event.Feed} {a : Act} (h : Leaves n feed a feed')
    (hheeds : feed.Heeds) : feed'.Heeds := by
  cases h with
  | same => exact hheeds
  | aborted => exact hheeds.cancel
  | fed hfeeds =>
    cases hfeeds with
    | works => exact hheeds.pollWorker
    | emits => exact hheeds.send _
    | closes => exact hheeds.close
    | stops => exact hheeds.cancel

theorem heeds_act {s : Scene} (hs : Sound s.session) {n : Nat} {r : Request}
    (hr : s.session.request? n = some r) (h : r.feed.Heeds) (a : Act) :
    ∃ r', (s.act a).session.request? n = some r' ∧ r'.feed.Heeds := by
  obtain ⟨r', hr', hbecomes⟩ := request?_becomes hs hr a
  refine ⟨r', hr', ?_⟩
  cases hbecomes with
  | leaves hleaves => exact hleaves.heeds h
  | receives hrec => exact h.received hrec
  | ends hrec => exact (h.received hrec).drop

/-- A request that came with a new feed has a worker that can be stopped. -/
theorem Asked.heeds {s : Scene} (hs : Sound s.session) {active : Active}
    {acts before after : List Act} {feed : Event.Feed} {question : String}
    (h : Asked s active acts before feed question after) (hnew : feed.IsNew) {r : Request}
    (hr : (s.run acts).session.request? active.number = some r) : r.feed.Heeds := by
  have hbefore : Sound (s.run before).session := sound_run hs before
  have hfirst := request?_submit_new hbefore h.accepted
  rw [← h.number_eq] at hfirst
  obtain ⟨r', hr', hheeds⟩ := request?_run (P := fun r => r.feed.Heeds)
    (fun a hs hr h => heeds_act hs hr h a) (s := (s.run before).act (.submit feed question)) after
    (sound_act hbefore _) hfirst hnew.heeds
  rw [h.acts_eq, run_append, run_cons, hr', Option.some.injEq] at hr
  exact hr ▸ hheeds

/-- The next poll of a worker that notices it ends the worker. -/
theorem work_unworked {s : Scene} {n : Nat} {r : Request} (hr : s.session.request? n = some r)
    (h : r.feed.Heeds) (hstop : r.feed.stream.isCancelled = true) :
    (r.feed.worker ≠ .gone → r.feed.pollWorker.1 = .finished) ∧
      ∃ c, (s.act (.work n)).session.request? n = some (r.unworked c) := by
  have hwork : (s.act (.work n)).session.request? n =
      some { r with feed := r.feed.pollWorker.2 } :=
    request?_refeed_self hr fun feed => feed.pollWorker.2
  by_cases hworker : r.feed.worker = .gone
  · refine ⟨fun hworks => absurd hworker hworks, r.feed.stream.cancellation, ?_⟩
    have hgone : r.feed.pollWorker = (.gone, r.feed) := by
      simp only [Event.Feed.pollWorker, hworker]
    rw [hwork, hgone, Request.unworked, ← h.quits hworker, ← hworker]
  · obtain ⟨c, hpoll⟩ := h.pollWorker_of_stopped hstop hworker
    rw [hpoll] at hwork
    exact ⟨fun _ => by rw [hpoll], c, hwork⟩

/-! ### The driver alone -/

/-- Of a stream that nobody fills any more, each step of the driver receives one event that is
queued, or is its last. -/
theorem receive_released {s : Scene} (h : Orderly s.session) {n : Nat} {r : Request}
    (hr : s.session.request? n = some r) (hd : r.isDriven = true)
    (hclosed : r.feed.stream.isOpen = false) :
    Released r.turn (s.act (.receive n)).session ∨
      ∃ r', (s.act (.receive n)).session.request? n = some r' ∧ r'.isDriven = true ∧
        r'.turn = r.turn ∧ r'.feed.stream.isOpen = false ∧
        r.feed.stream.queue.length = r'.feed.stream.queue.length + 1 := by
  have hactive := h.active_of_request? hr hd
  obtain ⟨r', hr', hmet⟩ := receive_met h.toSound hr hd
  have hreceive := Event.Stream.receive_of_not_open hclosed
  generalize (s.act (.receive n)).session = s' at hmet hr' ⊢
  generalize s.hears n (.receive n) = new, s.findsClosedStopped n (.receive n) = closes at hmet
  have hqueue : ∀ {e stream}, r.feed.stream.receive = (.event e, stream) →
      stream.isOpen = false ∧ r.feed.stream.queue.length = stream.queue.length + 1 := by
    intro e stream hrec
    rw [hrec] at hreceive
    rcases hreceive with ⟨-, hnone⟩ | ⟨e', rest, hqueue, hsome⟩
    · exact absurd hnone (by simp)
    · rw [Prod.mk.injEq] at hsome
      rw [hsome.2, hqueue]
      exact ⟨hclosed, rfl⟩
  cases hmet with
  | waits hrec =>
    rw [hrec] at hreceive
    rcases hreceive with ⟨-, hnone⟩ | ⟨e, rest, -, hsome⟩
    · exact absurd hnone (by simp)
    · exact absurd hsome (by simp)
  | discards hrec | folds hrec => exact Or.inr ⟨_, hr', hd, rfl, hqueue hrec⟩
  | @ends e stream hrec hstop he =>
    refine Or.inl (released_finishDriver (by exact h.atMostOne) (by exact hactive) fun t => ?_)
    rw [Turn.accumulate_isPending, he, Bool.not_true, Bool.and_false]
  | closes hrec =>
    exact Or.inl (released_finishDriver (by exact h.atMostOne) (by exact hactive)
      (s.session.resolution_isPending r))

/-- The driver alone, receiving at most once more than there are events queued, sets the
session free. -/
def Drains (s : Scene) (n : Nat) (r : Request) : Prop :=
  ∃ k ≤ r.feed.stream.queue.length + 1,
    Released r.turn (s.run (List.replicate k (.receive n))).session

theorem drains_of_closed {n m : Nat} : ∀ {s : Scene}, Orderly s.session → ∀ {r : Request},
    s.session.request? n = some r → r.isDriven = true → r.feed.stream.isOpen = false →
    r.feed.stream.queue.length = m → s.Drains n r := by
  induction m with
  | zero =>
    intro s h r hr hd hclosed hlength
    rcases receive_released h hr hd hclosed with hreleased | ⟨r', -, -, -, -, hmore⟩
    · exact ⟨1, by omega, hreleased⟩
    · omega
  | succ m ih =>
    intro s h r hr hd hclosed hlength
    rcases receive_released h hr hd hclosed with hreleased | ⟨r', hr', hd', hturn, hclosed', hmore⟩
    · exact ⟨1, by omega, hreleased⟩
    · obtain ⟨k, hk, hreleased⟩ := ih (orderly_act h _) hr' hd' hclosed' (by omega)
      refine ⟨k + 1, by omega, ?_⟩
      rw [← hturn]
      exact hreleased

/-- **A session cannot get stuck.**  While it is busy there is an active request, and if the
session is canceling, the request was asked to stop.  If the request was asked to stop and
came with a new feed, the next poll of its worker ends the worker, and nothing but the end of
the stream that the worker holds is lost by that.  Once nobody holds an end, the driver alone
sets the session free, with at most one step more than there are events queued. -/
theorem never_stuck (message : String) (acts : List Act) :
    let s := (start message).run acts
    s.session.phase ≠ .idle →
    ∃ active r, s.session.active = some active ∧ s.session.request? active.number = some r ∧
      r.turn = active.turn ∧ (s.session.phase = .canceling → r.feed.stream.isCancelled = true) ∧
      (∃ before feed question after,
        Asked (start message) active acts before feed question after) ∧
      (∀ before feed question after, Asked (start message) active acts before feed question after →
        feed.IsNew → r.feed.stream.isCancelled = true →
        (r.feed.worker ≠ .gone → r.feed.pollWorker.1 = .finished) ∧
          ∃ c, (s.act (.work active.number)).session.request? active.number =
              some (r.unworked c) ∧
            (r.feed.stream.othersSend = false →
              (s.act (.work active.number)).Drains active.number (r.unworked c))) ∧
      (r.feed.stream.isOpen = false → s.Drains active.number r) := by
  intro s hbusy
  have h : Orderly s.session := orderly_run (orderly_start message) acts
  have hsome : s.session.active ≠ none := fun hnone => hbusy (h.idle_iff.mpr hnone)
  obtain ⟨active, hactive⟩ := Option.ne_none_iff_exists'.mp hsome
  obtain ⟨r, hr, hd, rfl⟩ := h.driven_of_active hactive
  have hasked : ∃ before feed question after,
      Asked (start message) r.slot acts before feed question after := by
    rcases asked_run acts (sound_start message) hactive with hnever | hasked
    · exact absurd hnever (by simp [start])
    · exact hasked
  refine ⟨r.slot, r, hactive, hr, rfl, fun hphase => h.stopping hphase r (request?_mem hr) hd,
    hasked, ?_, fun hclosed => drains_of_closed h hr hd hclosed rfl⟩
  intro before feed question after hcame hnew hstop
  have hheeds : r.feed.Heeds := hcame.heeds (sound_start message) hnew hr
  obtain ⟨hreply, c, hquit⟩ := work_unworked hr hheeds hstop
  refine ⟨hreply, c, hquit, fun hothers => ?_⟩
  exact drains_of_closed (orderly_act h _) hquit hd (by exact hothers) rfl

/-- The worker holds its stream open for ever, and an abort begins while it waits and a piece
of the answer is queued. -/
def stoppedMidAnswer : List Act :=
  [.submit { worker := .working { batches := [[.chunk "Hel"]], holds := true } } "Why?",
    .work 1, .call .abort, .poll 0]

/-- One poll of the worker and two steps of the driver, and the session is free. -/
theorem never_stuck_stoppedMidAnswer :
    let s := (start "stopped").run stoppedMidAnswer
    s.session.phase = .canceling ∧
      ∃ k ≤ 2, Released ⟨0⟩ ((s.act (.work 1)).run (List.replicate k (.receive 1))).session := by
  intro s
  refine ⟨by decide, ?_⟩
  obtain ⟨active, r, hactive, hr, hturn, hstopped, -, hworker, -⟩ :=
    never_stuck "stopped" stoppedMidAnswer (by decide)
  obtain rfl : active = ⟨1, ⟨0⟩⟩ := Option.some.inj (hactive.symm.trans rfl)
  obtain rfl := Option.some.inj (hr.symm.trans rfl)
  obtain ⟨-, c, -, hdrains⟩ :=
    hworker [] _ "Why?" _ ⟨rfl, by decide, rfl⟩ ⟨rfl, by simp⟩ (hstopped (by decide))
  exact hdrains rfl

end Scene

end Dialogue
