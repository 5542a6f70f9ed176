/-
What a step of a session can do.

The driver of a request, the poll of a call and a question go through many branches.
`Drive`, `Polled` and `Submitted` list what comes of them, one constructor for each outcome
with what led to it; `driverStep_drive`, `poll_polled` and `submit_submitted` say that there
is nothing else.  `Acted` does the same for acts, and `act_acted` is all that proofs about
runs have to know of them.

Workers, and all who fill a stream, change nothing of a request but its feed, and no write
to the store changes anything but the store and what was minted.  So these are one case
each: `refeeds` and `writes`.
-/
import Dialogue.Proofs.Session.Run
import Dialogue.Proofs.Store

namespace Dialogue

/-- What the session keeps of a request that it is busy with. -/
def Request.slot (r : Request) : Active := ⟨r.number, r.turn⟩

/-- The request with this stream in the place of its own. -/
def Request.withStream (r : Request) (stream : Event.Stream) : Request :=
  { r with feed := { r.feed with stream } }

/-- The request when its driver has ended: the stream is dropped. -/
def Request.undriven (r : Request) : Request :=
  { r with feed := { r.feed with stream := r.feed.stream.drop }, isDriven := false }

namespace Session

/-! ### Requests by number -/

theorem request?_number {s : Session} {n : Nat} {r : Request} (h : s.request? n = some r) :
    r.number = n := by simpa using List.find?_some h

theorem request?_mem {s : Session} {n : Nat} {r : Request} (h : s.request? n = some r) :
    r ∈ s.requests := List.mem_of_find?_eq_some h

/-- A change of one request leaves the others, and is seen where that one is looked up. -/
theorem request?_updateRequest {s : Session} {f : Request → Request}
    (hf : ∀ r, (f r).number = r.number) (n k : Nat) :
    (s.updateRequest k f).request? n = (s.request? n).map fun r => if n = k then f r else r := by
  unfold request? updateRequest
  rw [List.find?_map]
  have hsame : ((fun r : Request => decide (r.number = n)) ∘
      fun r => if r.number = k then f r else r) = fun r => decide (r.number = n) := by
    funext r
    by_cases hk : r.number = k <;> simp [hk, hf]
  rw [hsame]
  cases h : s.requests.find? fun r => decide (r.number = n) with
  | none => rfl
  | some r =>
    have hr : r.number = n := by simpa using List.find?_some h
    simp [hr]

/-- What holds of every request, holds after a change of one that keeps it. -/
theorem forall_updateRequest {s : Session} {P : Request → Prop} (h : ∀ r ∈ s.requests, P r)
    {n : Nat} {f : Request → Request} (hf : ∀ r ∈ s.requests, r.number = n → P (f r)) :
    ∀ r ∈ (s.updateRequest n f).requests, P r := by
  intro r' hr'
  obtain ⟨r, hr, rfl⟩ := List.mem_map.mp hr'
  by_cases hn : r.number = n
  · rw [if_pos hn]
    exact hf r hr hn
  · rw [if_neg hn]
    exact h r hr

/-- Changes the feed of a request. -/
def refeed (s : Session) (n : Nat) (g : Event.Feed → Event.Feed) : Session :=
  s.updateRequest n fun r => { r with feed := g r.feed }

/-- Puts a stream in the place of a request's. -/
def setStream (s : Session) (n : Nat) (stream : Event.Stream) : Session :=
  s.refeed n fun feed => { feed with stream }

/-! ### The driver -/

/-- The end of a driver is no matter of the store. -/
@[simp] theorem store_finishDriver (s : Session) (r : Request) :
    (s.finishDriver r).store = s.store := by
  unfold finishDriver
  simp only
  split <;> rfl

@[simp] theorem canceledMessage_finishDriver (s : Session) (r : Request) :
    (s.finishDriver r).canceledMessage = s.canceledMessage := by
  unfold finishDriver
  simp only
  split <;> rfl

@[simp] theorem mint_finishDriver (s : Session) (r : Request) :
    (s.finishDriver r).mint = s.mint := by
  unfold finishDriver
  simp only
  split <;> rfl

@[simp] theorem requests_finishDriver (s : Session) (r : Request) :
    (s.finishDriver r).requests = (s.updateRequest r.number Request.undriven).requests := by
  unfold finishDriver
  simp only
  split <;> rfl

/-- The ways in which a step of the driver of a request can go. -/
inductive Drive (s : Session) (n : Nat) : Session → Prop
  /-- There is no such request, or its driver has ended. -/
  | ended (h : ∀ r, s.request? n = some r → r.isDriven = false) : Drive s n s
  /-- Nothing has come, and more may come. -/
  | waits {r stream} (hr : s.request? n = some r) (hd : r.isDriven = true)
      (hrec : r.feed.stream.receive = (.pending, stream)) : Drive s n (s.setStream n stream)
  /-- An event comes after the request was asked to stop. -/
  | discards {r e stream} (hr : s.request? n = some r) (hd : r.isDriven = true)
      (hrec : r.feed.stream.receive = (.event e, stream))
      (hstop : r.feed.stream.isCancelled = true) : Drive s n (s.setStream n stream)
  | folds {r e stream} (hr : s.request? n = some r) (hd : r.isDriven = true)
      (hrec : r.feed.stream.receive = (.event e, stream))
      (hstop : r.feed.stream.isCancelled = false) (he : e.isTerminal = false) :
      Drive s n ((s.setStream n stream).fold r.turn (·.accumulate e))
  | ends {r e stream} (hr : s.request? n = some r) (hd : r.isDriven = true)
      (hrec : r.feed.stream.receive = (.event e, stream))
      (hstop : r.feed.stream.isCancelled = false) (he : e.isTerminal = true) :
      Drive s n (((s.setStream n stream).fold r.turn (·.accumulate e)).finishDriver r)
  /-- Nothing has come, and nothing will. -/
  | closes {r stream} (hr : s.request? n = some r) (hd : r.isDriven = true)
      (hrec : r.feed.stream.receive = (.closed, stream)) :
      Drive s n (((s.setStream n stream).fold r.turn (s.resolution r)).finishDriver r)

theorem receive_isCancelled (stream : Event.Stream) :
    stream.receive.2.isCancelled = stream.isCancelled := by
  unfold Event.Stream.receive
  split <;> rfl

theorem driverStep_drive (s : Session) (n : Nat) : s.Drive n (s.driverStep n) := by
  cases hr : s.request? n with
  | none =>
    simp only [driverStep, hr]
    exact .ended (by simp [hr])
  | some r =>
    cases hd : r.isDriven with
    | false =>
      simp only [driverStep, hr, hd, Bool.not_false, if_true]
      exact .ended (by simp [hr, hd])
    | true =>
      rcases hrec : r.feed.stream.receive with ⟨reception, stream⟩
      simp only [driverStep, hr, hd, hrec]
      cases reception with
      | pending => exact .waits hr hd hrec
      | closed => exact .closes hr hd hrec
      | event e =>
        have hkept := receive_isCancelled r.feed.stream
        rw [hrec] at hkept
        rw [hkept]
        cases hstop : r.feed.stream.isCancelled with
        | true => exact .discards hr hd hrec hstop
        | false =>
          cases he : e.isTerminal with
          | false =>
            simp only [he, Bool.not_true, Bool.false_eq_true, if_false]
            exact .folds hr hd hrec hstop he
          | true =>
            simp only [he, Bool.not_true, Bool.false_eq_true, if_false, if_true]
            exact .ends hr hd hrec hstop he

/-! ### Calls -/

/-- The ways in which a poll of a call can go, with what the call answers. -/
inductive Polled (s : Session) : Call → Stage → Option Outcome × Session → Prop
  /-- An abort finds nothing to abort. -/
  | refused (h : s.phase ≠ .streaming ∨ s.active = none) :
      Polled s .abort .fresh (some (.aborted false), s)
  /-- The active request is asked to stop. -/
  | aborts {c a} (hc : c = .abort ∨ c = .newChat) (hp : s.phase = .streaming)
      (ha : s.active = some a) :
      Polled s c .fresh (none, (s.setPhase .canceling).refeed a.number fun feed =>
        { feed with stream := feed.stream.cancel.2 })
  | waits {c stage} (hc : c = .abort → stage = .waiting) (h : s.phase ≠ .idle) :
      Polled s c stage (none, s)
  | aborted (h : s.phase = .idle) : Polled s .abort .waiting (some (.aborted true), s)
  | clears {stage} (h : s.phase = .idle) :
      Polled s .newChat stage (some .finished, { s with store := s.store.reset })
  | found {stage} (h : s.phase = .idle) : Polled s .waitIdle stage (some .finished, s)

/-- Waiting for idleness, which an abort does only after it has begun. -/
theorem pollWaiting_polled (s : Session) {c : Call} {stage : Stage}
    (hc : c = .abort → stage = .waiting) : s.Polled c stage (s.pollWaiting c) := by
  by_cases h : s.phase = .idle
  · unfold pollWaiting
    rw [if_pos h]
    cases c with
    | abort =>
      rw [hc rfl]
      exact .aborted h
    | newChat => exact .clears h
    | waitIdle => exact .found h
  · unfold pollWaiting
    rw [if_neg h]
    exact .waits hc h

theorem beginAbort_eq (s : Session) :
    (∃ a, s.phase = .streaming ∧ s.active = some a ∧
        s.beginAbort = (true, (s.setPhase .canceling).cancelRequest a.number)) ∨
      (s.phase ≠ .streaming ∨ s.active = none) ∧ s.beginAbort = (false, s) := by
  unfold beginAbort
  split
  · rename_i a hp ha
    exact Or.inl ⟨a, hp, ha, rfl⟩
  · rename_i h
    refine Or.inr ⟨?_, rfl⟩
    by_contra hcon
    rw [not_or, not_not] at hcon
    obtain ⟨a, ha⟩ := Option.ne_none_iff_exists'.mp hcon.2
    exact h a hcon.1 ha

theorem poll_polled (s : Session) (c : Call) (stage : Stage) :
    s.Polled c stage (s.poll c stage) := by
  cases stage with
  | waiting => exact s.pollWaiting_polled fun _ => rfl
  | fresh =>
    cases c with
    | waitIdle => exact s.pollWaiting_polled (by simp)
    | abort =>
      rcases s.beginAbort_eq with ⟨a, hp, ha, hbegin⟩ | ⟨h, hbegin⟩
      · simp only [poll, hbegin]
        exact .aborts (Or.inl rfl) hp ha
      · simp only [poll, hbegin]
        exact .refused h
    | newChat =>
      rcases s.beginAbort_eq with ⟨a, hp, ha, hbegin⟩ | ⟨h, hbegin⟩
      · simp only [poll, hbegin]
        exact .aborts (Or.inr rfl) hp ha
      · simp only [poll, hbegin]
        exact s.pollWaiting_polled (by simp)

/-! ### Asking -/

/-- The ways in which a question can go, with what is answered and the session that is left. -/
inductive Submitted (s : Session) (feed : Event.Feed) (question : String) :
    Except SubmitError TurnId × Session → Prop
  | blank (hblank : Text.isBlankText question = true) :
      Submitted s feed question (.error .emptyQuestion, s)
  | busy (hblank : ¬ Text.isBlankText question = true) (hphase : s.phase ≠ .idle) :
      Submitted s feed question (.error (.busy s.phase), s)
  /-- A turn is pending, which somebody else has put into the store. -/
  | barred {t} (hblank : ¬ Text.isBlankText question = true) (hphase : s.phase = .idle)
      (ht : s.store.conversation.pendingTurn? = some t) :
      Submitted s feed question
        (.error (.notRecorded (.pendingTurn t.id)), { s with mint := s.mint.take.2 })
  | taken (hblank : ¬ Text.isBlankText question = true) (hphase : s.phase = .idle)
      (hnone : s.store.conversation.pendingTurn? = none) :
      Submitted s feed question (.ok s.mint.take.1, { s with
        store := s.store.publish { s.store.conversation with
          turns := s.store.conversation.turns ++ [Turn.pending s.mint.take.1 question] }
        mint := s.mint.take.2
        phase := .streaming
        phaseEdition := s.phaseEdition + 1
        active := some ⟨s.requests.length + 1, s.mint.take.1⟩
        requests := s.requests ++ [{
          number := s.requests.length + 1, turn := s.mint.take.1, feed,
          asked := { question, chatId := s.store.conversation.chatId } }] })

section

variable {s : Session} {feed : Event.Feed} {question : String}

theorem submit_of_blank (h : Text.isBlankText question = true) :
    s.submit feed question = (.error .emptyQuestion, s) := by simp [submit, h]

theorem submit_of_busy (hblank : ¬ Text.isBlankText question = true) (hphase : s.phase ≠ .idle) :
    s.submit feed question = (.error (.busy s.phase), s) := by simp [submit, hblank, hphase]

/-- A turn that is pending already keeps the question out, whoever put it there. -/
theorem submit_of_pending (hblank : ¬ Text.isBlankText question = true) (hphase : s.phase = .idle)
    {t : Turn} (ht : s.store.conversation.pendingTurn? = some t) :
    s.submit feed question =
      (.error (.notRecorded (.pendingTurn t.id)), { s with mint := s.mint.take.2 }) := by
  simp [submit, hblank, hphase, Store.append, ht]

theorem submit_of_ready (hblank : ¬ Text.isBlankText question = true) (hphase : s.phase = .idle)
    (hnone : s.store.conversation.pendingTurn? = none) :
    s.submit feed question = (.ok s.mint.take.1, { s with
      store := s.store.publish { s.store.conversation with
        turns := s.store.conversation.turns ++ [Turn.pending s.mint.take.1 question] }
      mint := s.mint.take.2
      phase := .streaming
      phaseEdition := s.phaseEdition + 1
      active := some ⟨s.requests.length + 1, s.mint.take.1⟩
      requests := s.requests ++ [{
        number := s.requests.length + 1, turn := s.mint.take.1, feed,
        asked := { question, chatId := s.store.conversation.chatId } }] }) := by
  simp [submit, hblank, hphase, Store.append, hnone, Store.publish]

theorem submit_submitted (s : Session) (feed : Event.Feed) (question : String) :
    s.Submitted feed question (s.submit feed question) := by
  by_cases hblank : Text.isBlankText question = true
  · rw [submit_of_blank hblank]
    exact .blank hblank
  by_cases hphase : s.phase = .idle
  · cases hfirst : s.store.conversation.pendingTurn? with
    | some t =>
      rw [submit_of_pending hblank hphase hfirst]
      exact .barred hblank hphase hfirst
    | none =>
      rw [submit_of_ready hblank hphase hfirst]
      exact .taken hblank hphase hfirst
  · rw [submit_of_busy hblank hphase]
    exact .busy hblank hphase

end

/-- A question is refused, or one turn and one request are appended and the session is busy
with them from then on. -/
theorem submit_cases (s : Session) (feed : Event.Feed) (question : String) :
    (∃ e, (s.submit feed question).1 = .error e ∧
        ((s.submit feed question).2 = s ∨ (s.submit feed question).2 = { s with mint := s.mint.take.2 })) ∨
      s.phase = .idle ∧ s.store.conversation.pendingTurns = [] ∧
        s.submit feed question = (.ok s.mint.take.1, { s with
          store := s.store.publish { s.store.conversation with
            turns := s.store.conversation.turns ++ [Turn.pending s.mint.take.1 question] }
          mint := s.mint.take.2
          phase := .streaming
          phaseEdition := s.phaseEdition + 1
          active := some ⟨s.requests.length + 1, s.mint.take.1⟩
          requests := s.requests ++ [{
            number := s.requests.length + 1, turn := s.mint.take.1, feed,
            asked := { question, chatId := s.store.conversation.chatId } }] }) := by
  have hsubmitted := s.submit_submitted feed question
  generalize s.submit feed question = r at hsubmitted ⊢
  cases hsubmitted with
  | blank | busy => exact Or.inl ⟨_, rfl, Or.inl rfl⟩
  | barred => exact Or.inl ⟨_, rfl, Or.inr rfl⟩
  | taken hblank hphase hnone =>
    exact Or.inr ⟨hphase, List.filter_eq_nil_iff.mpr (List.find?_eq_none.mp hnone), rfl⟩

/-! ### Acts -/

/-- No write to the store reaches the session. -/
theorem write_eq (s : Session) (w : Write) : ∃ store mint, s.write w = { s with store, mint } := by
  cases w with
  | append question =>
    cases happend : s.store.append s.mint.take.1 question with
    | error e => exact ⟨s.store, s.mint.take.2, by simp only [write, happend]⟩
    | ok store => exact ⟨store, s.mint.take.2, by simp only [write, happend]⟩
  | replace chatId turns =>
    by_cases hknown : turns.all (·.id.serial < s.mint.next) = true
    · exact ⟨s.store.replace chatId turns, s.mint, by rw [write, if_pos hknown]⟩
    · exact ⟨s.store, s.mint, by rw [write, if_neg hknown]⟩
  | fold | reset | setChatId | mint => exact ⟨_, _, rfl⟩

/-- What an act does to the feed of a request, if it is no reception of its driver. -/
inductive Feeds (n : Nat) (feed : Event.Feed) : Act → Event.Feed → Prop
  | works : Feeds n feed (.work n) feed.pollWorker.2
  | emits {e} : Feeds n feed (.emit n e) { feed with stream := (feed.stream.send e).2 }
  | closes : Feeds n feed (.close n) { feed with stream := feed.stream.close }
  | stops : Feeds n feed (.stop n) { feed with stream := feed.stream.cancel.2 }

/-- The ways in which an act can go. -/
inductive Acted (s : Session) : Act → Session → Prop
  | idles {a} : Acted s a s
  | asks {feed question} : Acted s (.submit feed question) (s.submit feed question).2
  | polls {i c stage r} (h : s.Polled c stage r) : Acted s (.poll i) r.2
  | reopens {chatId reply} : Acted s (.reopen chatId reply) (s.reopen chatId reply)
  | refeeds {a n} {g : Event.Feed → Event.Feed}
      (h : ∀ r, s.request? n = some r → Feeds n r.feed a (g r.feed)) : Acted s a (s.refeed n g)
  | drives {n s'} (h : s.Drive n s') : Acted s (.receive n) s'
  | writes {w} : Acted s (.write w) (s.write w)

end Session

theorem Scene.act_acted (s : Scene) (a : Act) : s.session.Acted a (s.act a).session := by
  cases a with
  | submit feed question => exact .asks
  | call c => exact .idles
  | poll i =>
    simp only [act, poll]
    split
    · exact .polls (s.session.poll_polled ..)
    · exact .idles
  | reopen chatId reply => exact .reopens
  | work n => exact Session.Acted.refeeds (g := fun feed => feed.pollWorker.2) fun _ _ => .works
  | emit n e =>
    simp only [act, Session.emit]
    split
    · exact .idles
    · rename_i r hr
      split
      · refine Session.Acted.refeeds
          (g := fun feed => { feed with stream := (r.feed.stream.send e).2 }) fun r' hr' => ?_
        rw [hr, Option.some.injEq] at hr'
        rw [hr']
        exact .emits
      · exact .idles
  | close n =>
    simp only [act, Session.closeStream]
    split
    · exact .idles
    · exact Session.Acted.refeeds (g := fun feed => { feed with stream := feed.stream.close })
        fun _ _ => .closes
  | stop n =>
    exact Session.Acted.refeeds (g := fun feed => { feed with stream := feed.stream.cancel.2 })
      fun _ _ => .stops
  | receive n => exact .drives (s.session.driverStep_drive n)
  | write w => exact .writes

end Dialogue
