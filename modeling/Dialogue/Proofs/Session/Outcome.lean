/-
How a request ends.

A terminal event, the wish to stop and the end of the stream can come in any order, and
even at once: a terminal event may still be queued when the request is asked to stop.
What decides is what the driver meets first.  As long as it is at work it has met no
terminal event, and the turn is what the events heard so far make of it (`underway`).  The
step in which it ends settles the turn, and from then on it touches nothing (`ended`), so no
second outcome can follow.

All of this is about one turn.  It holds in a run in which nobody else writes to that turn
or takes it out of the store, whatever becomes of the others.
-/
import Dialogue.Proofs.Session.Watch
import Dialogue.Proofs.Turn

namespace Dialogue

/-! ### The outcome of a turn -/

/-- What becomes of a turn: `heard` is what its driver received before the request was
asked to stop, and `stopped` tells whether it was asked before the stream was found closed. -/
def Turn.outcome (t : Turn) (heard : List Event) (stopped : Bool) (message : String) : Turn :=
  let cut := Event.upToTerminal heard
  if cut.2 then t.accumulateAll cut.1
  else if stopped then (t.accumulateAll heard).cancel message
  else t.accumulateAll (heard ++ [.failure unterminatedMessage])

namespace Turn

variable (t : Turn) (heard : List Event) (stopped : Bool) (message : String)

theorem outcome_id : (t.outcome heard stopped message).id = t.id := by
  simp only [outcome]
  split
  · exact accumulateAll_id ..
  · split
    · rw [cancel_id, accumulateAll_id]
    · exact accumulateAll_id ..

theorem outcome_question : (t.outcome heard stopped message).question = t.question := by
  simp only [outcome]
  split
  · exact accumulateAll_question ..
  · split
    · rw [cancel_question, accumulateAll_question]
    · exact accumulateAll_question ..

/-- Whatever happened, the turn does not wait any more. -/
theorem outcome_isPending : (t.outcome heard stopped message).isPending = false := by
  simp only [outcome]
  split
  · rename_i hend
    rw [Event.upToTerminal_snd] at hend
    rw [accumulateAll_isPending, Event.any_upToTerminal, hend, Bool.not_true, Bool.and_false]
  · split
    · exact cancel_isPending ..
    · rw [accumulateAll_isPending]
      simp [Event.isTerminal]

variable {heard}

theorem outcome_of_terminal (h : heard.any Event.isTerminal = false) {e : Event}
    (he : e.isTerminal = true) :
    t.outcome (heard ++ [e]) stopped message = (t.accumulateAll heard).accumulate e := by
  simp only [outcome, Event.upToTerminal_append_terminal h he, if_true, accumulateAll_concat]

theorem outcome_of_closed (h : heard.any Event.isTerminal = false) :
    t.outcome heard stopped message =
      if stopped then (t.accumulateAll heard).cancel message
      else (t.accumulateAll heard).accumulate (.failure unterminatedMessage) := by
  simp only [outcome, Event.upToTerminal_of_not_any h, Bool.false_eq_true, if_false,
    accumulateAll_concat]

end Turn

namespace Session

/-- The turn of an id, as the store has it. -/
def turn? (s : Session) (id : TurnId) : Option Turn := s.store.conversation.turn? id

variable {s : Session}

/-- A fold into a turn that waits. -/
theorem turn?_fold {id : TurnId} {t : Turn} (h : s.turn? id = some t) (hid : t.id = id)
    (hp : t.isPending = true) {f : Turn → Turn} (hf : ∀ t, (f t).id = t.id) :
    (s.fold id f).turn? id = some (f t) := by
  have hfold : (s.fold id f).turn? id = some { f t with id := id } :=
    Store.turn?_foldPending h hp f
  rw [hfold, ← hid, ← hf t]

theorem turn?_finishDriver (r : Request) (id : TurnId) :
    (s.finishDriver r).turn? id = s.turn? id := by
  rw [turn?, turn?, store_finishDriver]

/-- The turn of a question that was accepted. -/
theorem turn?_submit_new (h : Sound s) {feed : Event.Feed} {question : String} {id : TurnId}
    (hok : (s.submit feed question).1 = .ok id) :
    (s.submit feed question).2.turn? id = some (Turn.pending id question) := by
  rcases s.submit_cases feed question with ⟨e, he, -⟩ | ⟨-, -, hs⟩
  · rw [he] at hok
    exact absurd hok (by simp)
  · rw [hs] at hok ⊢
    rw [Except.ok.injEq] at hok
    have hnew : s.store.conversation.turns.find? (·.id = id) = none := by
      rw [List.find?_eq_none]
      intro t ht
      have hminted := h.minted t ht
      rw [← hok]
      simp only [decide_eq_true_eq]
      intro hid
      rw [hid] at hminted
      exact Nat.lt_irrefl _ hminted
    simp only [turn?, Conversation.turn?, Store.publish, List.find?_append, hnew, Option.none_or]
    simp [hok, Turn.pending]

theorem resolution_id (r : Request) (t : Turn) : (s.resolution r t).id = t.id := by
  unfold resolution
  split
  · exact Turn.cancel_id ..
  · exact Turn.accumulate_id ..

end Session

namespace Scene

open Session (Sound)

/-- Nobody but the driver of the request writes to the turn or takes it away. -/
def LeftAlone (n : Nat) (id : TurnId) : Scene → List Act → Prop
  | _, [] => True
  | s, a :: acts =>
    (a ≠ .receive n → (s.act a).session.turn? id = s.session.turn? id) ∧
      LeftAlone n id (s.act a) acts

/-- How it stands with a request: its turn was `t` at first, `heard` is what its driver has
received before it was asked to stop, and `stopped` tells whether its driver has found the
stream closed after that. -/
inductive Stand (n : Nat) (t : Turn) (message : String) (s : Session) :
    List Event → Bool → Prop
  | underway {r : Request} {heard : List Event} (hr : s.request? n = some r)
      (hturn : r.turn = t.id) (hd : r.isDriven = true)
      (hopen : heard.any Event.isTerminal = false)
      (ht : s.turn? t.id = some (t.accumulateAll heard)) : Stand n t message s heard false
  | ended {r : Request} {heard : List Event} {stopped : Bool} (hr : s.request? n = some r)
      (hd : r.isDriven = false)
      (ht : s.turn? t.id = some (t.outcome heard stopped message)) :
      Stand n t message s heard stopped

variable {n : Nat} {t : Turn} {message : String}

/-- A step of the driver: it goes on, or it ends and settles the turn. -/
theorem Stand.receive {s : Scene} {heard : List Event} {stopped : Bool} (hs : Sound s.session)
    (hp : t.isPending = true) (hm : s.session.canceledMessage = message)
    (h : Stand n t message s.session heard stopped) :
    Stand n t message (s.act (.receive n)).session (heard ++ s.hears n (.receive n))
      (stopped || s.findsClosedStopped n (.receive n)) := by
  cases h with
  | ended hr hd ht =>
    obtain ⟨hsame, hhears, hcloses⟩ := receive_of_ended hr hd
    rw [hsame, hhears, hcloses, List.append_nil, Bool.or_false]
    exact .ended hr hd ht
  | @underway r heard hr hturn hd hopen ht =>
    have hpending : (t.accumulateAll heard).isPending = true := by
      rw [Turn.accumulateAll_isPending, hp, hopen]
      rfl
    -- What the driver folds in, it folds into this turn.
    have hfold : ∀ {f : Turn → Turn}, (∀ u, (f u).id = u.id) → ∀ stream,
        ((s.session.setStream n stream).fold r.turn f).turn? t.id =
          some (f (t.accumulateAll heard)) := by
      intro f hf stream
      rw [hturn]
      exact Session.turn?_fold (s := s.session.setStream n stream) ht (Turn.accumulateAll_id ..)
        hpending hf
    obtain ⟨r', hr', hmet⟩ := receive_met hs hr hd
    generalize (s.act (.receive n)).session = s', s.hears n (.receive n) = new,
      s.findsClosedStopped n (.receive n) = closes at hr' hmet
    cases hmet with
    | waits | discards =>
      rw [List.append_nil]
      exact .underway hr' hturn hd hopen ht
    | @folds e stream hrec hstop he =>
      refine .underway hr' hturn hd ?_ ?_
      · simp [hopen, he]
      · rw [Turn.accumulateAll_concat]
        exact hfold (Turn.accumulate_id · e) stream
    | @ends e stream hrec hstop he =>
      refine .ended hr' rfl ?_
      rw [Session.turn?_finishDriver, Turn.outcome_of_terminal _ _ _ hopen he]
      exact hfold (Turn.accumulate_id · e) stream
    | @closes stream hrec =>
      refine .ended hr' rfl ?_
      rw [List.append_nil, Session.turn?_finishDriver, Turn.outcome_of_closed _ _ _ hopen,
        hfold (s.session.resolution_id r) stream, Session.resolution, hm, Bool.false_or]

/-- Whatever else happens, a turn that is left alone stands where it stood. -/
theorem Stand.of_ne {s : Scene} {heard : List Event} {stopped : Bool} (hs : Sound s.session)
    (h : Stand n t message s.session heard stopped) {a : Act} (ha : a ≠ .receive n)
    (hleft : (s.act a).session.turn? t.id = s.session.turn? t.id) :
    Stand n t message (s.act a).session heard stopped := by
  cases h with
  | underway hr hturn hd hopen ht =>
    obtain ⟨feed, -, hr'⟩ := request?_act hs hr ha
    exact .underway hr' hturn hd hopen (hleft.trans ht)
  | ended hr hd ht =>
    obtain ⟨feed, -, hr'⟩ := request?_act hs hr ha
    exact .ended hr' hd (hleft.trans ht)

theorem Stand.act {s : Scene} {heard : List Event} {stopped : Bool} (hs : Sound s.session)
    (hp : t.isPending = true) (hm : s.session.canceledMessage = message)
    (h : Stand n t message s.session heard stopped) (a : Act)
    (hleft : a ≠ .receive n → (s.act a).session.turn? t.id = s.session.turn? t.id) :
    Stand n t message (s.act a).session (heard ++ s.hears n a)
      (stopped || s.findsClosedStopped n a) := by
  by_cases ha : a = .receive n
  · subst ha
    exact h.receive hs hp hm
  · obtain ⟨hhears, hcloses⟩ := meets_of_ne ha s
    rw [hhears, hcloses, List.append_nil, Bool.or_false]
    exact h.of_ne hs ha (hleft ha)

theorem Stand.run (hp : t.isPending = true) (acts : List Act) : ∀ {s : Scene}
    {heard : List Event} {stopped : Bool}, Sound s.session →
    s.session.canceledMessage = message → Stand n t message s.session heard stopped →
    LeftAlone n t.id s acts →
    Stand n t message (s.run acts).session (heard ++ Scene.heard n s acts)
      (stopped || closedStopped n s acts) := by
  induction acts with
  | nil =>
    intro s heard stopped hs hm h hleft
    simpa [Scene.heard, closedStopped] using h
  | cons a acts ih =>
    intro s heard stopped hs hm h hleft
    have hnext := ih (sound_act hs a) ((canceledMessage_act s a).trans hm)
      (h.act hs hp hm a hleft.1) hleft.2
    rwa [List.append_assoc, Bool.or_assoc] at hnext

/-- A question that was accepted has a request and a turn that waits. -/
theorem stand_submit {s : Scene} (hs : Sound s.session) (message : String) {feed : Event.Feed}
    {question : String} {id : TurnId} (hok : (s.session.submit feed question).1 = .ok id) :
    Stand (s.session.requests.length + 1) (Turn.pending id question) message
      (s.act (.submit feed question)).session [] false :=
  .underway (Session.request?_submit_new hs hok) rfl rfl rfl (Session.turn?_submit_new hs hok)

/-- When the session is not busy with the request any more, its driver has ended. -/
theorem Stand.outcome {s : Session} {heard : List Event} {stopped : Bool} (hs : Sound s)
    (h : Stand n t message s heard stopped) (hend : s.active ≠ some ⟨n, t.id⟩) :
    s.turn? t.id = some (t.outcome heard stopped message) := by
  cases h with
  | ended hr hd ht => exact ht
  | @underway r heard hr hturn hd hopen ht =>
    refine absurd ?_ hend
    rw [hs.active_of_request? hr hd, Request.slot,
      Session.request?_number hr, hturn]

/-- What canceled turns are told is settled for the whole run. -/
theorem canceledMessage_run (s : Scene) (acts : List Act) :
    (s.run acts).session.canceledMessage = s.session.canceledMessage :=
  run_induction (P := fun s' => s'.session.canceledMessage = s.session.canceledMessage)
    (fun s a (_ : True) hs => (canceledMessage_act s a).trans hs) rfl acts fun _ _ => trivial

/-- **Every request has one of three outcomes, and the order of events tells which.**  When
the session is not busy with a request any more, the turn of the request is what the events
make of it that its driver received before the request was asked to stop: up to the first
terminal one; else canceled, if the request was asked to stop before its driver found the
stream closed; else failed, because the stream has ended too early. -/
theorem outcome_run (message : String) (before : List Act) (feed : Event.Feed)
    (question : String) (id : TurnId) (acts : List Act) :
    let asked := (start message).run before
    let n := asked.session.requests.length + 1
    let s := asked.act (.submit feed question)
    (asked.session.submit feed question).1 = .ok id → LeftAlone n id s acts →
    (s.run acts).session.active ≠ some ⟨n, id⟩ →
    ∃ t, (s.run acts).session.turn? id = some t ∧
      t.id = id ∧ t.question = question ∧ t.isPending = false ∧
      t = (Turn.pending id question).outcome (heard n s acts) (closedStopped n s acts) message := by
  intro asked n s hok hleft hend
  have hasked : Sound asked.session := sound_run (sound_start message) before
  have hs : Sound s.session := sound_act hasked _
  have hm : s.session.canceledMessage = message :=
    (canceledMessage_act asked _).trans (canceledMessage_run (start message) before)
  have hstand := Stand.run rfl acts hs hm (stand_submit hasked message hok) hleft
  rw [List.nil_append, Bool.false_or] at hstand
  exact ⟨_, hstand.outcome (sound_run hs acts) hend, Turn.outcome_id .., Turn.outcome_question ..,
    Turn.outcome_isPending .., rfl⟩

/-- The service sends a piece of the answer and the end at once. -/
def endAtOnce : Event.Feed := { worker := .working { batches := [[.chunk "Hel", .done]] } }

/-- The request is asked to stop while its end is queued. -/
def abortBeforeEnd : List Act :=
  [.work 1, .receive 1, .call .abort, .poll 0, .receive 1, .receive 1]

/-- An end that is received too late leaves no trace. -/
theorem outcome_run_abortBeforeEnd :
    let s := (start "stopped").act (.submit endAtOnce "Why?")
    (s.run abortBeforeEnd).session.turn? ⟨0⟩ =
      some (((Turn.pending ⟨0⟩ "Why?").accumulate (.chunk "Hel")).cancel "stopped") := by
  intro s
  have hok : (((start "stopped").run []).session.submit endAtOnce "Why?").1 = .ok ⟨0⟩ := by decide
  have hleft : LeftAlone 1 ⟨0⟩ s abortBeforeEnd :=
    ⟨fun _ => rfl, fun h => absurd rfl h, fun _ => rfl, fun _ => rfl, fun h => absurd rfl h,
      fun h => absurd rfl h, trivial⟩
  have hend : (s.run abortBeforeEnd).session.active ≠ some ⟨1, ⟨0⟩⟩ := by decide
  obtain ⟨t, ht, -, -, -, houtcome⟩ :=
    outcome_run "stopped" [] endAtOnce "Why?" ⟨0⟩ abortBeforeEnd hok hleft hend
  refine ht.trans ?_
  rw [houtcome]
  rfl

end Scene

end Dialogue
