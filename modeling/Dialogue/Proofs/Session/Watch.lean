/-
Following one request through a run.

Of all that happens in a run a request only meets a part: what its driver finds when it
receives, and whether the request had been asked to stop by then.  `heard` collects the
events that the driver receives before, `closedStopped` tells whether the stream was
found closed after.  Everything else leaves of the request all but its feed.
-/
import Dialogue.Proofs.Session.Invariant

namespace Dialogue

namespace Session

variable {s : Session}

theorem request?_updateRequest_of_ne {n k : Nat} (hne : n ≠ k) {f : Request → Request}
    (hf : ∀ r, (f r).number = r.number) : (s.updateRequest k f).request? n = s.request? n := by
  rw [request?_updateRequest hf]
  simp [hne]

/-- Whoever fills a stream changes that feed, and of the request nothing else. -/
theorem request?_refeed {n : Nat} {r : Request} (hr : s.request? n = some r) (k : Nat)
    (g : Event.Feed → Event.Feed) :
    (s.refeed k g).request? n = some { r with feed := if n = k then g r.feed else r.feed } := by
  have hnumber : ∀ r : Request, ({ r with feed := g r.feed } : Request).number = r.number :=
    fun _ => rfl
  rw [refeed, request?_updateRequest hnumber, hr]
  by_cases hk : n = k <;> simp [hk]

theorem request?_refeed_self {n : Nat} {r : Request} (hr : s.request? n = some r)
    (g : Event.Feed → Event.Feed) :
    (s.refeed n g).request? n = some { r with feed := g r.feed } := by
  rw [request?_refeed hr, if_pos rfl]

theorem request?_finishDriver {n : Nat} {r r' : Request} (hr : s.request? n = some r)
    (hn : r'.number = n) (ha : s.active = some r'.slot) :
    (s.finishDriver r').request? n = some r.undriven := by
  have hkept : (s.finishDriver r').request? n =
      (s.updateRequest r'.number Request.undriven).request? n := by
    rw [finishDriver_eq ha]
    rfl
  have hnumber : ∀ r : Request, r.undriven.number = r.number := fun _ => rfl
  rw [hkept, request?_updateRequest hnumber, hr, hn]
  simp

/-- The driver of another request. -/
theorem request?_drive_of_ne (h : Sound s) {n k : Nat} (hne : n ≠ k) {s' : Session}
    (hdrive : s.Drive k s') : s'.request? n = s.request? n := by
  have hstream : ∀ stream, (s.setStream k stream).request? n = s.request? n :=
    fun _ => request?_updateRequest_of_ne hne fun _ => rfl
  have hfinish : ∀ {s' : Session} {r : Request}, s'.active = some r.slot → r.number = k →
      (s'.finishDriver r).request? n = s'.request? n := by
    intro s' r ha hk
    rw [finishDriver_eq ha]
    exact request?_updateRequest_of_ne (by omega) fun _ => rfl
  cases hdrive with
  | ended => rfl
  | waits | discards | folds => exact hstream _
  | ends hr hd hrec hstop he =>
    exact (hfinish (by exact h.active_of_request? hr hd) (request?_number hr)).trans (hstream _)
  | closes hr hd hrec =>
    exact (hfinish (by exact h.active_of_request? hr hd) (request?_number hr)).trans (hstream _)

/-- A question that is accepted leaves the requests that there are. -/
theorem request?_submit {n : Nat} {r : Request} (hr : s.request? n = some r)
    (feed : Event.Feed) (question : String) :
    (s.submit feed question).2.request? n = some r := by
  rcases s.submit_cases feed question with ⟨e, -, hs | hs⟩ | ⟨-, -, hs⟩
  · rw [hs, hr]
  · rw [hs]
    exact hr
  · rw [hs]
    unfold request? at hr ⊢
    rw [List.find?_append, hr]
    rfl

/-- The request of a question that was accepted. -/
theorem request?_submit_new (h : Sound s) {feed : Event.Feed} {question : String} {id : TurnId}
    (hok : (s.submit feed question).1 = .ok id) :
    (s.submit feed question).2.request? (s.requests.length + 1) = some
      { number := s.requests.length + 1, turn := id, feed,
        asked := { question, chatId := s.store.conversation.chatId } } := by
  rcases s.submit_cases feed question with ⟨e, he, -⟩ | ⟨-, -, hs⟩
  · rw [he] at hok
    exact absurd hok (by simp)
  · rw [hs] at hok ⊢
    rw [Except.ok.injEq] at hok
    have hnew : s.requests.find? (·.number = s.requests.length + 1) = none := by
      rw [List.find?_eq_none]
      intro r hr
      have hnumber : r.number ∈ s.requests.map (·.number) := List.mem_map_of_mem hr
      rw [h.numbered, List.mem_range'_1] at hnumber
      simp only [decide_eq_true_eq]
      omega
    simp only [request?, List.find?_append, hnew, Option.none_or]
    simp [← hok]

end Session

namespace Scene

/-! ### What one act does to a request -/

/-- What canceled turns are told is settled at the start. -/
theorem canceledMessage_act (s : Scene) (a : Act) :
    (s.act a).session.canceledMessage = s.session.canceledMessage := by
  have hacted := s.act_acted a
  generalize (s.act a).session = s' at hacted
  cases hacted with
  | idles | reopens | refeeds => rfl
  | @asks feed question =>
    rcases s.session.submit_cases feed question with ⟨e, -, hs | hs⟩ | ⟨-, -, hs⟩ <;> rw [hs]
  | polls hpolled => cases hpolled <;> rfl
  | drives hdrive =>
    cases hdrive with
    | ended | waits | discards | folds => rfl
    | ends | closes => exact Session.canceledMessage_finishDriver ..
  | @writes w =>
    obtain ⟨store, mint, hwrite⟩ := s.session.write_eq w
    rw [hwrite]

/-- What an act can leave of a feed, if it is no reception of its driver: the feed as it was,
or filled, or stopped. -/
inductive Leaves (n : Nat) (feed : Event.Feed) (a : Act) : Event.Feed → Prop
  | same : Leaves n feed a feed
  | fed {feed'} (h : Session.Feeds n feed a feed') : Leaves n feed a feed'
  /-- An abort asks the request to stop. -/
  | aborted : Leaves n feed a { feed with stream := feed.stream.cancel.2 }

/-- Nothing but its own driver's steps touches more of a request than its feed. -/
theorem request?_act {s : Scene} (h : Session.Sound s.session) {n : Nat} {r : Request}
    (hr : s.session.request? n = some r) {a : Act} (ha : a ≠ .receive n) :
    ∃ feed, Leaves n r.feed a feed ∧ (s.act a).session.request? n = some { r with feed } := by
  have hsame : ∀ {s' : Session}, s'.request? n = s.session.request? n →
      ∃ feed, Leaves n r.feed a feed ∧ s'.request? n = some { r with feed } :=
    fun hs => ⟨r.feed, .same, hs.trans hr⟩
  -- Whoever changes feed `k` has changed this one if the numbers are the same.
  have hrefeed : ∀ {s' : Session} (k : Nat) (g : Event.Feed → Event.Feed),
      s'.request? n = some r → (n = k → Leaves n r.feed a (g r.feed)) →
      ∃ feed, Leaves n r.feed a feed ∧ (s'.refeed k g).request? n = some { r with feed } := by
    intro s' k g hr' hg
    refine ⟨_, ?_, Session.request?_refeed hr' k g⟩
    by_cases hk : n = k
    · rw [if_pos hk]
      exact hg hk
    · rw [if_neg hk]
      exact .same
  have hacted := s.act_acted a
  generalize (s.act a).session = s' at hacted
  cases hacted with
  | idles | reopens => exact hsame rfl
  | asks => exact ⟨r.feed, .same, Session.request?_submit hr ..⟩
  | polls hpolled =>
    cases hpolled with
    | aborts hc hp hactive => exact hrefeed _ _ (by exact hr) fun _ => .aborted
    | refused | waits | aborted | clears | found => exact hsame rfl
  | @refeeds a k g hfeeds =>
    refine hrefeed k g hr fun hk => .fed ?_
    subst hk
    exact hfeeds r hr
  | @drives k s' hdrive =>
    have hne : n ≠ k := fun hk => ha (by rw [hk])
    exact hsame (Session.request?_drive_of_ne h hne hdrive)
  | @writes w =>
    obtain ⟨store, mint, hwrite⟩ := s.session.write_eq w
    rw [hwrite]
    exact hsame rfl

/-! ### What a request meets in a run -/

/-- What the driver of a request would find, if it is at work. -/
def finds (s : Scene) (n : Nat) : Option Event.Reception :=
  (s.session.request? n).bind fun r =>
    if r.isDriven then some r.feed.stream.receive.1 else none

/-- Was the request asked to stop? -/
def isStopped (s : Scene) (n : Nat) : Bool :=
  (s.session.request? n).any (·.feed.stream.isCancelled)

/-- What the driver of a request finds by an act, if the act is its reception. -/
def receives (s : Scene) (n : Nat) : Act → Option Event.Reception
  | .receive k => if k = n then s.finds n else none
  | _ => none

/-- The event that the driver of a request receives by an act, unless the request was asked
to stop before. -/
def hears (s : Scene) (n : Nat) (a : Act) : List Event :=
  match s.receives n a with
  | some (.event e) => if s.isStopped n then [] else [e]
  | _ => []

/-- Does the driver find the stream closed by an act, of a request that was asked to stop
before? -/
def findsClosedStopped (s : Scene) (n : Nat) (a : Act) : Bool :=
  s.receives n a = some .closed && s.isStopped n

/-- Of what is no reception of its own a driver meets nothing. -/
theorem meets_of_ne {n : Nat} {a : Act} (ha : a ≠ .receive n) (s : Scene) :
    s.hears n a = [] ∧ s.findsClosedStopped n a = false := by
  have hnone : s.receives n a = none := by
    cases a with
    | receive k =>
      have hk : k ≠ n := fun hk => ha (by rw [hk])
      simp [receives, hk]
    | _ => rfl
  simp [hears, findsClosedStopped, hnone]

/-- A driver that has ended does nothing and meets nothing. -/
theorem receive_of_ended {s : Scene} {n : Nat} {r : Request}
    (hr : s.session.request? n = some r) (hd : r.isDriven = false) :
    (s.act (.receive n)).session = s.session ∧ s.hears n (.receive n) = [] ∧
      s.findsClosedStopped n (.receive n) = false := by
  refine ⟨?_, ?_, ?_⟩
  · simp [act, Session.driverStep, hr, hd]
  · simp [hears, receives, finds, hr, hd]
  · simp [findsClosedStopped, receives, finds, hr, hd]

/-- What comes of a step of the driver that is at work for a request: the session, the
request, the events that it heard, and whether it found the stream closed of a request that
was asked to stop. -/
inductive Met (s : Session) (n : Nat) (r : Request) :
    Session → Request → List Event → Bool → Prop
  | waits {stream} (hrec : r.feed.stream.receive = (.pending, stream)) :
      Met s n r (s.setStream n stream) (r.withStream stream) [] false
  | discards {e stream} (hrec : r.feed.stream.receive = (.event e, stream))
      (hstop : r.feed.stream.isCancelled = true) :
      Met s n r (s.setStream n stream) (r.withStream stream) [] false
  | folds {e stream} (hrec : r.feed.stream.receive = (.event e, stream))
      (hstop : r.feed.stream.isCancelled = false) (he : e.isTerminal = false) :
      Met s n r ((s.setStream n stream).fold r.turn (·.accumulate e)) (r.withStream stream) [e]
        false
  | ends {e stream} (hrec : r.feed.stream.receive = (.event e, stream))
      (hstop : r.feed.stream.isCancelled = false) (he : e.isTerminal = true) :
      Met s n r (((s.setStream n stream).fold r.turn (·.accumulate e)).finishDriver r)
        (r.withStream stream).undriven [e] false
  | closes {stream} (hrec : r.feed.stream.receive = (.closed, stream)) :
      Met s n r (((s.setStream n stream).fold r.turn (s.resolution r)).finishDriver r)
        (r.withStream stream).undriven [] r.feed.stream.isCancelled

theorem receive_met {s : Scene} (h : Session.Sound s.session) {n : Nat} {r : Request}
    (hr : s.session.request? n = some r) (hd : r.isDriven = true) :
    ∃ r', (s.act (.receive n)).session.request? n = some r' ∧
      Met s.session n r (s.act (.receive n)).session r' (s.hears n (.receive n))
        (s.findsClosedStopped n (.receive n)) := by
  have hfinds : s.receives n (.receive n) = some r.feed.stream.receive.1 := by
    simp [receives, finds, hr, hd]
  have hstopped : s.isStopped n = r.feed.stream.isCancelled := by simp [isStopped, hr]
  have hsame : ∀ {r'}, s.session.request? n = some r' → r' = r :=
    fun hr' => Option.some.inj (hr'.symm.trans hr)
  have ha : s.session.active = some r.slot := h.active_of_request? hr hd
  have hset : ∀ stream, (s.session.setStream n stream).request? n = some (r.withStream stream) :=
    fun stream =>
    Session.request?_refeed_self hr fun feed => { feed with stream }
  have hfinish : ∀ stream f,
      (((s.session.setStream n stream).fold r.turn f).finishDriver r).request? n =
        some (r.withStream stream).undriven := fun stream f =>
    Session.request?_finishDriver (hset stream) (Session.request?_number hr) ha
  simp only [hears, findsClosedStopped, hfinds, hstopped, act]
  have hdrive := s.session.driverStep_drive n
  generalize s.session.driverStep n = s' at hdrive
  cases hdrive with
  | ended hnone => exact absurd (hnone r hr) (by simp [hd])
  | waits hr' hd' hrec =>
    obtain rfl := hsame hr'
    rw [hrec]
    exact ⟨_, hset _, .waits hrec⟩
  | discards hr' hd' hrec hstop =>
    obtain rfl := hsame hr'
    rw [hrec, hstop]
    exact ⟨_, hset _, .discards hrec hstop⟩
  | folds hr' hd' hrec hstop he =>
    obtain rfl := hsame hr'
    rw [hrec, hstop]
    exact ⟨_, hset _, .folds hrec hstop he⟩
  | ends hr' hd' hrec hstop he =>
    obtain rfl := hsame hr'
    rw [hrec, hstop]
    exact ⟨_, hfinish _ _, .ends hrec hstop he⟩
  | closes hr' hd' hrec =>
    obtain rfl := hsame hr'
    rw [hrec]
    exact ⟨_, hfinish _ _, .closes hrec⟩

/-! ### What becomes of a request -/

/-- What an act makes of a request: its feed changes, and its driver may end. -/
inductive Becomes (n : Nat) (r : Request) (a : Act) : Request → Prop
  | leaves {feed} (h : Leaves n r.feed a feed) : Becomes n r a { r with feed }
  | receives {found stream} (hrec : r.feed.stream.receive = (found, stream)) :
      Becomes n r a (r.withStream stream)
  | ends {found stream} (hrec : r.feed.stream.receive = (found, stream)) :
      Becomes n r a (r.withStream stream).undriven

theorem request?_becomes {s : Scene} (h : Session.Sound s.session) {n : Nat} {r : Request}
    (hr : s.session.request? n = some r) (a : Act) :
    ∃ r', (s.act a).session.request? n = some r' ∧ Becomes n r a r' := by
  by_cases ha : a = .receive n
  · subst ha
    cases hd : r.isDriven with
    | false =>
      rw [(receive_of_ended hr hd).1]
      exact ⟨r, hr, .leaves .same⟩
    | true =>
      obtain ⟨r', hr', hmet⟩ := receive_met h hr hd
      refine ⟨r', hr', ?_⟩
      generalize (s.act (.receive n)).session = s' at hmet
      generalize s.hears n (.receive n) = new, s.findsClosedStopped n (.receive n) = closes at hmet
      cases hmet with
      | waits hrec | discards hrec | folds hrec => exact .receives hrec
      | ends hrec | closes hrec => exact .ends hrec
  · obtain ⟨feed, hleaves, hr'⟩ := request?_act h hr ha
    exact ⟨_, hr', .leaves hleaves⟩

/-- What every act keeps of a request, every run keeps. -/
theorem request?_run {n : Nat} {P : Request → Prop}
    (step : ∀ {s : Scene} {r : Request} (a : Act), Session.Sound s.session →
      s.session.request? n = some r → P r →
      ∃ r', (s.act a).session.request? n = some r' ∧ P r')
    (acts : List Act) : ∀ {s : Scene} {r : Request}, Session.Sound s.session →
      s.session.request? n = some r → P r →
      ∃ r', (s.run acts).session.request? n = some r' ∧ P r' := by
  induction acts with
  | nil =>
    intro s r hs hr h
    exact ⟨r, hr, h⟩
  | cons a acts ih =>
    intro s r hs hr h
    obtain ⟨r', hr', h'⟩ := step a hs hr h
    exact ih (sound_act hs a) hr' h'

/-! ### What is heard in a run -/

/-- The events that the driver of a request receives in a run before the request is asked
to stop. -/
def heard (n : Nat) : Scene → List Act → List Event
  | _, [] => []
  | s, a :: acts => s.hears n a ++ heard n (s.act a) acts

/-- Was the request asked to stop before its driver found the stream closed? -/
def closedStopped (n : Nat) : Scene → List Act → Bool
  | _, [] => false
  | s, a :: acts => s.findsClosedStopped n a || closedStopped n (s.act a) acts

end Scene

end Dialogue
