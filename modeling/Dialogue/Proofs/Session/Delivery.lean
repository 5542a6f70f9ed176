/-
A body becomes the same turn whatever happens on its way.

The parts of a body, the polls of the worker and the receptions of the driver can fall in
any order.  What carries through all of them is that nothing is lost and nothing comes
twice: what the driver has received and what is still to come are together the events that
the worker has to send (`Flow`).  Those have an end, unless the worker waits for ever, so the
driver meets it unless the request is aborted before; and if they are the events of a body,
what it has received then makes the turn that the whole body makes.

It can always get that far: as long as the request is underway either its worker or its
driver can do something, and what is left to do shrinks with each step.

A worker may send several batches of the body at a time, or none where it has to wait for
the next part; so all that is asked of what it sends is that it is the events of the body
in order.  The worker of a service sends these if its answer comes whole (`delivered_ask`).
-/
import Dialogue.Proofs.Event.Ending
import Dialogue.Proofs.Event.Stream
import Dialogue.Proofs.Session.Outcome

namespace Dialogue

/-- Does the act put anything into the stream of a request, or close it, in the place of the
worker? -/
def Act.fills (n : Nat) : Act → Bool
  | .emit k _ | .close k => k = n
  | _ => false

namespace Scene

open Event (Told)
open Session (Sound)

/-- Was the request asked to stop while its driver is at work? -/
def isAborted (s : Scene) (n : Nat) : Bool :=
  (s.session.request? n).any fun r => r.isDriven && r.feed.stream.isCancelled

/-- No act of a run leaves the request aborted. -/
def Unaborted (n : Nat) : Scene → List Act → Prop
  | _, [] => True
  | s, a :: acts => (s.act a).isAborted n = false ∧ Unaborted n (s.act a) acts

instance decidableUnaborted (n : Nat) : (s : Scene) → (acts : List Act) →
    Decidable (Unaborted n s acts)
  | _, [] => .isTrue trivial
  | s, a :: acts =>
    have := decidableUnaborted n (s.act a) acts
    inferInstanceAs (Decidable ((s.act a).isAborted n = false ∧ Unaborted n (s.act a) acts))

/-- How the events of a request flow whose worker has `all` to send and then waits for ever if
`holds` says so; `heard` is what its driver has received. -/
inductive Flow (n : Nat) (all : List Event) (holds : Bool) (s : Session) : List Event → Prop
  | underway {r : Request} {heard : List Event} (hr : s.request? n = some r)
      (hd : r.isDriven = true) (hserves : r.feed.Serves holds)
      (hopen : heard.any Event.isTerminal = false) (hall : heard ++ r.feed.toCome = all) :
      Flow n all holds s heard
  | ended {r : Request} {heard rest : List Event} (hr : s.request? n = some r)
      (hd : r.isDriven = false) (htold : Told heard true) (hall : heard ++ rest = all) :
      Flow n all holds s heard

variable {n : Nat} {all heard : List Event} {holds : Bool} {s : Scene}

theorem Flow.not_aborted (h : Flow n all holds s.session heard) : s.isAborted n = false := by
  cases h with
  | underway hr hd hserves hopen hall => simp [isAborted, hr, hserves.isCancelled]
  | ended hr hd htold hall => simp [isAborted, hr, hd]

/-- The request whose worker was just given its plan. -/
theorem flow_submit {asked : Scene} (hs : Sound asked.session) (plan : Event.Plan)
    {question : String} {id : TurnId}
    (hok : (asked.session.submit { worker := .working plan } question).1 = .ok id) :
    Flow (asked.session.requests.length + 1) plan.batches.flatten plan.holds
      (asked.act (.submit { worker := .working plan } question)).session [] :=
  .underway (Session.request?_submit_new hs hok) rfl (Event.Feed.serves_of_plan plan) rfl rfl

/-! ### Acts -/

/-- Who neither fills the stream nor stops the request leaves everything to come. -/
theorem Leaves.serves {feed feed' : Event.Feed} {holds : Bool} {a : Act} (h : Leaves n feed a feed')
    (hserves : feed.Serves holds) (hfills : a.fills n = false)
    (hgoes : feed'.stream.isCancelled = false) :
    feed'.Serves holds ∧ feed'.toCome = feed.toCome := by
  have hstopped : ∀ {stream : Event.Stream}, stream.cancel.2.isCancelled ≠ false := by
    intro stream
    rw [Event.Stream.isCancelled_cancel]
    simp
  cases h with
  | same => exact ⟨hserves, rfl⟩
  | fed hfeeds =>
    cases hfeeds with
    | works => exact hserves.pollWorker
    | emits | closes => simp [Act.fills] at hfills
    | stops => exact absurd hgoes hstopped
  | aborted => exact absurd hgoes hstopped

/-- What becomes of a request that is underway, with the events that its driver hears. -/
inductive Follows (holds : Bool) (r : Request) : Request → List Event → Prop
  | goesOn {r' : Request} {new : List Event} (hd : r'.isDriven = true)
      (hserves : r'.feed.Serves holds) (hopen : new.any Event.isTerminal = false)
      (hcome : r.feed.toCome = new ++ r'.feed.toCome) : Follows holds r r' new
  /-- The driver hears the terminal event. -/
  | ends {r' : Request} {e : Event} {rest : List Event} (hd : r'.isDriven = false)
      (he : e.isTerminal = true) (hcome : r.feed.toCome = e :: rest) : Follows holds r r' [e]
  /-- Nothing comes any more. -/
  | runsOut {r' : Request} (hd : r'.isDriven = false) (hcome : r.feed.toCome = [])
      (hholds : holds = false) : Follows holds r r' []

/-- The driver takes the first event that is to come. -/
theorem follows_receive (hs : Sound s.session) {r : Request}
    (hr : s.session.request? n = some r) (hd : r.isDriven = true)
    (hserves : r.feed.Serves holds) :
    ∃ r', (s.act (.receive n)).session.request? n = some r' ∧
      Follows holds r r' (s.hears n (.receive n)) := by
  obtain ⟨r', hr', hmet⟩ := receive_met hs hr hd
  refine ⟨r', hr', ?_⟩
  generalize (s.act (.receive n)).session = s', s.hears n (.receive n) = new,
    s.findsClosedStopped n (.receive n) = closes at hmet
  cases hmet with
  | waits hrec =>
    obtain ⟨rfl, -⟩ := hserves.of_pending hrec
    exact .goesOn hd hserves rfl rfl
  | discards hrec hstop => exact absurd (hstop.symm.trans hserves.isCancelled) (by simp)
  | folds hrec hstop he =>
    exact .goesOn hd (hserves.receive hrec) (by simp [he]) (Event.Feed.toCome_of_event hrec)
  | ends hrec hstop he => exact .ends rfl he (Event.Feed.toCome_of_event hrec)
  | closes hrec =>
    obtain ⟨hcome, hholds⟩ := hserves.of_closed hrec
    exact .runsOut rfl hcome hholds

/-- As long as nobody fills its stream or aborts it a request follows its worker.  Its driver
does neither. -/
theorem follows_act (hs : Sound s.session) {r : Request}
    (hr : s.session.request? n = some r) (hd : r.isDriven = true)
    (hserves : r.feed.Serves holds) {a : Act} (hfills : a.fills n = false)
    (hgoes : a ≠ .receive n → (s.act a).isAborted n = false) :
    ∃ r', (s.act a).session.request? n = some r' ∧ Follows holds r r' (s.hears n a) := by
  by_cases ha : a = .receive n
  · subst ha
    exact follows_receive hs hr hd hserves
  · obtain ⟨feed, hfeed, hr'⟩ := request?_act hs hr ha
    have hunasked : feed.stream.isCancelled = false := by
      simpa [isAborted, hr', hd] using hgoes ha
    obtain ⟨hserves', hcome⟩ := hfeed.serves hserves hfills hunasked
    rw [(meets_of_ne ha s).1]
    exact ⟨_, hr', .goesOn hd hserves' rfl hcome.symm⟩

/-- A driver that has ended stays so, and hears nothing. -/
theorem ended_act (hs : Sound s.session) {r : Request} (hr : s.session.request? n = some r)
    (hd : r.isDriven = false) (a : Act) :
    (∃ r', (s.act a).session.request? n = some r' ∧ r'.isDriven = false) ∧ s.hears n a = [] := by
  by_cases ha : a = .receive n
  · subst ha
    obtain ⟨hsame, hhears, -⟩ := receive_of_ended hr hd
    rw [hsame]
    exact ⟨⟨r, hr, hd⟩, hhears⟩
  · obtain ⟨feed, -, hr'⟩ := request?_act hs hr ha
    exact ⟨⟨_, hr', hd⟩, (meets_of_ne ha s).1⟩

/-- Who has heard no end of what has one, has not heard everything. -/
theorem ne_of_open (hend : all.any Event.isTerminal = true)
    (hopen : heard.any Event.isTerminal = false) : heard ≠ all := by
  rintro rfl
  exact absurd (hopen.symm.trans hend) Bool.false_ne_true

/-- What is heard and what is to come stay all there is. -/
theorem Flow.follows {s' : Session} {r r' : Request} {new : List Event}
    (hend : holds = false → all.any Event.isTerminal = true)
    (hopen : heard.any Event.isTerminal = false) (hall : heard ++ r.feed.toCome = all)
    (hr' : s'.request? n = some r') (h : Follows holds r r' new) :
    Flow n all holds s' (heard ++ new) := by
  cases h with
  | goesOn hd hserves hnew hcome =>
    refine .underway hr' hd hserves ?_ ?_
    · rw [List.any_append, hopen, hnew, Bool.or_false]
    · rw [List.append_assoc, ← hcome, hall]
  | @ends e rest hd he hcome =>
    have hrest : heard ++ [e] ++ rest = all := by
      rw [← hall, hcome, List.append_assoc]
      rfl
    exact .ended hr' hd (.ends hopen he) hrest
  | runsOut hd hcome hholds =>
    rw [hcome, List.append_nil] at hall
    exact absurd hall (ne_of_open (hend hholds) hopen)

theorem Flow.act (hs : Sound s.session) (hend : holds = false → all.any Event.isTerminal = true)
    (h : Flow n all holds s.session heard) {a : Act} (hfills : a.fills n = false)
    (hgoes : a ≠ .receive n → (s.act a).isAborted n = false) :
    Flow n all holds (s.act a).session (heard ++ s.hears n a) := by
  cases h with
  | ended hr hd htold hall =>
    obtain ⟨⟨r', hr', hd'⟩, hhears⟩ := ended_act hs hr hd a
    rw [hhears, List.append_nil]
    exact .ended hr' hd' htold hall
  | underway hr hd hserves hopen hall =>
    obtain ⟨r', hr', hfollows⟩ := follows_act hs hr hd hserves hfills hgoes
    exact .follows hend hopen hall hr' hfollows

theorem Flow.run (hend : holds = false → all.any Event.isTerminal = true) (acts : List Act) :
    ∀ {s : Scene} {heard : List Event}, Sound s.session → Flow n all holds s.session heard →
    (∀ a ∈ acts, a.fills n = false) → Unaborted n s acts →
    Flow n all holds (s.run acts).session (heard ++ Scene.heard n s acts) := by
  induction acts with
  | nil =>
    intro s heard hs h hfills hgoes
    simpa [Scene.heard] using h
  | cons a acts ih =>
    intro s heard hs h hfills hgoes
    rw [List.forall_mem_cons] at hfills
    have hnext :=
      ih (sound_act hs a) (h.act hs hend hfills.1 fun _ => hgoes.1) hfills.2 hgoes.2
    rwa [List.append_assoc] at hnext

/-- When the session is not busy with the request any more, all events have made the turn. -/
theorem Flow.delivered {s : Session} {t : Turn} {message : String} {stopped : Bool}
    (h : Flow n all holds s heard) (hs : Sound s) (hstand : Stand n t message s heard stopped)
    (hidle : s.active ≠ some ⟨n, t.id⟩) : s.turn? t.id = some (t.accumulateAll all) := by
  have hturn := hstand.outcome hs hidle
  cases h with
  | @ended r heard rest hr hd htold hall =>
    have hterminal := htold.any_isTerminal
    have hcut : Event.upToTerminal all = Event.upToTerminal heard := by
      rw [← hall, Event.upToTerminal_append_of_any hterminal]
    have hended : (Event.upToTerminal heard).2 = true := by
      rw [Event.upToTerminal_snd, hterminal]
    rw [hturn, Turn.outcome, if_pos hended, ← hcut, Turn.accumulateAll_upToTerminal]
  | underway hr hd hserves hopen hall =>
    cases hstand with
    | ended hr' hd' ht =>
      rw [hr, Option.some.injEq] at hr'
      rw [hr', hd'] at hd
      exact absurd hd (by simp)
    | underway hr' hid hd' hopen' ht =>
      refine absurd ?_ hidle
      rw [hs.active_of_request? hr' hd', Request.slot,
        Session.request?_number hr', hid]

/-! ### The end is met -/

/-- The steps that worker and driver of a request have to make at most. -/
def toDo (s : Scene) (n : Nat) : Nat :=
  match s.session.request? n with
  | some r => if r.isDriven then r.feed.toDo + 1 else 0
  | none => 0

theorem toDo_of_driven {r : Request} (hr : s.session.request? n = some r)
    (hd : r.isDriven = true) : s.toDo n = r.feed.toDo + 1 := by
  simp [toDo, hr, hd]

theorem toDo_of_ended {r : Request} (hr : s.session.request? n = some r)
    (hd : r.isDriven = false) : s.toDo n = 0 := by
  simp [toDo, hr, hd]

theorem toDo_work {r : Request} (hr : s.session.request? n = some r) (hd : r.isDriven = true)
    (hserves : r.feed.Serves false) (hworker : r.feed.worker ≠ .gone) :
    (s.act (.work n)).toDo n < s.toDo n := by
  have hr' : (s.act (.work n)).session.request? n =
      some { r with feed := r.feed.pollWorker.2 } :=
    Session.request?_refeed_self hr fun feed => feed.pollWorker.2
  rw [toDo_of_driven hr hd, toDo_of_driven hr' hd]
  exact Nat.succ_lt_succ (hserves.toDo_pollWorker hworker)

theorem toDo_receive {r : Request} (hs : Sound s.session) (hr : s.session.request? n = some r)
    (hd : r.isDriven = true) (hserves : r.feed.Serves holds)
    (hfound : r.feed.stream.receive.1 ≠ .pending) : (s.act (.receive n)).toDo n < s.toDo n := by
  obtain ⟨r', hr', hmet⟩ := receive_met hs hr hd
  rw [toDo_of_driven hr hd]
  generalize (s.act (.receive n)).session = s', s.hears n (.receive n) = new,
    s.findsClosedStopped n (.receive n) = closes at hmet
  cases hmet with
  | waits hrec => exact absurd (by rw [hrec]) hfound
  | discards hrec hstop => exact absurd (hstop.symm.trans hserves.isCancelled) (by simp)
  | folds hrec hstop he =>
    rw [toDo_of_driven hr' hd]
    exact Nat.succ_lt_succ (Event.Feed.toDo_of_event hrec)
  | ends | closes =>
    rw [toDo_of_ended hr' rfl]
    exact Nat.succ_pos _

/-- As long as the driver of a request is at work, it or the worker can do something. -/
theorem Flow.progress (hs : Sound s.session) (h : Flow n all false s.session heard)
    (hbusy : s.toDo n ≠ 0) :
    ∃ a, (a = .work n ∨ a = .receive n) ∧ (s.act a).toDo n < s.toDo n := by
  cases h with
  | ended hr hd htold hall => exact absurd (toDo_of_ended hr hd) hbusy
  | @underway r heard hr hd hserves hopen hall =>
    by_cases hfound : r.feed.stream.receive.1 = .pending
    · obtain ⟨-, hworker⟩ := hserves.of_pending (Prod.ext hfound rfl)
      exact ⟨.work n, Or.inl rfl, toDo_work hr hd hserves hworker⟩
    · exact ⟨.receive n, Or.inr rfl, toDo_receive hs hr hd hserves hfound⟩

/-- Worker and driver of the request do not abort it. -/
theorem Flow.goes_on (hs : Sound s.session)
    (hend : holds = false → all.any Event.isTerminal = true)
    (h : Flow n all holds s.session heard) {a : Act} (ha : a = .work n ∨ a = .receive n) :
    (s.act a).isAborted n = false := by
  rcases ha with rfl | rfl
  · have hr' : ∀ {r}, s.session.request? n = some r → (s.act (.work n)).session.request? n =
        some { r with feed := r.feed.pollWorker.2 } := fun hr =>
      Session.request?_refeed_self hr fun feed => feed.pollWorker.2
    cases h with
    | ended hr hd htold hall => simp [isAborted, hr' hr, hd]
    | underway hr hd hserves hopen hall =>
      simp [isAborted, hr' hr, hserves.pollWorker.1.isCancelled]
  · exact (h.act hs hend rfl fun hne => absurd rfl hne).not_aborted

/-- However far a request has come, its worker and its driver alone can bring it to its end. -/
theorem Flow.finishes (hend : all.any Event.isTerminal = true) (id : TurnId) : ∀ (m : Nat)
    {s : Scene} {heard : List Event}, s.toDo n ≤ m → Sound s.session →
    Flow n all false s.session heard →
    ∃ more, (∀ a ∈ more, a = .work n ∨ a = .receive n) ∧ Unaborted n s more ∧
      LeftAlone n id s more ∧ (s.run more).toDo n = 0 := by
  intro m
  induction m with
  | zero =>
    intro s heard hm hs h
    exact ⟨[], by simp, trivial, trivial, Nat.le_zero.mp hm⟩
  | succ m ih =>
    intro s heard hm hs h
    by_cases hbusy : s.toDo n = 0
    · exact ⟨[], by simp, trivial, trivial, hbusy⟩
    · obtain ⟨a, ha, hless⟩ := h.progress hs hbusy
      have hfills : a.fills n = false := by rcases ha with rfl | rfl <;> rfl
      have hgoes := h.goes_on hs (fun _ => hend) ha
      have halone : a ≠ .receive n → (s.act a).session.turn? id = s.session.turn? id := by
        intro hne
        rcases ha with rfl | rfl
        · rfl
        · exact absurd rfl hne
      obtain ⟨more, hown, hunaborted, hleft, hover⟩ :=
        ih (by omega) (sound_act hs a) (h.act hs (fun _ => hend) hfills fun _ => hgoes)
      exact ⟨a :: more, List.forall_mem_cons.mpr ⟨ha, hown⟩, ⟨hgoes, hunaborted⟩,
        ⟨halone, hleft⟩, hover⟩

/-- A request with nothing left to do is not the active one. -/
theorem active_ne_of_toDo (hs : Sound s.session) (hover : s.toDo n = 0) (id : TurnId) :
    s.session.active ≠ some ⟨n, id⟩ := by
  intro ha
  obtain ⟨r, hr, hd, -⟩ := hs.driven_of_active ha
  rw [toDo_of_driven hr hd] at hover
  exact absurd hover (Nat.succ_ne_zero _)

/-- A plan with an end is delivered whole: its events make the turn. -/
theorem delivered_plan (message : String) (before : List Act) (plan : Event.Plan)
    (question : String) (id : TurnId) (acts : List Act) :
    let asked := (start message).run before
    let n := asked.session.requests.length + 1
    let feed : Event.Feed := { worker := .working plan }
    let s := asked.act (.submit feed question)
    let whole := some ((Turn.pending id question).accumulateAll plan.batches.flatten)
    plan.holds = false → plan.batches.flatten.any Event.isTerminal = true →
    (asked.session.submit feed question).1 = .ok id →
    (∀ a ∈ acts, a.fills n = false) → Unaborted n s acts → LeftAlone n id s acts →
    ((s.run acts).session.active ≠ some ⟨n, id⟩ → (s.run acts).session.turn? id = whole) ∧
      ∃ more, (∀ a ∈ more, a = .work n ∨ a = .receive n) ∧
        ((s.run acts).run more).session.active ≠ some ⟨n, id⟩ ∧
        ((s.run acts).run more).session.turn? id = whole := by
  intro asked n feed s whole hholds hend hok hfills hgoes hleft
  have hasked : Sound asked.session := sound_run (sound_start message) before
  have hs : Sound s.session := sound_act hasked _
  have hm : s.session.canceledMessage = message :=
    (canceledMessage_act asked _).trans (canceledMessage_run (start message) before)
  have hflow : Flow n plan.batches.flatten plan.holds s.session [] := flow_submit hasked plan hok
  rw [hholds] at hflow
  -- Both invariants hold with the same events heard, here and wherever the run goes on.
  have hrun := Flow.run (fun _ => hend) acts hs hflow hfills hgoes
  have hstand := Stand.run rfl acts hs hm (stand_submit hasked message hok) hleft
  have hs' := sound_run hs acts
  refine ⟨hrun.delivered hs' hstand, ?_⟩
  obtain ⟨more, hown, hunaborted, halone, hover⟩ := hrun.finishes hend id _ le_rfl hs'
  have hfills' : ∀ a ∈ more, a.fills n = false := by
    intro a ha
    rcases hown a ha with rfl | rfl <;> rfl
  have hm' : (s.run acts).session.canceledMessage = message :=
    (canceledMessage_run s acts).trans hm
  have hidle := active_ne_of_toDo (sound_run hs' more) hover id
  have hrun' := Flow.run (fun _ => hend) more hs' hrun hfills' hunaborted
  have hstand' := Stand.run rfl more hs' hm' hstand halone
  exact ⟨more, hown, hidle, hrun'.delivered (sound_run hs' more) hstand' hidle⟩

/-- A body with a character that is cut in two. -/
def characterCut : List (List UInt8) := [[72, 0xC3], [], [0xA9]]

/-- What its worker sends: nothing at first, and then all that there is of the text. -/
def characterCutBatches : List (List Event) := [[], [.chunk "H", .chunk "é"], [.done]]

/-- Worker and driver by turns. -/
def byTurns : List Act :=
  [.receive 1, .work 1, .receive 1, .work 1, .receive 1, .work 1, .receive 1, .receive 1]

/-- A service that answers a question with success and all of a body: the turn is what the
body answers, whatever pieces it came in. -/
theorem delivered_ask (message : String) (before : List Act) (service : Http.ChatService)
    (exchange : Http.Request → Http.Conduct) (k : Nat) (q : Question) (r : Http.Request)
    (answer : Http.Answer) (id : TurnId) (acts : List Act) :
    let asked := (start message).run before
    let n := asked.session.requests.length + 1
    let feed : Event.Feed := { worker := .working (service.ask (m := Id) exchange k q) }
    let s := asked.act (.submit feed q.question)
    let whole := some
      (Turn.answered service.config.framing id q.question answer.pieces.flatten)
    service.request k q = .ok r →
    (exchange r).outcome service.config.timeouts = .answered answer →
    answer.isSuccess = true → answer.ending = .complete →
    (asked.session.submit feed q.question).1 = .ok id →
    (∀ a ∈ acts, a.fills n = false) → Unaborted n s acts → LeftAlone n id s acts →
    ((s.run acts).session.active ≠ some ⟨n, id⟩ → (s.run acts).session.turn? id = whole) ∧
      ∃ more, (∀ a ∈ more, a = .work n ∨ a = .receive n) ∧
        ((s.run acts).run more).session.active ≠ some ⟨n, id⟩ ∧
        ((s.run acts).run more).session.turn? id = whole := by
  intro asked n feed s whole hrequest hanswer hsuccess hcomplete hok hfills hgoes hleft
  have hplan := Event.ask_of_answered hrequest hanswer hsuccess
  obtain ⟨hbatches, hholds⟩ := Event.batches_stream hcomplete service.config.framing
  rw [← hplan] at hbatches hholds
  have hend : (service.ask (m := Id) exchange k q).batches.flatten.any Event.isTerminal = true := by
    rw [hbatches, Event.any_events_readBody]
  have hwhole : whole = some ((Turn.pending id q.question).accumulateAll
      (service.ask (m := Id) exchange k q).batches.flatten) := by
    rw [hbatches, Turn.accumulateAll_readBody]
  rw [hwhole]
  exact delivered_plan message before _ q.question id acts hholds hend hok hfills hgoes hleft

/-- Such a service, which answers in the pieces of a character that is cut in two. -/
example :
    let service : Http.ChatService :=
      { config := { endpoint := "http://localhost/chat", framing := .plainText }
        tokens := { refreshError := fun _ => none, token := fun _ => none } }
    let plan := service.ask (m := Id) (fun _ => .answers ⟨200, characterCut, .complete⟩) 1
      { question := "Why?" }
    let s := (start "stopped").act (.submit { worker := .working plan } "Why?")
    (s.run (List.replicate 4 [.work 1, .receive 1]).flatten).session.turn? ⟨0⟩ =
      some (Turn.resolved ⟨0⟩ "Why?" "Hé" []) := by
  decide +kernel

end Scene

end Dialogue
