/-
Ids that were lost.

A turn can be made and put nowhere; then its id is lost, and the ids that are minted from then
on are greater than they would have been.  Nothing else comes of it: a store or a session
compares ids with each other, and never looks into one.

A gap is some ids that were lost.  The ids behind it are moved, wherever there are any: in
turns, in requests, in what people bring to a store and in what they are told.  For each
operation one lemma says that it may as well be done before the ids are moved as after; for
minting this holds only if the gap lies among the ids that were minted.  Since no id is taken
back, a gap that lies there once lies there for the rest of the run, and so the lemmas join to
one about runs (`record_scene`).
-/
import Dialogue.Proofs.History
import Dialogue.Proofs.Session.Without

namespace Dialogue

/-- Ids that were lost: `width` of them, from `start` on. -/
structure Gap where
  start : Nat
  width : Nat

namespace Gap

/-! ### Moving ids -/

/-- The id that is minted in the place of `id` when the ids of the gap are lost. -/
def shift (g : Gap) (id : TurnId) : TurnId :=
  if id.serial < g.start then id else ⟨id.serial + g.width⟩

/-- Takes `shift` back. -/
def unshift (g : Gap) (id : TurnId) : TurnId :=
  if id.serial < g.start then id else ⟨id.serial - g.width⟩

/-- A turn under its moved id. -/
def turn (g : Gap) (t : Turn) : Turn := { t with id := g.shift t.id }

/-- Takes `turn` back. -/
def unturn (g : Gap) (t : Turn) : Turn := { t with id := g.unshift t.id }

/-- A conversation whose turns have moved ids. -/
def conversation (g : Gap) (c : Conversation) : Conversation :=
  { c with turns := c.turns.map g.turn }

/-- A store of such a conversation. -/
def store (g : Gap) (s : Store) : Store := { s with conversation := g.conversation s.conversation }

/-- The mint of which the ids of the gap were taken as well. -/
def mint (g : Gap) (m : Mint) : Mint := ⟨m.next + g.width⟩

/-- A request whose turn has a moved id. -/
def request (g : Gap) (r : Request) : Request := { r with turn := g.shift r.turn }

/-- The active request, with the moved id of its turn. -/
def active (g : Gap) (a : Active) : Active := { a with turn := g.shift a.turn }

/-- A session in which every id is moved. -/
def session (g : Gap) (s : Session) : Session :=
  { s with
    store := g.store s.store
    active := s.active.map g.active
    requests := s.requests.map g.request
    mint := g.mint s.mint }

/-- A scene of such a session; calls know no ids. -/
def scene (g : Gap) (s : Scene) : Scene := { s with session := g.session s.session }

/-- What somebody writes who knows the moved ids. -/
def write (g : Gap) : Write → Write
  | .fold id f => .fold (g.shift id) fun t => g.turn (f (g.unturn t))
  | .replace chatId turns => .replace chatId (turns.map g.turn)
  | w => w

/-- What somebody does who knows the moved ids. -/
def act (g : Gap) : Act → Act
  | .write w => .write (g.write w)
  | a => a

/-- The refusal of a store, which tells an id. -/
def storeError (g : Gap) : StoreError → StoreError
  | .pendingTurn id => .pendingTurn (g.shift id)

/-- Why a question was not accepted, with the id that it may tell. -/
def submitError (g : Gap) : SubmitError → SubmitError
  | .notRecorded e => .notRecorded (g.storeError e)
  | e => e

/-- What somebody is told who asks. -/
def result (g : Gap) : Except SubmitError TurnId → Except SubmitError TurnId
  | .error e => .error (g.submitError e)
  | .ok id => .ok (g.shift id)

/-- What an act tells. -/
def reply (g : Gap) : Reply → Reply
  | .asked r => .asked (g.result r)
  | r => r

/-- What is told and the session that is left, with the ids moved. -/
def told (g : Gap) (p : Reply × Session) : Reply × Session := (g.reply p.1, g.session p.2)

variable {g : Gap}

@[simp] theorem unshift_shift (id : TurnId) : g.unshift (g.shift id) = id := by
  by_cases h : id.serial < g.start
  · simp [shift, unshift, h]
  · have hbehind : ¬ id.serial + g.width < g.start := by omega
    simp [shift, unshift, h, hbehind]

@[simp] theorem shift_inj {id id' : TurnId} : g.shift id = g.shift id' ↔ id = id' := by
  refine ⟨fun h => ?_, congrArg g.shift⟩
  rw [← unshift_shift (g := g) id, h, unshift_shift]

/-- Ids before the gap stay. -/
theorem shift_of_lt {id : TurnId} (h : id.serial < g.start) : g.shift id = id := if_pos h

/-- Whether an id was minted is the same before and after. -/
theorem serial_shift_lt {m : Mint} (h : g.start ≤ m.next) (id : TurnId) :
    (g.shift id).serial < (g.mint m).next ↔ id.serial < m.next := by
  by_cases hid : id.serial < g.start
  · simp only [shift, if_pos hid, mint]
    omega
  · simp only [shift, if_neg hid, mint]
    omega

/-- What is minted behind the gap, is minted as the moved id. -/
theorem take_mint {m : Mint} (h : g.start ≤ m.next) :
    (g.mint m).take = (g.shift m.take.1, g.mint m.take.2) := by
  have hnext : g.shift ⟨m.next⟩ = ⟨m.next + g.width⟩ := if_neg (Nat.not_lt.mpr h)
  have hsucc : m.next + g.width + 1 = m.next + 1 + g.width := by omega
  simp only [Mint.take, mint, hnext, hsucc]

/-! ### Turns -/

@[simp] theorem turn_id (t : Turn) : (g.turn t).id = g.shift t.id := rfl

@[simp] theorem turn_isPending (t : Turn) : (g.turn t).isPending = t.isPending := rfl

@[simp] theorem unturn_turn (t : Turn) : g.unturn (g.turn t) = t := by simp [turn, unturn]

@[simp] theorem turn_accumulate (t : Turn) (e : Event) :
    (g.turn t).accumulate e = g.turn (t.accumulate e) := by
  unfold Turn.accumulate
  by_cases h : t.isPending = true
  · cases e <;> simp [turn, h]
  · simp [h]

@[simp] theorem turn_cancel (t : Turn) (message : String) :
    (g.turn t).cancel message = g.turn (t.cancel message) := by
  unfold Turn.cancel
  by_cases h : t.isPending = true <;> simp [turn, h]

/-- Turns from records take the moved ids. -/
theorem reconcile_mint {m : Mint} (h : g.start ≤ m.next) (records : List HistoryRecord) :
    reconcile (g.mint m) records =
      ((reconcile m records).1.map g.turn, g.mint (reconcile m records).2) := by
  induction records generalizing m with
  | nil => rfl
  | cons r rest ih =>
    have hbehind : g.start ≤ m.take.2.next := Nat.le_succ_of_le h
    simp only [reconcile, take_mint h, ih hbehind]
    rfl

/-! ### The store -/

section

variable {s : Store} {id : TurnId}

theorem changeFirst_map {p p' : Turn → Bool} {f f' : Turn → Turn}
    (hp : ∀ t, p' (g.turn t) = p t) (hf : ∀ t, f' (g.turn t) = g.turn (f t)) (ts : List Turn) :
    Store.changeFirst p' f' (ts.map g.turn) = (Store.changeFirst p f ts).map (List.map g.turn) := by
  induction ts with
  | nil => rfl
  | cons t ts ih =>
    rw [List.map_cons, Store.changeFirst, Store.changeFirst, hp, hf, ih]
    by_cases ht : p t = true
    · simp [ht]
    · simp [ht, Function.comp_def]

theorem foldPending_store {f f' : Turn → Turn} (hf : ∀ t, f' (g.turn t) = g.turn (f t)) :
    (g.store s).foldPending (g.shift id) f' =
      ((s.foldPending id f).1, g.store (s.foldPending id f).2) := by
  have hp : ∀ t, (decide ((g.turn t).id = g.shift id) && (g.turn t).isPending) =
      (decide (t.id = id) && t.isPending) := fun t => by simp
  have hset : ∀ t, ({ f' (g.turn t) with id := g.shift id } : Turn) =
      g.turn { f t with id := id } := fun t => by rw [hf]; rfl
  have hchange : Store.changeFirst (fun t => t.id = g.shift id && t.isPending)
      (fun t => { f' t with id := g.shift id }) (s.conversation.turns.map g.turn) = _ :=
    changeFirst_map hp hset _
  simp only [Store.foldPending, store, conversation, hchange]
  cases Store.changeFirst (fun t => t.id = id && t.isPending) (fun t => { f t with id := id })
    s.conversation.turns <;> rfl

theorem pendingTurn?_conversation (c : Conversation) :
    (g.conversation c).pendingTurn? = c.pendingTurn?.map g.turn := List.find?_map ..

theorem append_store (s : Store) (id : TurnId) (question : String) :
    (g.store s).append (g.shift id) question =
      ((s.append id question).map g.store).mapError g.storeError := by
  have hpending := pendingTurn?_conversation (g := g) s.conversation
  simp only [Store.append, store, hpending]
  cases s.conversation.pendingTurn? with
  | some t => rfl
  | none =>
    simp [Except.map, Except.mapError, Store.publish, store, conversation, turn, Turn.pending]

theorem replace_store (s : Store) (chatId : Option String) (turns : List Turn) :
    (g.store s).replace chatId (turns.map g.turn) = g.store (s.replace chatId turns) := by
  simp [Store.replace, Store.publish, store, conversation, turn]

theorem setChatId_store (s : Store) (chatId : Option String) :
    (g.store s).setChatId chatId = g.store (s.setChatId chatId) := by
  by_cases h : s.conversation.chatId = chatId <;>
    simp [Store.setChatId, store, conversation, Store.publish, h]

end

/-! ### Requests -/

section

variable {s : Session}

theorem request?_session (s : Session) (n : Nat) :
    (g.session s).request? n = (s.request? n).map g.request := List.find?_map ..

theorem updateRequest_session {n : Nat} {f f' : Request → Request}
    (hf : ∀ r, f' (g.request r) = g.request (f r)) :
    (g.session s).updateRequest n f' = g.session (s.updateRequest n f) := by
  have hone : ∀ r, (if (g.request r).number = n then f' (g.request r) else g.request r) =
      g.request (if r.number = n then f r else r) := by
    intro r
    rw [hf, apply_ite g.request]
    rfl
  simp only [Session.updateRequest, session, List.map_map, Function.comp_def, hone]

/-- Feeds hold no ids. -/
theorem refeed_session (n : Nat) (f : Event.Feed → Event.Feed) :
    (g.session s).refeed n f = g.session (s.refeed n f) :=
  updateRequest_session fun _ => rfl

theorem fold_session {id : TurnId} {f f' : Turn → Turn}
    (hf : ∀ t, f' (g.turn t) = g.turn (f t)) :
    (g.session s).fold (g.shift id) f' = g.session (s.fold id f) := by
  simp [Session.fold, session, foldPending_store hf]

theorem finishDriver_session (s : Session) (r : Request) :
    (g.session s).finishDriver (g.request r) = g.session (s.finishDriver r) := by
  have heq : ∀ (s : Session) (r : Request), s.finishDriver r =
      if s.active.any (·.number = r.number) then
        { s.updateRequest r.number Request.undriven with active := none }.setPhase .idle
      else s.updateRequest r.number Request.undriven := fun _ _ => rfl
  have hundrive : (g.session s).updateRequest (g.request r).number Request.undriven =
      g.session (s.updateRequest r.number Request.undriven) := updateRequest_session fun _ => rfl
  have hactive : (g.session s).active.any (·.number = (g.request r).number) =
      s.active.any (·.number = r.number) := Option.any_map ..
  rw [heq, heq, hundrive, hactive, apply_ite g.session]
  rfl

/-! ### Workers, drivers and calls -/

theorem workerStep_session (s : Session) (n : Nat) :
    (g.session s).workerStep n = g.session (s.workerStep n) :=
  refeed_session n fun feed => feed.pollWorker.2

/-- A turn without a terminal event is resolved in the same way. -/
theorem resolution_session (s : Session) (r : Request) (t : Turn) :
    (g.session s).resolution (g.request r) (g.turn t) = g.turn (s.resolution r t) := by
  have hfeed : (g.request r).feed = r.feed := rfl
  simp only [Session.resolution, hfeed, turn_cancel, turn_accumulate]
  exact (apply_ite g.turn ..).symm

theorem setStream_session (s : Session) (n : Nat) (stream : Event.Stream) :
    (g.session s).setStream n stream = g.session (s.setStream n stream) :=
  refeed_session n fun feed => { feed with stream }

theorem fold_setStream_session {r : Request} {f f' : Turn → Turn}
    (hf : ∀ t, f' (g.turn t) = g.turn (f t)) (n : Nat) (stream : Event.Stream) :
    ((g.session s).setStream n stream).fold (g.request r).turn f' =
      g.session ((s.setStream n stream).fold r.turn f) := by
  rw [setStream_session]
  exact fold_session hf

theorem driverStep_session (s : Session) (n : Nat) :
    (g.session s).driverStep n = g.session (s.driverStep n) := by
  unfold Session.driverStep
  rw [request?_session]
  cases s.request? n with
  | none => rfl
  | some r =>
    have hdriven : (g.request r).isDriven = r.isDriven := rfl
    have hfeed : (g.request r).feed = r.feed := rfl
    simp only [Option.map_some, hdriven, hfeed]
    rcases r.feed.stream.receive with ⟨reception, stream⟩
    by_cases hd : r.isDriven = true
    · simp only [hd, Bool.not_true, Bool.false_eq_true, if_false]
      cases reception with
      | pending => exact setStream_session s n stream
      | event e =>
        have hfold : ((g.session s).setStream n stream).fold (g.request r).turn (·.accumulate e) =
            g.session ((s.setStream n stream).fold r.turn (·.accumulate e)) :=
          fold_setStream_session (fun t => turn_accumulate t e) n stream
        by_cases hstop : stream.isCancelled = true
        · simp only [hstop, if_true]
          exact setStream_session s n stream
        · simp only [hstop, Bool.false_eq_true, if_false]
          by_cases he : e.isTerminal = true
          · simp only [he, if_true]
            exact (congrArg (·.finishDriver (g.request r)) hfold).trans (finishDriver_session _ r)
          · simp only [he, Bool.false_eq_true, if_false]
            exact hfold
      | closed =>
        have hfold : ((g.session s).setStream n stream).fold (g.request r).turn
              ((g.session s).resolution (g.request r)) =
            g.session ((s.setStream n stream).fold r.turn (s.resolution r)) :=
          fold_setStream_session (resolution_session s r) n stream
        exact (congrArg (·.finishDriver (g.request r)) hfold).trans (finishDriver_session _ r)
    · simp only [hd, Bool.not_false, if_true]

theorem emit_session (s : Session) (n : Nat) (e : Event) :
    (g.session s).emit n e = ((s.emit n e).1, g.session (s.emit n e).2) := by
  unfold Session.emit
  rw [request?_session]
  cases s.request? n with
  | none => rfl
  | some r =>
    by_cases hopen : r.feed.stream.isOpen = true
    · simp only [Option.map_some, request, hopen, if_true]
      exact congrArg (Prod.mk _) (updateRequest_session fun _ => rfl)
    · simp [request, hopen]

theorem closeStream_session (s : Session) (n : Nat) :
    (g.session s).closeStream n = ((s.closeStream n).1, g.session (s.closeStream n).2) := by
  unfold Session.closeStream
  rw [request?_session]
  cases s.request? n with
  | none => rfl
  | some r => exact congrArg (Prod.mk _) (updateRequest_session fun _ => rfl)

theorem cancelRequest_session (s : Session) (n : Nat) :
    (g.session s).cancelRequest n = g.session (s.cancelRequest n) :=
  refeed_session n fun feed => { feed with stream := feed.stream.cancel.2 }

theorem beginAbort_session (s : Session) :
    (g.session s).beginAbort = (s.beginAbort.1, g.session s.beginAbort.2) := by
  have hphase : (g.session s).phase = s.phase := rfl
  have hactive : (g.session s).active = s.active.map g.active := rfl
  unfold Session.beginAbort
  rw [hphase, hactive]
  cases s.phase with
  | idle | canceling => cases s.active <;> rfl
  | streaming =>
    cases s.active with
    | none => rfl
    | some a =>
      exact congrArg (Prod.mk true) (cancelRequest_session (s.setPhase .canceling) a.number)

theorem pollWaiting_session (s : Session) (c : Call) :
    (g.session s).pollWaiting c = ((s.pollWaiting c).1, g.session (s.pollWaiting c).2) := by
  have hphase : (g.session s).phase = s.phase := rfl
  unfold Session.pollWaiting
  rw [hphase]
  by_cases hidle : s.phase = .idle
  · simp only [hidle, if_true]
    cases c <;> rfl
  · simp only [hidle, if_false]

theorem poll_session (s : Session) (c : Call) (stage : Stage) :
    (g.session s).poll c stage = ((s.poll c stage).1, g.session (s.poll c stage).2) := by
  cases stage with
  | waiting => exact pollWaiting_session s c
  | fresh =>
    cases c with
    | waitIdle => exact pollWaiting_session s .waitIdle
    | newChat =>
      simp only [Session.poll, beginAbort_session]
      exact pollWaiting_session ..
    | abort =>
      simp only [Session.poll, beginAbort_session]
      by_cases hbegan : s.beginAbort.1 = true
      · rw [if_pos hbegan, if_pos hbegan]
        exact pollWaiting_session ..
      · rw [if_neg hbegan, if_neg hbegan]

/-! ### What mints ids -/

theorem submit_session (h : g.start ≤ s.mint.next) (feed : Event.Feed) (question : String) :
    (g.session s).submit feed question =
      (g.result (s.submit feed question).1, g.session (s.submit feed question).2) := by
  by_cases hblank : Text.isBlankText question = true
  · rw [Session.submit_of_blank hblank, Session.submit_of_blank hblank]
    rfl
  by_cases hphase : s.phase = .idle
  · have hphase' : (g.session s).phase = .idle := hphase
    have hpending := pendingTurn?_conversation (g := g) s.store.conversation
    have htake := take_mint h
    cases hfirst : s.store.conversation.pendingTurn? with
    | some t =>
      rw [hfirst] at hpending
      rw [Session.submit_of_pending hblank hphase hfirst,
        Session.submit_of_pending hblank hphase' hpending]
      simp only [session, htake, result, submitError, storeError, turn_id]
    | none =>
      rw [hfirst] at hpending
      rw [Session.submit_of_ready hblank hphase hfirst,
        Session.submit_of_ready hblank hphase' hpending]
      simp [session, htake, result, active, request, Store.publish, store, conversation, turn,
        Turn.pending]
  · have hphase' : (g.session s).phase ≠ .idle := hphase
    rw [Session.submit_of_busy hblank hphase, Session.submit_of_busy hblank hphase']
    rfl

theorem reopen_session (h : g.start ≤ s.mint.next) (chatId : String)
    (reply : Except Http.Failure History) :
    (g.session s).reopen chatId reply = g.session (s.reopen chatId reply) := by
  cases reply with
  | error failure => rfl
  | ok history =>
    have hreconcile := reconcile_mint h history.records
    simp only [Session.reopen, reopen, session, hreconcile, replace_store]

theorem write_session (h : g.start ≤ s.mint.next) (w : Write) :
    (g.session s).write (g.write w) = g.session (s.write w) := by
  cases w with
  | append question =>
    have hstore : (g.session s).store = g.store s.store := rfl
    have hmint : (g.session s).mint = g.mint s.mint := rfl
    simp only [Session.write, write, hstore, hmint, take_mint h, append_store]
    cases s.store.append s.mint.take.1 question <;> rfl
  | fold id f => exact fold_session fun t => by rw [unturn_turn]
  | replace chatId turns =>
    have hknown : (turns.map g.turn).all (·.id.serial < (g.mint s.mint).next) =
        turns.all (·.id.serial < s.mint.next) := by
      simp [List.all_map, Function.comp_def, serial_shift_lt h]
    have hmint : (g.session s).mint = g.mint s.mint := rfl
    simp only [Session.write, write, hmint, hknown]
    rw [apply_ite g.session]
    simp only [session, replace_store]
  | setChatId chatId =>
    simp only [Session.write, write, session, setChatId_store]
  | reset => rfl
  | mint => simp only [Session.write, write, session, take_mint h]

end

/-! ### Acts and runs -/

/-- No act takes an id back. -/
theorem next_le_act (s : Scene) (a : Act) :
    s.session.mint.next ≤ (s.act a).session.mint.next := by
  have hacted := s.act_acted a
  generalize (s.act a).session = s' at hacted
  cases hacted with
  | idles | refeeds => exact Nat.le_refl _
  | @asks feed question =>
    rcases s.session.submit_cases feed question with ⟨e, -, hs | hs⟩ | ⟨-, -, hs⟩
    · rw [hs]
    · rw [hs]
      exact Nat.le_succ _
    · rw [hs]
      exact Nat.le_succ _
  | polls hpolled => cases hpolled <;> exact Nat.le_refl _
  | @reopens chatId reply =>
    cases reply with
    | error failure => exact Nat.le_refl _
    | ok history => exact (reconcile_spec s.session.mint history.records).1
  | drives hdrive =>
    cases hdrive with
    | ended | waits | discards | folds => exact Nat.le_refl _
    | ends | closes =>
      rw [Session.mint_finishDriver]
      exact Nat.le_refl _
  | @writes w =>
    cases w with
    | append question =>
      simp only [Session.write]
      split <;> exact Nat.le_succ _
    | replace chatId turns =>
      simp only [Session.write]
      split <;> exact Nat.le_refl _
    | fold | reset | setChatId => exact Nat.le_refl _
    | mint => exact Nat.le_succ _

theorem poll_scene (s : Scene) (i : Nat) : (g.scene s).poll i = g.scene (s.poll i) := by
  rcases s.waits_or_answered i with ⟨c, stage, hv⟩ | hanswered
  · rw [Scene.poll_eq hv, Scene.poll_eq (s := g.scene s) hv]
    simp only [scene, poll_session]
  · rw [Scene.poll_eq_self hanswered, Scene.poll_eq_self (s := g.scene s) hanswered]

variable {s : Scene}

/-- An act may as well be done before the ids are moved as after. -/
theorem act_scene (h : g.start ≤ s.session.mint.next) (a : Act) :
    (g.scene s).act (g.act a) = g.scene (s.act a) := by
  cases a with
  | submit feed question => simp only [Scene.act, act, scene, submit_session h]
  | call c => rfl
  | poll i => exact poll_scene s i
  | reopen chatId reply => simp only [Scene.act, act, scene, reopen_session h]
  | work n => simp only [Scene.act, act, scene, workerStep_session]
  | emit n e => simp only [Scene.act, act, scene, emit_session]
  | close n => simp only [Scene.act, act, scene, closeStream_session]
  | stop n => simp only [Scene.act, act, scene, cancelRequest_session]
  | receive n => simp only [Scene.act, act, scene, driverStep_session]
  | write w => simp only [Scene.act, act, scene, write_session h]

/-- And it tells the same, but for the ids. -/
theorem reply_scene (h : g.start ≤ s.session.mint.next) (a : Act) :
    (g.scene s).reply (g.act a) = g.reply (s.reply a) := by
  cases a with
  | submit feed question => simp only [Scene.reply, act, scene, submit_session h, reply]
  | poll i =>
    simp only [Scene.reply, act, poll_scene]
    rfl
  | reopen chatId answer =>
    cases answer with
    | error failure => rfl
    | ok history =>
      simp only [Scene.reply, act, scene, session, reopen, reconcile_mint h, List.length_map, reply]
  | work n =>
    simp only [Scene.reply, act, scene, request?_session, Option.map_map, reply]
    rfl
  | emit n e => simp only [Scene.reply, act, scene, emit_session, reply]
  | close n => simp only [Scene.reply, act, scene, closeStream_session, reply]
  | call | stop | receive | write => rfl

/-- **Nobody notices that ids were lost.**  If a gap lies among the ids that were minted, then
acts tell the same and leave the same sessions whether or not its ids were lost, with all ids
moved that lie behind it. -/
theorem record_scene (h : g.start ≤ s.session.mint.next) (acts : List Act) :
    (g.scene s).record (fun _ => false) (acts.map g.act) =
      (s.record (fun _ => false) acts).map g.told := by
  induction acts generalizing s with
  | nil => rfl
  | cons a acts ih =>
    have hbehind := Nat.le_trans h (next_le_act s a)
    simp only [List.map_cons, Scene.record, Act.isOut_none, Bool.false_eq_true, if_false,
      act_scene h, reply_scene h, ih hbehind]
    rfl

end Gap

end Dialogue
