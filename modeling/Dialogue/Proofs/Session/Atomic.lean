/-
A question is taken as a whole, or nothing has happened.

There are three reasons to refuse a question, and they are looked for in order: it is blank,
the session is busy, a turn is pending in the store.  An idle session can meet the last one as
well, since others may write to its store.  By then the turn of the question was made, so an id
is lost; all else is done when no reason is left.

A lost id is no trace that anyone could find.  All ids in a session were minted before
(`Minted`), so none of them lies behind the one that was lost, and what happens later is what
would have happened, with a gap among the ids that are minted then.
-/
import Dialogue.Proofs.Session.Frame
import Dialogue.Proofs.Session.Gap

namespace Dialogue

namespace Session

/-! ### What becomes of a question -/

/-- The session `s'` is what `s` becomes when it takes a question as the turn `id`. -/
structure Taken (s : Session) (feed : Event.Feed) (question : String) (id : TurnId)
    (s' : Session) : Prop where
  minted : (id, s'.mint) = s.mint.take
  /-- One turn is added, at the end. -/
  turns : s'.store.conversation.turns = s.store.conversation.turns ++
    [{ id, question, answer := "", failure := none, isPending := true, sources := [] }]
  chatId : s'.store.conversation.chatId = s.store.conversation.chatId
  storeTold : s'.store.edition = s.store.edition + 1
  phase : s'.phase = .streaming
  phaseTold : s'.phaseEdition = s.phaseEdition + 1
  /-- One request is made, and the session is busy with it. -/
  request : ∃ r, s'.requests = s.requests ++ [r] ∧
    r.asked = { question, chatId := s.store.conversation.chatId } ∧ r.feed = feed ∧
    r.turn = id ∧ s'.active = some ⟨r.number, id⟩

section

variable {s : Session} {feed : Event.Feed} {question : String}

theorem submit_eq_empty_iff :
    (s.submit feed question).1 = .error .emptyQuestion ↔ Text.isBlankText question = true := by
  have hsubmitted := s.submit_submitted feed question
  generalize s.submit feed question = r at hsubmitted
  cases hsubmitted with
  | blank hblank => simp [hblank]
  | busy hblank | barred hblank | taken hblank => simp [hblank]

theorem submit_eq_busy_iff {p : Phase} :
    (s.submit feed question).1 = .error (.busy p) ↔
      ¬ Text.isBlankText question = true ∧ p = s.phase ∧ p ≠ .idle := by
  have hsubmitted := s.submit_submitted feed question
  generalize s.submit feed question = r at hsubmitted
  cases hsubmitted with
  | blank hblank => simp [hblank]
  | busy hblank hphase =>
    constructor
    · intro h
      obtain rfl : s.phase = p := by simpa using h
      exact ⟨hblank, rfl, hphase⟩
    · rintro ⟨-, rfl, -⟩
      rfl
  | barred hblank hphase | taken hblank hphase => simp [hphase]

theorem submit_eq_notRecorded_iff {e : StoreError} :
    (s.submit feed question).1 = .error (.notRecorded e) ↔
      ¬ Text.isBlankText question = true ∧ s.phase = .idle ∧
        ∃ t, s.store.conversation.turns.find? (·.isPending) = some t ∧ e = .pendingTurn t.id := by
  have hsubmitted := s.submit_submitted feed question
  generalize s.submit feed question = r at hsubmitted
  cases hsubmitted with
  | blank hblank => simp [hblank]
  | busy hblank hphase => simp [hphase]
  | barred hblank hphase ht =>
    rw [Conversation.pendingTurn?] at ht
    simp [hblank, hphase, ht, eq_comm]
  | taken hblank hphase hnone =>
    rw [Conversation.pendingTurn?] at hnone
    simp [hnone]

/-- When a question is refused, at most an id is lost. -/
theorem submit_refused {e : SubmitError} (h : (s.submit feed question).1 = .error e) :
    ∃ lost ≤ 1, (s.submit feed question).2 = { s with mint := ⟨s.mint.next + lost⟩ } := by
  have hsubmitted := s.submit_submitted feed question
  generalize s.submit feed question = r at hsubmitted h
  cases hsubmitted with
  | blank | busy => exact ⟨0, by omega, rfl⟩
  | barred => exact ⟨1, by omega, rfl⟩
  | taken => exact absurd h (by simp)

theorem submit_taken {id : TurnId} (h : (s.submit feed question).1 = .ok id) :
    s.Taken feed question id (s.submit feed question).2 := by
  have hsubmitted := s.submit_submitted feed question
  generalize s.submit feed question = r at hsubmitted h
  cases hsubmitted with
  | blank | busy | barred => exact absurd h (by simp)
  | taken =>
    obtain rfl : s.mint.take.1 = id := by simpa using h
    exact ⟨rfl, rfl, rfl, rfl, rfl, rfl, _, rfl, rfl, rfl, rfl, rfl⟩

end

/-! ### Ids of a session -/

/-- All ids that a session holds were minted. -/
structure Minted (s : Session) : Prop where
  turns : ∀ t ∈ s.store.conversation.turns, t.id.serial < s.mint.next
  requests : ∀ r ∈ s.requests, r.turn.serial < s.mint.next
  active : ∀ a, s.active = some a → a.turn.serial < s.mint.next

theorem minted_of_sound {s : Session} (hs : Sound s) (hassigned : Assigned s) : Minted s where
  turns := hs.minted
  requests := fun _ hr => hassigned _ (List.mem_map_of_mem hr)
  active := by
    intro a ha
    obtain ⟨r, hr, -, rfl⟩ := hs.driven_of_active ha
    exact hassigned _ (List.mem_map_of_mem (request?_mem hr))

/-- To lose the ids that come next moves no id of the session. -/
theorem Minted.session_eq {s : Session} (h : Minted s) (width : Nat) :
    (Gap.mk s.mint.next width).session s = { s with mint := ⟨s.mint.next + width⟩ } := by
  have hturns : s.store.conversation.turns.map (Gap.mk s.mint.next width).turn =
      s.store.conversation.turns := by
    refine (List.map_congr_left fun t ht => ?_).trans (List.map_id _)
    rw [Gap.turn, Gap.shift_of_lt (h.turns t ht)]
    rfl
  have hrequests : s.requests.map (Gap.mk s.mint.next width).request = s.requests := by
    refine (List.map_congr_left fun r hr => ?_).trans (List.map_id _)
    rw [Gap.request, Gap.shift_of_lt (h.requests r hr)]
    rfl
  have hactive : s.active.map (Gap.mk s.mint.next width).active = s.active := by
    cases ha : s.active with
    | none => rfl
    | some a => rw [Option.map_some, Gap.active, Gap.shift_of_lt (h.active a ha)]
  simp only [Gap.session, Gap.store, Gap.conversation, Gap.mint, hturns, hrequests, hactive]

end Session

namespace Scene

open Session (Minted Taken)

theorem minted_run (message : String) (acts : List Act) :
    Minted ((start message).run acts).session :=
  Session.minted_of_sound (sound_run (sound_start message) acts) (assigned_run message acts)

/-- After some ids were lost, acts tell the same and leave the same sessions as if they were
not, but for the ids that are minted from then on. -/
theorem record_of_lost {s : Scene} (h : Minted s.session) (lost : Nat) (acts : List Act) :
    let g : Gap := ⟨s.session.mint.next, lost⟩
    ({ s with session := { s.session with mint := ⟨s.session.mint.next + lost⟩ } } : Scene).record
        (fun _ => false) (acts.map g.act) =
      (s.record (fun _ => false) acts).map g.told := by
  intro g
  have hbehind : g.start ≤ s.session.mint.next := Nat.le_refl _
  rw [← Gap.record_scene hbehind, Gap.scene, h.session_eq lost]

/-- **A question is taken as a whole, or nothing has happened**, in whatever state the session
and its store are.  A question that is blank is refused as such; otherwise one that finds the
session busy, with the phase it is in; otherwise one that finds a turn pending in the store.
Then the session is as it was, in its store, its phase, its active request, its requests and in
what observers were told, but for one id that may be lost; and whatever is done later is told
the same and leaves the same sessions as if nobody had asked, with the ids moved that are
minted later.  (In every run all ids that a session holds were minted before.)  Every other
question is taken: one turn is added and one request is made, and the session streams. -/
theorem submit_atomic (s : Scene) (feed : Event.Feed) (question : String) :
    let r := s.session.submit feed question
    (r.1 = .error .emptyQuestion ↔ Text.isBlankText question = true) ∧
      (∀ p, r.1 = .error (.busy p) ↔
        ¬ Text.isBlankText question = true ∧ p = s.session.phase ∧ p ≠ .idle) ∧
      (∀ e, r.1 = .error (.notRecorded e) ↔
        ¬ Text.isBlankText question = true ∧ s.session.phase = .idle ∧
          ∃ t, s.session.store.conversation.turns.find? (·.isPending) = some t ∧
            e = .pendingTurn t.id) ∧
      (∀ e, r.1 = .error e → ∃ lost ≤ 1,
        r.2 = { s.session with mint := ⟨s.session.mint.next + lost⟩ } ∧
          (Minted s.session → ∀ acts, let g : Gap := ⟨s.session.mint.next, lost⟩
            (s.act (.submit feed question)).record (fun _ => false) (acts.map g.act) =
              (s.record (fun _ => false) acts).map g.told)) ∧
      (∀ id, r.1 = .ok id → Taken s.session feed question id r.2) ∧
      ∀ message acts, Minted ((start message).run acts).session := by
  intro r
  refine ⟨Session.submit_eq_empty_iff, fun _ => Session.submit_eq_busy_iff,
    fun _ => Session.submit_eq_notRecorded_iff, ?_, fun _ => Session.submit_taken, minted_run⟩
  intro e he
  obtain ⟨lost, hlost, hleft⟩ := Session.submit_refused he
  refine ⟨lost, hlost, hleft, ?_⟩
  intro hminted acts
  rw [act, hleft]
  exact record_of_lost hminted lost acts

/-- Somebody else has put a turn into the store, which is pending while the session is idle. -/
def foreignTurn : List Act := [.write (.append "Who?")]

/-- Once that turn is done, the question is asked again. -/
def askedAgain : List Act :=
  [.write (.fold ⟨0⟩ fun t => t.accumulate .done), .submit { worker := .working {} } "Why?"]

/-- The question is refused because of that turn, and when it is asked again it is taken as the
third turn that was made, in the place of the second. -/
theorem submit_atomic_foreignTurn :
    let s := (start "stopped").run foreignTurn
    let feed : Event.Feed := { worker := .working {} }
    let s' := s.act (.submit feed "Why?")
    (s.session.submit feed "Why?").1 = .error (.notRecorded (.pendingTurn ⟨0⟩)) ∧
      ∃ g : Gap, s'.record (fun _ => false) (askedAgain.map g.act) =
          (s.record (fun _ => false) askedAgain).map g.told ∧
        g.shift ⟨1⟩ = ⟨2⟩ := by
  intro s feed s'
  obtain ⟨-, -, hnotRecorded, hrefused, -, hminted⟩ := submit_atomic s feed "Why?"
  have herror := (hnotRecorded (.pendingTurn ⟨0⟩)).mpr ⟨by decide, by decide, _, rfl, rfl⟩
  obtain ⟨lost, -, hleft, hlater⟩ := hrefused _ herror
  have hlost : 2 = 1 + lost := congrArg (·.mint.next) hleft
  obtain rfl : lost = 1 := by omega
  exact ⟨herror, ⟨1, 1⟩, hlater (hminted "stopped" foreignTurn) askedAgain, rfl⟩

end Scene

end Dialogue
