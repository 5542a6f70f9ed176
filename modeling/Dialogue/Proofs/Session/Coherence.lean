/-
A session with a store of its own.

When nobody writes to the store but the session and those who reopen chats, every pending
turn is the turn of the active request.  A driver can lose its turn, because the store was
cleared or another chat was put in its place, but it never leaves a pending turn behind:
each of its three ways to end resolves the turn if it is still there, in the same step in
which the session becomes idle.  So an idle session has no pending turn, and no question
is refused for one.
-/
import Dialogue.Proofs.Session.Invariant
import Dialogue.Proofs.Turn

namespace Dialogue

/-- The changes of the phase that there are. -/
inductive Phase.Change : Phase → Phase → Prop
  | begins : Change .idle .streaming
  | aborts : Change .streaming .canceling
  | ends : Change .streaming .idle
  | stops : Change .canceling .idle

namespace Session

/-- The phase stays and nobody is told, or it changes once and observers are told once. -/
def PhaseStep (s s' : Session) : Prop :=
  s'.phase = s.phase ∧ s'.phaseEdition = s.phaseEdition ∨
    Phase.Change s.phase s'.phase ∧ s'.phaseEdition = s.phaseEdition + 1

/-- Pending turns are the active request's. -/
structure Owned (s : Session) : Prop where
  owner : ∀ t ∈ s.store.conversation.pendingTurns, ∃ a, s.active = some a ∧ t.id = a.turn
  atMostOne : s.store.conversation.pendingTurns.length ≤ 1

/-- How phase, active request, drivers and turns hang together. -/
structure Coherent (s : Session) : Prop extends Owned s where
  idle_iff : s.phase = .idle ↔ s.active = none
  /-- One driver is at work for the active request, and none beside it. -/
  driven : s.driven = s.active.toList

variable {s : Session}

/-! ### Changes of the phase -/

theorem PhaseStep.refl (s : Session) : PhaseStep s s := Or.inl ⟨rfl, rfl⟩

/-- What leaves the phase alone. -/
theorem PhaseStep.of_eq {s s' : Session} (hp : s'.phase = s.phase)
    (he : s'.phaseEdition = s.phaseEdition) : PhaseStep s s' := Or.inl ⟨hp, he⟩

theorem phaseStep_finishDriver (h : Sound s) {r : Request} (ha : s.active = some r.slot) :
    PhaseStep s (s.finishDriver r) := by
  rw [finishDriver_eq ha]
  refine Or.inr ⟨?_, rfl⟩
  have hbusy : s.phase ≠ .idle := by
    rw [Ne, h.idle_iff, ha]
    simp
  cases hp : s.phase with
  | idle => exact absurd hp hbusy
  | streaming => exact .ends
  | canceling => exact .stops

theorem phaseStep_drive (h : Sound s) {n : Nat} {s' : Session} (hdrive : s.Drive n s') :
    PhaseStep s s' := by
  cases hdrive with
  | ended => exact .refl s
  | waits | discards | folds => exact .of_eq rfl rfl
  | ends hr hd hrec hstop he =>
    exact phaseStep_finishDriver ((h.refeed n _).fold ..) (h.active_of_request? hr hd)
  | closes hr hd hrec =>
    exact phaseStep_finishDriver ((h.refeed n _).fold ..) (h.active_of_request? hr hd)

theorem phaseStep_polled {c : Call} {stage : Stage} {r : Option Outcome × Session}
    (hpolled : s.Polled c stage r) : PhaseStep s r.2 := by
  cases hpolled with
  | aborts hc hp ha =>
    refine Or.inr ⟨?_, rfl⟩
    rw [hp]
    exact .aborts
  | refused | waits | aborted | clears | found => exact .of_eq rfl rfl

theorem phaseStep_submit (s : Session) (feed : Event.Feed) (question : String) :
    PhaseStep s (s.submit feed question).2 := by
  rcases s.submit_cases feed question with ⟨e, -, hs | hs⟩ | ⟨hphase, -, hs⟩
  · rw [hs]
    exact .refl s
  · rw [hs]
    exact .of_eq rfl rfl
  · rw [hs]
    refine Or.inr ⟨?_, rfl⟩
    rw [hphase]
    exact .begins

/-! ### Pending turns -/

/-- Without a pending turn there is nothing to own. -/
theorem Owned.of_no_pending {s : Session} (h : s.store.conversation.pendingTurns = []) : Owned s :=
  ⟨by simp [h], by simp [h]⟩

theorem Owned.no_pending (h : Owned s) (hnone : s.active = none) :
    s.store.conversation.pendingTurns = [] := by
  rw [List.eq_nil_iff_forall_not_mem]
  intro t ht
  obtain ⟨a, ha, -⟩ := h.owner t ht
  rw [hnone] at ha
  exact absurd ha (by simp)

/-- The driver of the active request may fold as it likes. -/
theorem Owned.fold (h : Owned s) {r : Request} (ha : s.active = some r.slot)
    (f : Turn → Turn) : Owned (s.fold r.turn f) := by
  rcases Store.pendingTurns_foldPending h.atMostOne r.turn f with
    ⟨t, -, -, hpending⟩ | ⟨-, hfold⟩
  · refine ⟨fun u hu => ⟨r.slot, ha, ?_⟩, ?_⟩
    · rw [Session.fold, hpending] at hu
      rw [List.mem_singleton.mp (List.mem_filter.mp hu).1]
      rfl
    · rw [Session.fold, hpending]
      exact List.length_filter_le _ [_]
  · rw [Session.fold, hfold]
    exact h

/-- A fold that resolves the active request's turn leaves no turn pending: the turn was
the only one, or it has left the store and there was none. -/
theorem Owned.resolve (h : Owned s) {r : Request} (ha : s.active = some r.slot)
    {f : Turn → Turn} (hf : ∀ t, (f t).isPending = false) :
    (s.fold r.turn f).store.conversation.pendingTurns = [] := by
  rcases Store.pendingTurns_foldPending h.atMostOne r.turn f with
    ⟨t, -, -, hpending⟩ | ⟨hother, hfold⟩
  · rw [Session.fold, hpending]
    simp [hf]
  · rw [Session.fold, hfold, List.eq_nil_iff_forall_not_mem]
    intro t ht
    obtain ⟨a, ha', hid⟩ := h.owner t ht
    rw [ha, Option.some.injEq] at ha'
    exact hother t ht (by rw [hid, ← ha', Request.slot])

theorem Owned.finishDriver {r : Request} (ha : s.active = some r.slot)
    (h : s.store.conversation.pendingTurns = []) : Owned (s.finishDriver r) := by
  rw [finishDriver_eq ha]
  exact .of_no_pending h

theorem resolution_isPending (s : Session) (r : Request) (t : Turn) :
    (s.resolution r t).isPending = false := by
  unfold resolution
  split
  · exact t.cancel_isPending _
  · rw [Turn.accumulate_isPending, Event.isTerminal, Bool.not_true, Bool.and_false]

theorem Owned.drive (h : Owned s) (hs : Sound s) {n : Nat} {s' : Session}
    (hdrive : s.Drive n s') : Owned s' := by
  have hstream : ∀ stream, Owned (s.setStream n stream) := fun _ => ⟨h.owner, h.atMostOne⟩
  cases hdrive with
  | ended => exact h
  | waits | discards => exact hstream _
  | folds hr hd hrec hstop he => exact (hstream _).fold (hs.active_of_request? hr hd) _
  | @ends r e stream hr hd hrec hstop he =>
    have hends : ∀ t : Turn, (t.accumulate e).isPending = false := fun t => by
      rw [Turn.accumulate_isPending, he, Bool.not_true, Bool.and_false]
    have hnone := (hstream stream).resolve (hs.active_of_request? hr hd) hends
    exact .finishDriver (hs.active_of_request? hr hd) hnone
  | @closes r stream hr hd hrec =>
    have hnone := (hstream stream).resolve (hs.active_of_request? hr hd) (s.resolution_isPending r)
    exact .finishDriver (hs.active_of_request? hr hd) hnone

theorem Owned.polled (h : Owned s) {c : Call} {stage : Stage} {r : Option Outcome × Session}
    (hpolled : s.Polled c stage r) : Owned r.2 := by
  cases hpolled with
  | aborts hc hp ha => exact ⟨h.owner, h.atMostOne⟩
  | clears => exact .of_no_pending rfl
  | refused | waits | aborted | found => exact h

theorem Owned.submit (h : Owned s) (feed : Event.Feed) (question : String) :
    Owned (s.submit feed question).2 := by
  rcases s.submit_cases feed question with ⟨e, -, hs | hs⟩ | ⟨-, hpending, hs⟩
  · rw [hs]
    exact h
  · rw [hs]
    exact ⟨h.owner, h.atMostOne⟩
  · -- The new turn is the only pending one.
    have hnew : (s.submit feed question).2.store.conversation.pendingTurns =
        [Turn.pending s.mint.take.1 question] := by
      rw [hs]
      simp only [Conversation.pendingTurns] at hpending
      simp [Store.publish, Conversation.pendingTurns, hpending, Turn.pending]
    refine ⟨fun t ht => ?_, by simp [hnew]⟩
    rw [hnew] at ht
    rw [List.mem_singleton.mp ht, hs]
    exact ⟨_, rfl, rfl⟩

theorem Owned.reopen (h : Owned s) (chatId : String) (reply : Except Http.Failure History) :
    Owned (s.reopen chatId reply) := by
  cases reply with
  | error failure => exact h
  | ok history =>
    refine .of_no_pending ?_
    rw [List.eq_nil_iff_forall_not_mem]
    intro t ht
    obtain ⟨hmem, hp⟩ := List.mem_filter.mp ht
    obtain ⟨u, -, rfl⟩ := List.mem_map.mp hmem
    exact absurd hp Bool.false_ne_true

/-- With a store of its own the session refuses no question for a pending turn. -/
theorem Owned.submit_ne_notRecorded (h : Owned s) (hs : Sound s) (feed : Event.Feed)
    (question : String) (e : StoreError) :
    (s.submit feed question).1 ≠ .error (.notRecorded e) := by
  unfold Session.submit
  by_cases hblank : Text.isBlankText question = true
  · simp [hblank]
  · by_cases hphase : s.phase = .idle
    · have hnone := h.no_pending (hs.idle_iff.mp hphase)
      simp [hblank, hphase, Store.append_of_no_pending hnone]
    · simp [hblank, hphase]

end Session

namespace Scene

open Session

theorem phaseStep_act {s : Scene} (h : Sound s.session) (a : Act) :
    PhaseStep s.session (s.act a).session := by
  have hacted := s.act_acted a
  generalize (s.act a).session = s' at hacted
  cases hacted with
  | idles => exact .refl _
  | asks => exact phaseStep_submit ..
  | polls hpolled => exact phaseStep_polled hpolled
  | reopens | refeeds => exact .of_eq rfl rfl
  | drives hdrive => exact phaseStep_drive h hdrive
  | @writes w =>
    obtain ⟨store, mint, hwrite⟩ := s.session.write_eq w
    rw [hwrite]
    exact .of_eq rfl rfl

theorem owned_act {s : Scene} (hs : Sound s.session) (h : Owned s.session) {a : Act}
    (ha : a.isOwn = true) : Owned (s.act a).session := by
  have hacted := s.act_acted a
  generalize (s.act a).session = s' at hacted
  cases hacted with
  | idles => exact h
  | asks => exact h.submit ..
  | polls hpolled => exact h.polled hpolled
  | reopens => exact h.reopen ..
  | refeeds => exact ⟨h.owner, h.atMostOne⟩
  | drives hdrive => exact h.drive hs hdrive
  | writes => exact absurd ha Bool.false_ne_true

theorem owned_run (message : String) (acts : List Act) (h : ∀ a ∈ acts, a.isOwn = true) :
    Sound ((start message).run acts).session ∧ Owned ((start message).run acts).session :=
  run_induction (P := fun s => Sound s.session ∧ Owned s.session)
    (fun _ a ha hs => ⟨sound_act hs.1 a, owned_act hs.1 hs.2 ha⟩)
    ⟨sound_start message, .of_no_pending rfl⟩ acts h

/-- **A session with a store of its own is coherent in every state of every run**, its
phase changes only along `Phase.Change`, and no question is refused for a pending turn. -/
theorem coherent_run (message : String) (acts : List Act) (h : ∀ a ∈ acts, a.isOwn = true) :
    Coherent ((start message).run acts).session ∧
      (∀ a, PhaseStep ((start message).run acts).session
        (((start message).run acts).act a).session) ∧
      ∀ feed question e,
        (((start message).run acts).session.submit feed question).1 ≠ .error (.notRecorded e) := by
  obtain ⟨hs, ho⟩ := owned_run message acts h
  exact ⟨{ ho with idle_iff := hs.idle_iff, driven := hs.driven },
    phaseStep_act hs, ho.submit_ne_notRecorded hs⟩

/-- Another chat is put in the place of one that waits for its answer, and then the request
is asked to stop. -/
def chatReplacedMidway : List Act :=
  [.submit { worker := .working {} } "Why?",
    .reopen "old" (.ok { records := [{ question := "Who?", answer := "You." }] }),
    .call .abort, .poll 0]

/-- The session is still busy, but no turn waits. -/
theorem coherent_run_chatReplacedMidway :
    let s := ((start "stopped").run chatReplacedMidway).session
    Coherent s ∧ s.phase = .canceling ∧ s.store.conversation.pendingTurns = [] :=
  ⟨(coherent_run "stopped" chatReplacedMidway (by decide)).1, by decide, by decide⟩

end Scene

end Dialogue
