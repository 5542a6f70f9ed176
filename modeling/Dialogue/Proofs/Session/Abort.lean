/-
Aborting twice is aborting once.

An abort looks at the phase, changes it and asks the worker to stop, all in its first poll.
So of all who abort one request only the first finds the session streaming.  What is left to
see is that the session never streams again for a request that was aborted: the phase goes
back to streaming only for a new question, and that has a new number.  So every call and
every request stands at most once among those that were moved to canceling (`aborted`), and
who is told that something was aborted is one of them.

An abort that comes later does nothing to the session, and so a run without it is the same
for everybody else.
-/
import Dialogue.Proofs.Session.Invariant
import Dialogue.Proofs.Session.Without

namespace Dialogue

/-- Does the call wait until what it has aborted is over, or was it told that it is? -/
def Visit.Aborts (v : Visit) : Prop :=
  v.outcome = some (.aborted true) ∨ v.call = .abort ∧ v.stage = .waiting ∧ v.outcome = none

/-- The active request is among those that were accepted. -/
theorem Session.Sound.number_le {s : Session} (h : Sound s) {a : Active}
    (ha : s.active = some a) : a.number ≤ s.requests.length := by
  obtain ⟨r, hr, -, rfl⟩ := h.driven_of_active ha
  have hnumber : r.slot.number ∈ s.requests.map (·.number) :=
    List.mem_map_of_mem (request?_mem hr)
  rw [h.numbered, List.mem_range'_1] at hnumber
  omega

namespace Scene

open Session (Sound)

/-! ### What an act does to calls and requests -/

/-- The ways in which a call can be after an act what it is. -/
inductive Called (s : Scene) (a : Act) (i : Nat) : Visit → Prop
  | stays {v} (hv : s.calls[i]? = some v) : Called s a i v
  | isMade {c} (hi : i = s.calls.length) : Called s a i { call := c }
  | isPolled {c stage r} (ha : a = .poll i) (hv : s.calls[i]? = some { call := c, stage })
      (hpolled : s.session.Polled c stage r) (hs : (s.poll i).session = r.2) :
      Called s a i { call := c, stage := .waiting, outcome := r.1 }

theorem called_act (s : Scene) (a : Act) {i : Nat} {v : Visit}
    (h : (s.act a).calls[i]? = some v) : Called s a i v := by
  cases a with
  | call c =>
    rcases getElem?_concat_cases h with hv | ⟨hi, rfl⟩
    · exact .stays hv
    · exact .isMade hi
  | poll k =>
    rw [act] at h
    rcases s.waits_or_answered k with ⟨c, stage, hk⟩ | hanswered
    · rw [poll_eq hk] at h
      rcases getElem?_set_cases h with hv | ⟨rfl, rfl⟩
      · exact .stays hv
      · exact .isPolled rfl hk (s.session.poll_polled c stage) (by rw [poll_eq hk])
    · rw [poll_eq_self hanswered] at h
      exact .stays h
  | _ => exact .stays h

/-- What can become of the active request by an act. -/
inductive Moves (s : Session) : Act → Session → Prop
  | stays {a s'} (hactive : s'.active = s.active)
      (hlength : s'.requests.length = s.requests.length)
      (hphase : s'.phase = .streaming → s.phase = .streaming) : Moves s a s'
  | ends {a s'} (hactive : s'.active = none)
      (hlength : s'.requests.length = s.requests.length) : Moves s a s'
  | begins {feed question id s'} (hactive : s'.active = some ⟨s.requests.length + 1, id⟩)
      (hlength : s'.requests.length = s.requests.length + 1)
      (hok : (s.submit feed question).1 = .ok id) : Moves s (.submit feed question) s'

theorem moves_act {s : Scene} (hs : Sound s.session) (a : Act) :
    Moves s.session a (s.act a).session := by
  have hacted := s.act_acted a
  generalize (s.act a).session = s' at hacted
  cases hacted with
  | idles | reopens => exact .stays rfl rfl id
  | refeeds => exact .stays rfl (Session.length_updateRequest ..) id
  | @asks feed question =>
    rcases s.session.submit_cases feed question with ⟨e, -, hs' | hs'⟩ | ⟨-, -, hs'⟩
    · rw [hs']
      exact .stays rfl rfl id
    · rw [hs']
      exact .stays rfl rfl id
    · have hok := congrArg Prod.fst hs'
      rw [hs']
      exact .begins rfl (by simp) hok
  | polls hpolled =>
    cases hpolled with
    | aborts => exact .stays rfl (Session.length_updateRequest ..) fun h => nomatch h
    | refused | waits | aborted | clears | found => exact .stays rfl rfl id
  | drives hdrive =>
    cases hdrive with
    | ended => exact .stays rfl rfl id
    | waits | discards | folds => exact .stays rfl (Session.length_updateRequest ..) id
    | ends hr hd =>
      rw [Session.finishDriver_eq (by exact hs.active_of_request? hr hd)]
      exact .ends rfl ((Session.length_updateRequest ..).trans (Session.length_updateRequest ..))
    | closes hr hd =>
      rw [Session.finishDriver_eq (by exact hs.active_of_request? hr hd)]
      exact .ends rfl ((Session.length_updateRequest ..).trans (Session.length_updateRequest ..))
  | @writes w =>
    obtain ⟨store, mint, hwrite⟩ := s.session.write_eq w
    rw [hwrite]
    exact .stays rfl rfl id

theorem Moves.length_le {s s' : Session} {a : Act} (h : Moves s a s') :
    s.requests.length ≤ s'.requests.length := by
  cases h with
  | stays hactive hlength | ends hactive hlength => exact Nat.le_of_eq hlength.symm
  | begins hactive hlength => exact hlength ▸ Nat.le_succ _

/-! ### Who has aborted what -/

/-- The call and the request of an act under which a request is moved to canceling. -/
def aborts (s : Scene) : Act → Option (Nat × Nat)
  | .poll i =>
    if s.session.phase = .streaming ∧ (s.poll i).session.phase = .canceling then
      s.session.active.map fun a => (i, a.number)
    else none
  | _ => none

/-- The calls that have moved a request to canceling in a run, each with the number of the
request. -/
def aborted : Scene → List Act → List (Nat × Nat)
  | _, [] => []
  | s, a :: acts => (s.aborts a).toList ++ aborted (s.act a) acts

/-- Only the first poll of a call moves a request to canceling. -/
theorem aborts_eq_some {s : Scene} {a : Act} {p : Nat × Nat} (h : s.aborts a = some p) :
    s.session.phase = .streaming ∧ (∃ active, s.session.active = some active ∧
        active.number = p.2) ∧ (s.act a).session.phase = .canceling ∧
      ∃ c, s.calls[p.1]? = some { call := c } ∧
        (s.act a).calls[p.1]? = some { call := c, stage := .waiting } := by
  cases a with
  | poll i =>
    rw [aborts] at h
    split at h
    · rename_i hphase
      obtain ⟨active, hactive, rfl⟩ := Option.map_eq_some_iff.mp h
      refine ⟨hphase.1, ⟨active, hactive, rfl⟩, hphase.2, ?_⟩
      rcases s.waits_or_answered i with ⟨c, stage, hv⟩ | hanswered
      · have hlt := (List.getElem?_eq_some_iff.mp hv).1
        have hpolled := s.session.poll_polled c stage
        have hpoll := poll_eq hv
        rw [hpoll] at hphase
        rw [act, hpoll]
        generalize s.session.poll c stage = r at hpolled hphase
        have hmoved : r.2.phase ≠ s.session.phase := by
          rw [hphase.1, hphase.2]
          simp
        cases hpolled with
        | aborts hc hp ha => exact ⟨c, hv, List.getElem?_set_self hlt⟩
        | refused | waits | aborted | clears | found => exact absurd rfl hmoved
      · rw [poll_eq_self hanswered, hphase.1] at hphase
        exact absurd hphase.2 (by simp)
    · exact absurd h (by simp)
  | _ => exact absurd h (by simp [aborts])

/-- The call `p.1` was polled, and the session does not stream for the request `p.2` and
never will. -/
structure Spent (p : Nat × Nat) (s : Scene) : Prop where
  made : p.1 < s.calls.length
  polled : ∀ v, s.calls[p.1]? = some v → v.stage = .waiting
  asked : p.2 ≤ s.session.requests.length
  past : s.session.phase = .streaming → ∀ active, s.session.active = some active →
    active.number ≠ p.2

variable {s : Scene} {p : Nat × Nat}

theorem spent_of_aborts (hs : Sound s.session) {a : Act} (h : s.aborts a = some p) :
    Spent p (s.act a) := by
  obtain ⟨-, ⟨active, hactive, hnumber⟩, hphase, c, -, hv⟩ := aborts_eq_some h
  refine ⟨(List.getElem?_eq_some_iff.mp hv).1, ?_, ?_, ?_⟩
  · intro v hv'
    rw [hv, Option.some.injEq] at hv'
    rw [← hv']
  · rw [← hnumber]
    exact (hs.number_le hactive).trans (moves_act hs a).length_le
  · intro hstreaming
    rw [hphase] at hstreaming
    cases hstreaming

theorem Spent.act (hs : Sound s.session) (h : Spent p s) (a : Act) : Spent p (s.act a) := by
  refine ⟨?_, ?_, h.asked.trans (moves_act hs a).length_le, ?_⟩
  · rw [length_calls_act]
    cases a with
    | call c => exact Nat.lt_succ_of_lt h.made
    | _ => exact h.made
  · intro v hv
    cases s.called_act a hv with
    | stays hv => exact h.polled v hv
    | isMade hi => exact absurd hi (Nat.ne_of_lt h.made)
    | isPolled => rfl
  · -- To stream again the session needs a new question, and that has a greater number.
    intro hstreaming active hactive
    cases moves_act hs a with
    | stays hsame hlength hphase =>
      exact h.past (hphase hstreaming) active (hsame.symm.trans hactive)
    | ends hnone => exact absurd (hnone.symm.trans hactive) (by simp)
    | begins hnew =>
      rw [hnew, Option.some.injEq] at hactive
      rw [← hactive]
      exact Nat.ne_of_gt (Nat.lt_succ_of_le h.asked)

/-- Neither that call nor that request comes again. -/
theorem Spent.ne_of_aborts (h : Spent p s) {a : Act} {q : Nat × Nat} (hq : s.aborts a = some q) :
    p.1 ≠ q.1 ∧ p.2 ≠ q.2 := by
  obtain ⟨hstreaming, ⟨active, hactive, hnumber⟩, -, c, hv, -⟩ := aborts_eq_some hq
  refine ⟨?_, ?_⟩
  · intro hsame
    rw [← hsame] at hv
    cases h.polled _ hv
  · rw [← hnumber]
    exact (h.past hstreaming active hactive).symm

theorem Spent.ne_of_mem (acts : List Act) : ∀ {s : Scene}, Sound s.session → Spent p s →
    ∀ q ∈ aborted s acts, p.1 ≠ q.1 ∧ p.2 ≠ q.2 := by
  induction acts with
  | nil =>
    intro s hs h q hq
    exact absurd hq List.not_mem_nil
  | cons a acts ih =>
    intro s hs h q hq
    rcases List.mem_append.mp hq with hq | hq
    · exact h.ne_of_aborts (Option.mem_toList.mp hq)
    · exact ih (sound_act hs a) (h.act hs a) q hq

/-- No call aborts twice, and no request is aborted twice. -/
theorem pairwise_aborted (acts : List Act) : ∀ {s : Scene}, Sound s.session →
    (aborted s acts).Pairwise fun p q => p.1 ≠ q.1 ∧ p.2 ≠ q.2 := by
  induction acts with
  | nil =>
    intro s hs
    exact .nil
  | cons a acts ih =>
    intro s hs
    have hrest := ih (sound_act hs a)
    rw [aborted]
    cases h : s.aborts a with
    | none => exact hrest
    | some p => exact .cons (Spent.ne_of_mem acts (sound_act hs a) (spent_of_aborts hs h)) hrest

theorem Spent.run (hs : Sound s.session) (h : Spent p s) (acts : List Act) :
    Spent p (s.run acts) :=
  (run_induction (P := fun s => Sound s.session ∧ Spent p s)
    (fun _ a (_ : True) h => ⟨sound_act h.1 a, h.2.act h.1 a⟩) ⟨hs, h⟩ acts fun _ _ => trivial).2

theorem spent_of_mem (acts : List Act) : ∀ {s : Scene}, Sound s.session → p ∈ aborted s acts →
    Spent p (s.run acts) := by
  induction acts with
  | nil =>
    intro s hs hp
    exact absurd hp List.not_mem_nil
  | cons a acts ih =>
    intro s hs hp
    rcases List.mem_append.mp hp with hp | hp
    · exact (spent_of_aborts hs (Option.mem_toList.mp hp)).run (sound_act hs a) acts
    · exact ih (sound_act hs a) hp

/-- Who aborts something is among the calls `begun`. -/
def Accounted (begun : List (Nat × Nat)) (s : Scene) : Prop :=
  ∀ i v, s.calls[i]? = some v → v.Aborts → ∃ n, (i, n) ∈ begun

theorem Accounted.act {begun : List (Nat × Nat)} (h : Accounted begun s) (a : Act) :
    Accounted (begun ++ (s.aborts a).toList) (s.act a) := by
  intro i v hget haborts
  have hbefore : ∀ v, s.calls[i]? = some v → v.Aborts →
      ∃ n, (i, n) ∈ begun ++ (s.aborts a).toList := by
    intro v hv haborts
    obtain ⟨n, hn⟩ := h i v hv haborts
    exact ⟨n, List.mem_append_left _ hn⟩
  cases s.called_act a hget with
  | stays hv => exact hbefore v hv haborts
  | isMade => simp [Visit.Aborts] at haborts
  | @isPolled c stage r ha hv hpolled hs =>
    -- Who goes on waiting, or is told now, waited before; who begins to wait aborts by this act.
    cases hpolled with
    | refused | clears | found => simp [Visit.Aborts] at haborts
    | waits hc =>
      have hcall : c = .abort := by simpa [Visit.Aborts] using haborts
      exact hbefore _ hv (Or.inr ⟨hcall, hc hcall, rfl⟩)
    | aborted => exact hbefore _ hv (Or.inr ⟨rfl, rfl, rfl⟩)
    | @aborts c active hc hp hactive =>
      have hmoved : (s.poll i).session.phase = .canceling := by
        rw [hs]
        rfl
      refine ⟨active.number, List.mem_append_right _ ?_⟩
      rw [ha, Scene.aborts, if_pos ⟨hp, hmoved⟩, hactive]
      exact List.mem_singleton_self _

theorem Accounted.run (acts : List Act) : ∀ {s : Scene} {begun : List (Nat × Nat)},
    Accounted begun s → Accounted (begun ++ aborted s acts) (s.run acts) := by
  induction acts with
  | nil =>
    intro s begun h
    simpa [aborted] using h
  | cons a acts ih =>
    intro s begun h
    have hnext := ih (h.act a)
    rwa [List.append_assoc] at hnext

/-- In a new session nobody has aborted anything. -/
theorem accounted_run (message : String) (acts : List Act) :
    Accounted (aborted (start message) acts) ((start message).run acts) := by
  have hnone : Accounted [] (start message) := fun _ _ hv => absurd hv (by simp [start])
  exact hnone.run acts

/-- **Aborting twice is aborting once.**  No request is moved to canceling by two calls, and
who is told that something was aborted has moved one.  An abort whose first poll does not
find the session streaming is told so at once and changes nothing but itself.  And aborts
that come too late go unnoticed: a run without them leaves the same sessions, act by act,
and tells everybody else the same. -/
theorem abort_once (message : String) (acts : List Act) :
    let s := (start message).run acts
    let begun := aborted (start message) acts
    (begun.Pairwise fun p q => p.1 ≠ q.1 ∧ p.2 ≠ q.2) ∧
      (∀ i v, s.calls[i]? = some v → v.outcome = some (.aborted true) → ∃ n, (i, n) ∈ begun) ∧
      (∀ i, s.calls[i]? = some { call := .abort } → s.session.phase ≠ .streaming →
        s.act (.poll i) = { s with
          calls := s.calls.set i
            { call := .abort, stage := .waiting, outcome := some (.aborted false) } }) ∧
      ∀ out, Late out (start message) acts →
        let others := without out 0 acts
        ((start message).run others).session = s.session ∧
          Kept out s.calls ((start message).run others).calls ∧
          record (fun _ => false) (start message) others = record out (start message) acts := by
  intro s begun
  refine ⟨pairwise_aborted acts (sound_start message), ?_, ?_, ?_⟩
  · intro i v hv htold
    exact accounted_run message acts i v hv (Or.inl htold)
  · intro i hv hphase
    exact poll_abort_of_not_streaming hphase hv
  · intro out hlate others
    obtain ⟨hbeside, hrecord⟩ := Beside.run acts (beside_start out message) hlate
    exact ⟨hbeside.session, hbeside.calls, hrecord⟩

/-- One request and three aborts: the second is polled while the first one waits, and the
third was not polled when all is over. -/
def abortedAgain : List Act :=
  [.submit { worker := .working { holds := true } } "Why?", .call .abort, .call .abort, .poll 0,
    .poll 1, .work 1, .receive 1, .poll 0, .call .abort]

/-- Only the first one aborts something, and it might as well have been alone. -/
theorem abort_once_abortedAgain :
    let s := (start "stopped").run abortedAgain
    let alone : List Act :=
      [.submit { worker := .working { holds := true } } "Why?", .call .abort, .poll 0, .work 1,
        .receive 1, .poll 0]
    aborted (start "stopped") abortedAgain = [(0, 1)] ∧
      s.calls.map (·.outcome) = [some (.aborted true), some (.aborted false), none] ∧
      (s.act (.poll 2)).session = s.session ∧
      ((start "stopped").run alone).session = s.session := by
  intro s alone
  obtain ⟨-, -, hlast, hothers⟩ := abort_once "stopped" abortedAgain
  have hlate : Late (fun i => i ≠ 0) (start "stopped") abortedAgain := by decide
  have hsame := (hothers _ hlate).1
  have halone : without (fun i => i ≠ 0) 0 abortedAgain = alone := by rfl
  rw [halone] at hsame
  exact ⟨by decide, by decide, by rw [hlast 2 rfl (by decide)], hsame⟩

/-! ### Waiting for the end -/

/-- The active request is the last that was accepted. -/
theorem active_number_run (message : String) (acts : List Act) {active : Active}
    (h : ((start message).run acts).session.active = some active) :
    active.number = ((start message).run acts).session.requests.length := by
  have hinvariant := run_induction
    (P := fun s => Sound s.session ∧
      ∀ active, s.session.active = some active → active.number = s.session.requests.length)
    (fun s a (_ : True) h => by
      refine ⟨sound_act h.1 a, fun active hactive => ?_⟩
      cases moves_act h.1 a with
      | stays hsame hlength =>
        rw [hlength]
        exact h.2 active (hsame.symm.trans hactive)
      | ends hnone => exact absurd (hnone.symm.trans hactive) (by simp)
      | begins hnew hlength =>
        rw [hnew, Option.some.injEq] at hactive
        rw [hlength, ← hactive])
    ⟨sound_start message, by simp [start]⟩ acts fun _ _ => trivial
  exact hinvariant.2 active h

/-- A poll that finds the session busy leaves a call waiting. -/
theorem poll_waiting_of_busy {s : Scene} {i : Nat} {c : Call}
    (hv : s.calls[i]? = some { call := c, stage := .waiting }) (hbusy : s.session.phase ≠ .idle) :
    s.act (.poll i) = s := by
  have hpoll : s.session.poll c .waiting = (none, s.session) := if_neg hbusy
  rw [act, poll_eq hv, hpoll]
  have hset : s.calls.set i { call := c, stage := .waiting } = s.calls := by
    obtain ⟨hlt, hget⟩ := List.getElem?_eq_some_iff.mp hv
    rw [← hget, List.set_getElem_self]
  rw [hset]

/-- **An abort that waits is told that its request is over when a poll finds the session
idle.**  A poll that finds it busy leaves the call as it is: its request is still being
canceled, or it is over and a newer one has come in between.  So whoever asks before the
abort is polled makes it wait for an answer that it has no part in. -/
theorem abort_answers (message : String) (acts : List Act) (i : Nat) :
    let s := (start message).run acts
    s.calls[i]? = some { call := .abort, stage := .waiting } →
    ∃ n, (i, n) ∈ aborted (start message) acts ∧
      (s.session.phase = .idle → s.act (.poll i) = { s with
        calls := s.calls.set i
          { call := .abort, stage := .waiting, outcome := some (.aborted true) } }) ∧
      (s.session.phase ≠ .idle → s.act (.poll i) = s ∧
        ∃ active, s.session.active = some active ∧
          (active.number = n ∧ s.session.phase = .canceling ∨ n < active.number)) := by
  intro s hv
  have hs : Sound s.session := sound_run (sound_start message) acts
  obtain ⟨n, hn⟩ := accounted_run message acts i _ hv (Or.inr ⟨rfl, rfl, rfl⟩)
  have hspent : Spent (i, n) s := spent_of_mem acts (sound_start message) hn
  refine ⟨n, hn, ?_, ?_⟩
  · intro hidle
    have hpoll : s.session.poll .abort .waiting = (some (.aborted true), s.session) :=
      if_pos hidle
    rw [act, poll_eq hv, hpoll]
  · intro hbusy
    refine ⟨poll_waiting_of_busy hv hbusy, ?_⟩
    obtain ⟨active, hactive⟩ := Option.ne_none_iff_exists'.mp fun h => hbusy (hs.idle_iff.mpr h)
    refine ⟨active, hactive, ?_⟩
    have hlast : n ≤ active.number := by
      rw [active_number_run message acts hactive]
      exact hspent.asked
    rcases Nat.eq_or_lt_of_le hlast with hsame | hnewer
    · refine Or.inl ⟨hsame.symm, ?_⟩
      cases hphase : s.session.phase with
      | idle => exact absurd hphase hbusy
      | streaming => exact absurd hsame.symm (hspent.past hphase active hactive)
      | canceling => rfl
    · exact Or.inr hnewer

/-- The first request is over and its turn is resolved, but the abort was not polled before
the next question. -/
def overtaken : List Act :=
  [.submit { worker := .working {} } "Why?", .call .abort, .poll 0, .work 1, .receive 1,
    .submit { worker := .working {} } "Who?"]

example :
    let s := (start "stopped").run overtaken
    s.session.active = some ⟨2, ⟨1⟩⟩ ∧ s.session.store.conversation.Settled ⟨0⟩ ∧
      s.calls[0]? = some { call := .abort, stage := .waiting } ∧ s.act (.poll 0) = s := by
  decide

end Scene

end Dialogue
