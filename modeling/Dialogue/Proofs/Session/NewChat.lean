/-
Starting a new chat.

The call asks the request that is underway to stop, waits, and clears the store in the poll
that finds the session idle.  It looks at nothing but the phase, at polls that may be far
apart, while others ask, abort and reopen chats; so that nothing of an older conversation
can come back has to follow from what an idle session is.  No driver is at work in it.  A
driver that has ended does nothing any more, whatever is still queued for it or sent to it
later, and a new driver comes only with a new question.
-/
import Dialogue.Proofs.Session.Delivery
import Dialogue.Proofs.Session.Without

namespace Dialogue

/-- Can the act put anything into an empty store?  It asks, reopens a chat, or writes to the
store directly. -/
def Act.puts : Act → Bool
  | .submit .. | .reopen .. | .write _ => true
  | _ => false

namespace Session

variable {s : Session}

/-- No driver is at work in an idle session. -/
theorem Sound.undriven_of_idle (h : Sound s) (hidle : s.phase = .idle) :
    ∀ r ∈ s.requests, r.isDriven = false := by
  intro r hr
  cases hd : r.isDriven with
  | false => rfl
  | true =>
    have hactive := h.active_of_driven hr hd
    rw [h.idle_iff.mp hidle] at hactive
    exact absurd hactive (by simp)

/-- A poll of a call that starts a new chat clears the store if it finds the session idle,
and else the call waits on. -/
theorem poll_newChat_cases (s : Session) (stage : Stage) :
    s.phase = .idle ∧
        s.poll .newChat stage = (some .finished, { s with store := s.store.reset }) ∨
      s.phase ≠ .idle ∧ (s.poll .newChat stage).1 = none := by
  have hpolled := s.poll_polled .newChat stage
  generalize s.poll .newChat stage = r at hpolled
  cases hpolled with
  | aborts hc hp => exact Or.inr ⟨by simp [hp], rfl⟩
  | waits hc hbusy => exact Or.inr ⟨hbusy, rfl⟩
  | clears hidle => exact Or.inl ⟨hidle, rfl⟩

/-- Nothing is left of what was said, and nothing can come of it any more. -/
structure Clean (s : Session) : Prop where
  idle : s.phase = .idle
  inactive : s.active = none
  /-- There are no turns, and the chat has no id. -/
  empty : s.store.conversation = {}
  undriven : ∀ r ∈ s.requests, r.isDriven = false

theorem Clean.refeed (h : Clean s) (n : Nat) (g : Event.Feed → Event.Feed) :
    Clean (s.refeed n g) :=
  ⟨h.idle, h.inactive, h.empty, forall_updateRequest h.undriven fun r hr _ => h.undriven r hr⟩

theorem Clean.drive (h : Clean s) {n : Nat} {s' : Session} (hdrive : s.Drive n s') : s' = s := by
  cases hdrive with
  | ended => rfl
  | waits hr hd | discards hr hd | folds hr hd | ends hr hd | closes hr hd =>
    exact absurd (hd.symm.trans (h.undriven _ (request?_mem hr))) (by simp)

theorem Clean.polled (h : Clean s) {c : Call} {stage : Stage} {r : Option Outcome × Session}
    (hpolled : s.Polled c stage r) : Clean r.2 := by
  cases hpolled with
  | aborts hc hp => exact absurd (h.idle.symm.trans hp) (by simp)
  | clears => exact ⟨h.idle, h.inactive, rfl, h.undriven⟩
  | refused | waits | aborted | found => exact h

end Session

namespace Scene

open Session

theorem clean_act {s : Scene} (h : Clean s.session) {a : Act} (ha : a.puts = false) :
    Clean (s.act a).session := by
  have hacted := s.act_acted a
  generalize (s.act a).session = s' at hacted
  cases hacted with
  | idles => exact h
  | polls hpolled => exact h.polled hpolled
  | refeeds => exact h.refeed ..
  | drives hdrive =>
    rw [h.drive hdrive]
    exact h
  | asks | reopens | writes => exact absurd ha (by simp [Act.puts])

theorem clean_run {s : Scene} (h : Clean s.session) (acts : List Act)
    (hacts : ∀ a ∈ acts, a.puts = false) : Clean (s.run acts).session :=
  run_induction (P := fun s => Clean s.session) (fun _ _ ha hs => clean_act hs ha) h acts hacts

/-- **A new chat is a clean one.**  The call that starts it is answered by the first poll that
finds the session idle, and by no other.  Then the session is idle, without an active request,
and the store is empty.  From then on no driver of a request that was there does anything,
whatever happens; and as long as nobody asks, reopens a chat or writes to the store, all stays
clean. -/
theorem new_chat_clean (message : String) (acts : List Act) (i : Nat) (stage : Stage) :
    let s := (start message).run acts
    let s' := s.act (.poll i)
    s.calls[i]? = some { call := .newChat, stage } →
    ((∃ v, s'.calls[i]? = some v ∧ v.outcome = some .finished) ↔ s.session.phase = .idle) ∧
      ((∃ v, s'.calls[i]? = some v ∧ v.outcome = some .finished) →
        Clean s'.session ∧ ∀ more,
          (∀ r ∈ s'.session.requests,
            ((s'.run more).act (.receive r.number)).session = (s'.run more).session) ∧
          ((∀ a ∈ more, a.puts = false) → Clean (s'.run more).session)) := by
  intro s s' hv
  have hs : Sound s.session := sound_run (sound_start message) acts
  have hs' : Sound s'.session := sound_act hs _
  have hlt : i < s.calls.length := (List.getElem?_eq_some_iff.mp hv).1
  have hpoll : s' = s.poll i := rfl
  rw [poll_eq hv] at hpoll
  have hcall : s'.calls[i]? = some
      { call := .newChat, stage := .waiting, outcome := (s.session.poll .newChat stage).1 } := by
    rw [hpoll]
    exact List.getElem?_set_self hlt
  have hanswered : (∃ v, s'.calls[i]? = some v ∧ v.outcome = some .finished) ↔
      s.session.phase = .idle := by
    rw [hcall]
    rcases s.session.poll_newChat_cases stage with ⟨hidle, hclears⟩ | ⟨hbusy, hnone⟩
    · simp [hidle, hclears]
    · simp [hbusy, hnone]
  refine ⟨hanswered, fun hfinished => ?_⟩
  have hidle := hanswered.mp hfinished
  have hclean : Clean s'.session := by
    rcases s.session.poll_newChat_cases stage with ⟨-, hclears⟩ | ⟨hbusy, -⟩
    · rw [hpoll, hclears]
      exact ⟨hidle, hs.idle_iff.mp hidle, rfl, hs.undriven_of_idle hidle⟩
    · exact absurd hidle hbusy
  refine ⟨hclean, fun more => ⟨fun r hr => ?_, clean_run hclean more⟩⟩
  obtain ⟨r', hr', hd'⟩ := request?_run (P := fun r => r.isDriven = false)
    (fun a hs hr hd => (ended_act hs hr hd a).1) more hs' (hs'.request?_of_mem hr)
    (hclean.undriven r hr)
  exact (receive_of_ended hr' hd').1

/-- An abort is underway when the call begins, and the request's turn has its first piece.
More is queued when the worker ends and the driver, too. -/
def newChatDuringAbort : List Act :=
  [.submit { worker := .working { batches := [[.chunk "Hel"], [.chunk "lo"]], holds := true } }
      "Why?", .work 1, .receive 1, .work 1, .call .abort, .call .newChat, .poll 0, .poll 1, .work 1,
    .receive 1, .receive 1]

/-- The call clears the store at its second poll, and late steps of the old request leave it
empty. -/
theorem new_chat_clean_duringAbort :
    let s := (start "stopped").run newChatDuringAbort
    let s' := s.act (.poll 1)
    s.calls[1]? = some { call := .newChat, stage := .waiting } ∧
      s.session.store.conversation.turns =
        [((Turn.pending ⟨0⟩ "Why?").accumulate (.chunk "Hel")).cancel "stopped"] ∧
      Clean s'.session ∧ Clean (s'.run [.work 1, .receive 1, .poll 0]).session := by
  intro s s'
  have hv : s.calls[1]? = some { call := .newChat, stage := .waiting } := by decide
  obtain ⟨hanswered, hclean⟩ := new_chat_clean "stopped" newChatDuringAbort 1 .waiting hv
  obtain ⟨hnow, hlater⟩ := hclean (hanswered.mpr (by decide))
  exact ⟨hv, by decide, hnow, (hlater _).2 (by decide)⟩

end Scene

end Dialogue
