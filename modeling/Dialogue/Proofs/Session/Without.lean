/-
Taking calls out of a run.

A run tells each of its callers something, and leaves the session in some state after each
act (`record`).  Some of the calls are taken out, with all that is done to them (`without`);
calls are known by their places, so the places of those that stay are counted anew.  What is
shown here is when nobody notices: if the calls that are taken out are aborts and no poll of
them finds the session streaming, then the record of the other acts is the same with them
and without them.

The two runs are compared act by act.  The session is the same in both, and each call that
stays is as it is, at its new place (`Beside`).
-/
import Mathlib.Data.Nat.Count
import Dialogue.Proofs.Session.Step

namespace Dialogue

/-! ### Runs without some calls -/

/-- The place of a call when the calls that `out` marks are taken out. -/
def place (out : Nat → Bool) (i : Nat) : Nat := Nat.count (fun k => out k = false) i

namespace Act

/-- How many calls were made when the act is over. -/
def made (before : Nat) : Act → Nat
  | .call _ => before + 1
  | _ => before

/-- Does the act make or poll a call that is taken out? -/
def isOut (out : Nat → Bool) (made : Nat) : Act → Bool
  | .call _ => out made
  | .poll i => out i
  | _ => false

/-- The act with the places of calls counted anew. -/
def renumber (out : Nat → Bool) : Act → Act
  | .poll i => .poll (place out i)
  | a => a

end Act

/-- The acts without those of the calls that are taken out; `made` calls were made before. -/
def without (out : Nat → Bool) : Nat → List Act → List Act
  | _, [] => []
  | made, a :: acts =>
    if a.isOut out made then without out (a.made made) acts
    else a.renumber out :: without out (a.made made) acts

/-- What an act tells who does it. -/
inductive Reply where
  | asked (result : Except SubmitError TurnId)
  | polled (outcome : Option Outcome)
  | reopened (result : Except ReopenError Nat) (notices : List Notice)
  | worked (reply : Option Event.WorkerReply)
  | emitted (heard : Option Bool)
  | closed (wasOpen : Bool)
  | nothing

namespace Scene

/-- What an act tells in a scene. -/
def reply (s : Scene) : Act → Reply
  | .submit feed question => .asked (s.session.submit feed question).1
  | .poll i => .polled ((s.poll i).calls[i]?.bind (·.outcome))
  | .reopen chatId reply =>
    let r := Dialogue.reopen s.session.store s.session.mint chatId reply
    .reopened r.result r.notices
  | .work n => .worked ((s.session.request? n).map (·.feed.pollWorker.1))
  | .emit n e => .emitted (s.session.emit n e).1
  | .close n => .closed (s.session.closeStream n).1
  | .call _ | .stop _ | .receive _ | .write _ => .nothing

/-- What the acts tell that are not taken out, each with the session that it leaves. -/
def record (out : Nat → Bool) : Scene → List Act → List (Reply × Session)
  | _, [] => []
  | s, a :: acts =>
    if a.isOut out s.calls.length then record out (s.act a) acts
    else (s.reply a, (s.act a).session) :: record out (s.act a) acts

/-- An act that makes a call that is taken out makes an abort, and one that polls it does not
find the session streaming. -/
def ComesLate (out : Nat → Bool) (s : Scene) : Act → Prop
  | .call c => out s.calls.length = true → c = .abort
  | .poll i => out i = true → s.session.phase ≠ .streaming
  | _ => True

/-- The calls that are taken out are aborts that come too late. -/
def Late (out : Nat → Bool) : Scene → List Act → Prop
  | _, [] => True
  | s, a :: acts => s.ComesLate out a ∧ Late out (s.act a) acts

instance decidableComesLate (out : Nat → Bool) (s : Scene) (a : Act) :
    Decidable (s.ComesLate out a) :=
  match a with
  | .call c => inferInstanceAs (Decidable (out s.calls.length = true → c = .abort))
  | .poll i => inferInstanceAs (Decidable (out i = true → s.session.phase ≠ .streaming))
  | .submit .. | .reopen .. | .work _ | .emit .. | .close _ | .stop _ | .receive _ | .write _ =>
    .isTrue trivial

instance decidableLate (out : Nat → Bool) : (s : Scene) → (acts : List Act) →
    Decidable (Late out s acts)
  | _, [] => .isTrue trivial
  | s, a :: acts =>
    have := decidableLate out (s.act a) acts
    inferInstanceAs (Decidable (s.ComesLate out a ∧ Late out (s.act a) acts))

end Scene

/-- Nothing is done to a call that is taken out if none is. -/
theorem Act.isOut_none (a : Act) (made : Nat) : a.isOut (fun _ => false) made = false := by
  cases a <;> rfl

/-! ### Places -/

section

variable {out : Nat → Bool} {i j : Nat}

theorem place_succ (h : out i = false) : place out (i + 1) = place out i + 1 := by
  rw [place, Nat.count_succ, if_pos h]
  rfl

theorem place_succ_of_out (h : out i = true) : place out (i + 1) = place out i := by
  rw [place, Nat.count_succ, if_neg (by simp [h])]
  rfl

theorem place_mono (h : i ≤ j) : place out i ≤ place out j := Nat.count_monotone _ h

theorem place_lt (hi : out i = false) (h : i < j) : place out i < place out j :=
  Nat.count_strict_mono hi h

theorem place_inj (hi : out i = false) (hj : out j = false) (h : place out i = place out j) :
    i = j := Nat.count_injective hi hj h

end

/-- The calls `less` are those of `more` that stay, in order. -/
structure Kept (out : Nat → Bool) (more less : List Visit) : Prop where
  length : less.length = place out more.length
  get : ∀ i, out i = false → less[place out i]? = more[i]?

namespace Kept

variable {out : Nat → Bool} {more less : List Visit} {i : Nat}

/-- Calls that are not there are not there without the others either. -/
theorem get_none (h : Kept out more less) (hi : more.length ≤ i) : less[place out i]? = none := by
  rw [List.getElem?_eq_none_iff, h.length]
  exact place_mono hi

theorem append (h : Kept out more less) (hout : out more.length = false) (v : Visit) :
    Kept out (more ++ [v]) (less ++ [v]) := by
  have hplace : place out (more.length + 1) = less.length + 1 := by
    rw [place_succ hout, h.length]
  refine ⟨by simp [hplace], ?_⟩
  intro i hi
  rcases Nat.lt_trichotomy i more.length with hlt | rfl | hgt
  · have hlt' : place out i < less.length := h.length ▸ place_lt hi hlt
    rw [List.getElem?_append_left hlt, List.getElem?_append_left hlt', h.get i hi]
  · rw [← h.length, List.getElem?_concat_length, List.getElem?_concat_length]
  · have hgt' : less.length + 1 ≤ place out i := hplace ▸ place_mono hgt
    rw [List.getElem?_eq_none (by simpa using hgt'),
      List.getElem?_eq_none (by simpa using Nat.succ_le_of_lt hgt)]

theorem append_out (h : Kept out more less) (hout : out more.length = true) (v : Visit) :
    Kept out (more ++ [v]) less := by
  refine ⟨?_, ?_⟩
  · rw [List.length_append, List.length_singleton, place_succ_of_out hout, h.length]
  · intro i hi
    have hne : i ≠ more.length := fun heq => by simp [← heq, hi] at hout
    rcases Nat.lt_or_gt_of_ne hne with hlt | hgt
    · rw [List.getElem?_append_left hlt, h.get i hi]
    · rw [h.get_none (Nat.le_of_lt hgt),
        List.getElem?_eq_none (by simpa using Nat.succ_le_of_lt hgt)]

theorem set (h : Kept out more less) (hi : out i = false) (v : Visit) :
    Kept out (more.set i v) (less.set (place out i) v) := by
  refine ⟨by simpa using h.length, ?_⟩
  intro j hj
  by_cases hsame : i = j
  · subst hsame
    rcases Nat.lt_or_ge i more.length with hlt | hge
    · have hlt' : place out i < less.length := h.length ▸ place_lt hi hlt
      rw [List.getElem?_set_self hlt', List.getElem?_set_self hlt]
    · rw [List.set_eq_of_length_le hge, List.set_eq_of_length_le (h.length ▸ place_mono hge),
        h.get i hi]
  · have hplace : place out i ≠ place out j := fun heq => hsame (place_inj hi hj heq)
    rw [List.getElem?_set_ne hplace, List.getElem?_set_ne hsame, h.get j hj]

theorem set_out (h : Kept out more less) (hi : out i = true) (v : Visit) :
    Kept out (more.set i v) less := by
  refine ⟨by simpa using h.length, ?_⟩
  intro j hj
  have hne : i ≠ j := fun heq => by simp [heq, hj] at hi
  rw [List.getElem?_set_ne hne, h.get j hj]

end Kept

/-! ### Single calls -/

theorem getElem?_concat_cases {calls : List Visit} {v w : Visit} {i : Nat}
    (h : (calls ++ [v])[i]? = some w) : calls[i]? = some w ∨ i = calls.length ∧ w = v := by
  rcases Nat.lt_trichotomy i calls.length with hlt | rfl | hgt
  · rw [List.getElem?_append_left hlt] at h
    exact Or.inl h
  · rw [List.getElem?_concat_length, Option.some.injEq] at h
    exact Or.inr ⟨rfl, h.symm⟩
  · rw [List.getElem?_eq_none (by simpa using Nat.succ_le_of_lt hgt)] at h
    exact absurd h (by simp)

theorem getElem?_set_cases {calls : List Visit} {v w : Visit} {i j : Nat}
    (h : (calls.set i v)[j]? = some w) : calls[j]? = some w ∨ j = i ∧ w = v := by
  by_cases hsame : i = j
  · subst hsame
    have hlt : i < calls.length := by
      have hlt := (List.getElem?_eq_some_iff.mp h).1
      rwa [List.length_set] at hlt
    rw [List.getElem?_set_self hlt, Option.some.injEq] at h
    exact Or.inr ⟨rfl, h.symm⟩
  · rw [List.getElem?_set_ne hsame] at h
    exact Or.inl h

/-! ### Polls of an abort that comes too late -/

/-- An abort that was not polled, or was told that there is nothing to abort. -/
def Visit.Idles (v : Visit) : Prop :=
  v = { call := .abort } ∨
    v = { call := .abort, stage := .waiting, outcome := some (.aborted false) }

theorem Session.poll_abort_of_not_streaming {s : Session} (h : s.phase ≠ .streaming) :
    s.poll .abort .fresh = (some (.aborted false), s) := by
  rcases s.beginAbort_eq with ⟨a, hp, -, -⟩ | ⟨-, hbegin⟩
  · exact absurd hp h
  · simp [Session.poll, hbegin]

namespace Scene

theorem poll_eq {s : Scene} {i : Nat} {c : Call} {stage : Stage}
    (hv : s.calls[i]? = some { call := c, stage }) :
    s.poll i = {
      session := (s.session.poll c stage).2
      calls := s.calls.set i
        { call := c, stage := .waiting, outcome := (s.session.poll c stage).1 } } := by
  simp [poll, hv]

/-- A poll of a call that is not there, or that has answered, does nothing. -/
theorem poll_eq_self {s : Scene} {i : Nat}
    (hv : ∀ v, s.calls[i]? = some v → v.outcome ≠ none) : s.poll i = s := by
  unfold poll
  split
  · rename_i hsome
    exact absurd rfl (hv _ hsome)
  · rfl

theorem waits_or_answered (s : Scene) (i : Nat) :
    (∃ c stage, s.calls[i]? = some { call := c, stage }) ∨
      ∀ v, s.calls[i]? = some v → v.outcome ≠ none := by
  by_cases hwaits : ∃ c stage, s.calls[i]? = some { call := c, stage }
  · exact Or.inl hwaits
  · refine Or.inr ?_
    rintro ⟨c, stage, outcome⟩ hv rfl
    exact hwaits ⟨c, stage, hv⟩

/-- The first poll of an abort that finds nothing to abort tells so, and does nothing. -/
theorem poll_abort_of_not_streaming {s : Scene} (h : s.session.phase ≠ .streaming) {i : Nat}
    (hv : s.calls[i]? = some { call := .abort }) :
    s.poll i = { s with
      calls := s.calls.set i { call := .abort, stage := .waiting, outcome := some (.aborted false) }
      } := by
  simp [poll, hv, Session.poll_abort_of_not_streaming h]

/-! ### Two runs beside each other -/

/-- The scene `less` is `more` without the calls that are taken out, and these are aborts
that have done nothing. -/
structure Beside (out : Nat → Bool) (more less : Scene) : Prop where
  session : less.session = more.session
  calls : Kept out more.calls less.calls
  idles : ∀ i v, out i = true → more.calls[i]? = some v → v.Idles

theorem length_calls_act (s : Scene) (a : Act) :
    (s.act a).calls.length = a.made s.calls.length := by
  cases a with
  | call c => simp [act, Act.made]
  | poll i =>
    simp only [act, Act.made, poll]
    split
    · simp
    · rfl
  | _ => rfl

variable {out : Nat → Bool} {more less : Scene}

/-- What is done to a call that is taken out. -/
theorem Beside.act_out (h : Beside out more less) {a : Act}
    (ha : a.isOut out more.calls.length = true) (hlate : more.ComesLate out a) :
    Beside out (more.act a) less := by
  cases a with
  | call c =>
    obtain rfl := hlate ha
    refine ⟨h.session, h.calls.append_out ha _, ?_⟩
    intro i v hi hv
    rcases getElem?_concat_cases hv with hv | ⟨-, rfl⟩
    · exact h.idles i v hi hv
    · exact Or.inl rfl
  | poll i =>
    have hi : out i = true := ha
    rw [act]
    cases hv : more.calls[i]? with
    | none => simpa [poll, hv] using h
    | some v =>
      rcases h.idles i v hi hv with rfl | rfl
      · rw [poll_abort_of_not_streaming (hlate hi) hv]
        refine ⟨h.session, h.calls.set_out hi _, ?_⟩
        intro j w hj hw
        rcases getElem?_set_cases hw with hw | ⟨-, rfl⟩
        · exact h.idles j w hj hw
        · exact Or.inr rfl
      · simpa [poll, hv] using h
  | _ => exact absurd ha Bool.false_ne_true

/-- All else is done in both, and tells the same. -/
theorem Beside.act (h : Beside out more less) {a : Act}
    (ha : a.isOut out more.calls.length = false) :
    less.reply (a.renumber out) = more.reply a ∧
      Beside out (more.act a) (less.act (a.renumber out)) := by
  cases a with
  | call c =>
    refine ⟨rfl, h.session, h.calls.append ha _, ?_⟩
    intro i v hi hv
    rcases getElem?_concat_cases hv with hv | ⟨rfl, -⟩
    · exact h.idles i v hi hv
    · exact absurd (hi.symm.trans ha) (by simp)
  | poll i =>
    have hi : out i = false := ha
    have hget := h.calls.get i hi
    have htold : ∀ {x y : Option Visit}, x = y →
        Reply.polled (x.bind (·.outcome)) = .polled (y.bind (·.outcome)) := by
      rintro x y rfl
      rfl
    rw [Act.renumber, reply, reply, Scene.act, Scene.act]
    rcases more.waits_or_answered i with ⟨c, stage, hv⟩ | hanswered
    · -- The call is the same and so is the session, so the poll is.
      rw [poll_eq hv, poll_eq (hget.trans hv), h.session]
      have hkept := h.calls.set hi
        { call := c, stage := .waiting, outcome := (more.session.poll c stage).1 }
      refine ⟨htold (hkept.get i hi), rfl, hkept, ?_⟩
      intro j v hj hv
      rcases getElem?_set_cases hv with hv | ⟨rfl, -⟩
      · exact h.idles j v hj hv
      · exact absurd (hj.symm.trans hi) (by simp)
    · rw [poll_eq_self hanswered,
        poll_eq_self fun v hv => hanswered v (hget.symm.trans hv)]
      exact ⟨htold hget, h⟩
  | _ => exact ⟨by simp [Act.renumber, reply, h.session],
      by simp [Act.renumber, Scene.act, h.session], h.calls, h.idles⟩

/-- The calls that are taken out go unnoticed. -/
theorem Beside.run (acts : List Act) : ∀ {more less : Scene}, Beside out more less →
    Late out more acts →
    Beside out (more.run acts) (less.run (without out more.calls.length acts)) ∧
      record (fun _ => false) less (without out more.calls.length acts) =
        record out more acts := by
  induction acts with
  | nil =>
    intro more less h hlate
    exact ⟨h, rfl⟩
  | cons a acts ih =>
    intro more less h hlate
    obtain ⟨hact, hlate⟩ := hlate
    rw [without, record, ← length_calls_act]
    cases ha : a.isOut out more.calls.length with
    | true => exact ih (h.act_out ha hact) hlate
    | false =>
      obtain ⟨hreply, hnext⟩ := h.act ha
      obtain ⟨hrun, hrecord⟩ := ih hnext hlate
      refine ⟨hrun, ?_⟩
      rw [if_neg Bool.false_ne_true, if_neg Bool.false_ne_true, record, Act.isOut_none,
        if_neg Bool.false_ne_true, hrecord, hreply, hnext.session]

theorem beside_start (out : Nat → Bool) (message : String) :
    Beside out (start message) (start message) := by
  refine ⟨rfl, ⟨rfl, ?_⟩, ?_⟩
  · intro i hi
    rfl
  · intro i v hi hv
    exact absurd hv (by simp [start])

end Scene

end Dialogue
