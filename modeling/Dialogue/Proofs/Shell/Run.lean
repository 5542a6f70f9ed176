/-
Whole runs of a shell.

A terminal is a shell with all that is outside of it.  What happens is one act after another: a
typed line is served, or a change of the conversation, or a notice; the command that waits polls
its call; the worker of a request is polled, or its driver receives once.  Any list of acts is a
run.  So every order is one in which the shell can serve what is ready, and workers and drivers
may come in between at any time.

What is outside is a state of some type, and a world says how the disk and the services answer
in it.  A line that is typed while a command waits is not served, and the act does nothing.
-/
import Dialogue.Shell
import Dialogue.Proofs.Session.Outcome

namespace Dialogue.Shell

/-! ### Acts -/

/-- What can happen at a terminal. -/
inductive Act where
  /-- A typed line is served. -/
  | line (bytes : List UInt8)
  /-- A change of the conversation is served. -/
  | update
  | notice
  /-- The command that waits polls its call. -/
  | resume
  /-- Polls the worker of a request. -/
  | work (n : Nat)
  /-- The driver of a request receives once. -/
  | receive (n : Nat)
  deriving DecidableEq, Repr

variable {σ : Type}

/-- What an act does to the shell, and what it prints. -/
def perform (w : World (StateM σ)) (s : Shell) : Act → StateM σ (Shell × Printed)
  | .line bytes => s.serveBytes w bytes
  | .update => return s.serveUpdate
  | .notice => return s.serveNotice
  | .resume => s.resume w
  | .work n => return ({ s with session := s.session.workerStep n }, {})
  | .receive n => return ({ s with session := s.session.driverStep n }, {})

/-- Is the shell free to serve something? -/
def isFree (s : Shell) : Bool := s.awaited.isNone && !s.isOver

/-- The command that is served by an act. -/
def served? (s : Shell) : Act → Option Command
  | .line bytes => if s.isFree then (Text.Utf8.strict? bytes).bind Command.parse? else none
  | _ => none

/-- The turn of the question that is accepted by an act. -/
def accepts? (s : Shell) (a : Act) : Option TurnId :=
  match s.served? a with
  | some (.ask question) =>
    (s.session.submit { worker := .working Http.stalled } question).1.toOption
  | _ => none

/-! ### Terminals -/

/-- A shell and the state of what is outside. -/
structure Terminal (σ : Type) where
  shell : Shell
  outside : σ

namespace Terminal

/-- What an act leaves of a terminal. -/
def act (w : World (StateM σ)) (t : Terminal σ) (a : Act) : Terminal σ :=
  let r := t.shell.perform w a t.outside
  ⟨r.1.1, r.2⟩

/-- What is printed by an act. -/
def prints (w : World (StateM σ)) (t : Terminal σ) (a : Act) : Printed :=
  (t.shell.perform w a t.outside).1.2

/-- What some acts leave of it, one after the other. -/
def run (w : World (StateM σ)) (t : Terminal σ) (acts : List Act) : Terminal σ :=
  acts.foldl (act w) t

@[simp] theorem run_nil (w : World (StateM σ)) (t : Terminal σ) : t.run w [] = t := rfl

end Terminal

/-! ### Sessions that go on -/

/-- The session is sound, and has told observers of all that it has changed. -/
structure GoneOn (s s' : Session) : Prop where
  sound : s'.Sound
  edition_le : s.store.edition ≤ s'.store.edition

variable {s : Session}

theorem goneOn_refeed (h : s.Sound) (n : Nat) (g : Event.Feed → Event.Feed) :
    GoneOn s (s.refeed n g) := ⟨h.refeed n g, Nat.le_refl _⟩

theorem edition_le_fold (s : Session) (id : TurnId) (f : Turn → Turn) :
    s.store.edition ≤ (s.fold id f).store.edition := by
  show s.store.edition ≤ (s.store.foldPending id f).2.edition
  rcases s.store.foldPending_cases id f with ⟨_, _, _, _, _, _, _, hfold⟩ | ⟨_, hfold⟩
  · rw [hfold]
    exact Nat.le_succ _
  · exact Nat.le_of_eq (congrArg (fun r => r.2.edition) hfold).symm

theorem goneOn_drive (h : s.Sound) {n : Nat} {s' : Session} (hdrive : s.Drive n s') :
    GoneOn s s' := by
  refine ⟨h.drive hdrive, ?_⟩
  cases hdrive with
  | ended | waits | discards => exact Nat.le_refl _
  | folds => exact edition_le_fold (s.setStream n _) _ _
  | ends | closes =>
    rw [Session.store_finishDriver]
    exact edition_le_fold (s.setStream n _) _ _

theorem goneOn_polled (h : s.Sound) {c : Call} {stage : Stage} {r : Option Outcome × Session}
    (hpolled : s.Polled c stage r) : GoneOn s r.2 := by
  refine ⟨h.polled hpolled, ?_⟩
  cases hpolled with
  | refused | aborts | waits | aborted | found => exact Nat.le_refl _
  | clears => exact Nat.le_succ _

theorem goneOn_beginAbort (h : s.Sound) : GoneOn s s.beginAbort.2 := by
  rcases s.beginAbort_eq with ⟨a, hp, ha, hbegin⟩ | ⟨-, hbegin⟩
  · rw [hbegin]
    exact goneOn_polled h (.aborts (Or.inl rfl) hp ha)
  · rw [hbegin]
    exact ⟨h, Nat.le_refl _⟩

theorem goneOn_submit (h : s.Sound) (feed : Event.Feed) (question : String) :
    GoneOn s (s.submit feed question).2 := by
  refine ⟨h.submit feed question, ?_⟩
  rcases s.submit_cases feed question with ⟨e, -, hs | hs⟩ | ⟨-, -, hs⟩
  · exact Nat.le_of_eq (congrArg (fun s => s.store.edition) hs).symm
  · exact Nat.le_of_eq (congrArg (fun s => s.store.edition) hs).symm
  · rw [hs]
    exact Nat.le_succ _

theorem goneOn_reopen (h : s.Sound) (chatId : String) (reply : Except Http.Failure History) :
    GoneOn s (s.reopen chatId reply) := by
  refine ⟨h.reopen chatId reply, ?_⟩
  cases reply with
  | error failure => exact Nat.le_refl _
  | ok history => exact Nat.le_succ _

/-! ### What holds in every run -/

/-- The session is sound, and no edition was looked at that there is not yet. -/
structure Ready (s : Shell) : Prop where
  sound : s.session.Sound
  seen_le : s.seen ≤ s.session.store.edition

theorem Ready.goneOn {s s' : Shell} (h : Ready s) (hsession : GoneOn s.session s'.session)
    (hseen : s'.seen = s.seen) : Ready s' :=
  ⟨hsession.sound, hseen ▸ Nat.le_trans h.seen_le hsession.edition_le⟩

theorem ready_start {kept : KeptSettings} {s : Shell} (h : start kept = .ok s) : Ready s := by
  unfold start at h
  cases hservices : Services.ofSettings kept.current with
  | error f =>
    rw [hservices] at h
    cases h
  | ok services =>
    rw [hservices] at h
    obtain rfl := Except.ok.inj h
    exact ⟨Scene.sound_start kept.current.canceledMessage, Nat.le_refl 0⟩

variable {s : Shell} (w : World (StateM σ))

/-- What is left of a command changes the session only if a chat is reopened. -/
theorem ready_finish (h : Ready s) (a : Awaited) (o : Outcome) (x : σ) :
    Ready (s.finish w a o x).1.1 := by
  have hsame : ∀ followed awaited, Ready { s with followed, awaited } :=
    fun _ _ => ⟨h.sound, h.seen_le⟩
  cases a with
  | newChat => exact hsame none s.awaited
  | stop =>
    cases o with
    | aborted began => cases began <;> exact h
    | finished => exact h
  | openChat chatId =>
    simp only [finish, bind, StateT.bind]
    rcases w.fetch s.services.archive chatId x with ⟨_ | reply, x'⟩
    · exact hsame none (some .endless)
    · have hreopened := goneOn_reopen h.sound chatId reply
      simp only
      cases (Dialogue.reopen s.session.store s.session.mint chatId reply).result with
      | ok n => exact h.goneOn hreopened rfl
      | error e => exact h.goneOn hreopened rfl
  | endless => exact h

theorem ready_pollCall (h : Ready s) (a : Awaited) (stage : Stage) (x : σ) :
    Ready (s.pollCall w a stage x).1.1 := by
  unfold pollCall
  cases a.call? with
  | none => exact h
  | some call =>
    have hpolled := goneOn_polled h.sound (s.session.poll_polled call stage)
    simp only
    generalize s.session.poll call stage = r at hpolled
    rcases r with ⟨_ | o, session⟩
    · exact h.goneOn hpolled rfl
    · have hnext : Ready { s with session, awaited := none } := h.goneOn hpolled rfl
      exact ready_finish w hnext a o x

theorem ready_resume (h : Ready s) (x : σ) : Ready (s.resume w x).1.1 := by
  unfold resume
  cases s.awaited with
  | none => exact h
  | some a => exact ready_pollCall w h a .waiting x

theorem ready_ask (h : Ready s) (question : String) (x : σ) :
    Ready (s.ask w question x).1.1 := by
  have hsubmit := goneOn_submit h.sound { worker := .working Http.stalled } question
  unfold ask
  generalize s.session.submit { worker := .working Http.stalled } question = r at hsubmit
  rcases r with ⟨e | id, session⟩
  · exact h.goneOn hsubmit rfl
  · simp only
    cases session.requests.getLast? with
    | none => exact h.goneOn hsubmit rfl
    | some r =>
      have hrefed : GoneOn s.session (session.refeed r.number fun feed =>
          { feed with worker := .working (w.ask s.services.chat r.asked x).1 }) :=
        ⟨hsubmit.sound.refeed .., hsubmit.edition_le⟩
      exact h.goneOn hrefed rfl

theorem ready_serveCommand (h : Ready s) (c : Command) (x : σ) :
    Ready (s.serveCommand w c x).1.1 := by
  cases c with
  | ask question => exact ready_ask w h question x
  | newChat => exact ready_pollCall w h .newChat .fresh x
  | openChat chatId =>
    simp only [serveCommand]
    split
    · exact h
    · exact ready_pollCall w h (.openChat chatId) .fresh x
  | stop => exact ready_pollCall w h .stop .fresh x
  | showSettings => exact h
  | set key value =>
    simp only [serveCommand]
    split
    · exact h
    · simp only [set, bind, StateT.bind]
      rcases s.kept.set w.disk key value x with ⟨⟨e | _, kept⟩, x'⟩ <;> exact ⟨h.sound, h.seen_le⟩
  | quit => exact h.goneOn (goneOn_beginAbort h.sound) rfl
  | unknown name => exact h

theorem ready_serveBytes (h : Ready s) (bytes : List UInt8) (x : σ) :
    Ready (s.serveBytes w bytes x).1.1 := by
  unfold serveBytes
  split
  · exact h
  · cases Text.Utf8.strict? bytes with
    | none => exact h.goneOn (goneOn_beginAbort h.sound) rfl
    | some line =>
      simp only [serveLine]
      cases Command.parse? line with
      | none => exact h
      | some c => exact ready_serveCommand w h c x

theorem ready_serveUpdate (h : Ready s) : Ready s.serveUpdate.1 := by
  unfold serveUpdate
  split
  · exact h
  · cases s.followed with
    | none => exact ⟨h.sound, Nat.le_refl _⟩
    | some f => exact ⟨h.sound, Nat.le_refl _⟩

theorem ready_serveNotice (h : Ready s) : Ready s.serveNotice.1 := by
  unfold serveNotice
  split
  · exact h
  · cases s.notices with
    | nil => exact h
    | cons n rest => exact ⟨h.sound, h.seen_le⟩

namespace Terminal

variable {t : Terminal σ}

theorem ready_act (h : t.shell.Ready) (a : Act) : (t.act w a).shell.Ready := by
  cases a with
  | line bytes => exact ready_serveBytes w h bytes t.outside
  | update => exact ready_serveUpdate h
  | notice => exact ready_serveNotice h
  | resume => exact ready_resume w h t.outside
  | work n => exact h.goneOn (goneOn_refeed h.sound n fun feed => feed.pollWorker.2) rfl
  | receive n => exact h.goneOn (goneOn_drive h.sound (t.shell.session.driverStep_drive n)) rfl

theorem ready_run (h : t.shell.Ready) (acts : List Act) : (t.run w acts).shell.Ready := by
  induction acts generalizing t with
  | nil => exact h
  | cons a acts ih => exact ih (ready_act w h a)

end Terminal

end Dialogue.Shell
