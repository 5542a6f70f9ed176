/-
What the shell tells of an answer.

The shell follows the turn of the question that was accepted last, and no other.  While it does,
what it has printed is a beginning of the answer (`Telling.follows`), and as soon as the turn is
resolved there is a new edition of the conversation that it has not looked at.  If it looks, it
prints the rest and the outcome (`Telling.ended`).

But it does not have to look.  An accepted question needs an idle session, and so a resolved
turn; it does not need a shell that has seen it.  A line may be served first, and then the turn
of that line's question is followed in the place of the old one.  So there are two ends, and
which of them comes is told by whether an update was served between the end of the answer and
the next question.
-/
import Dialogue.Disk.Tree
import Dialogue.Proofs.Shell.Follow
import Dialogue.Proofs.Shell.Run

namespace Dialogue

/-- A fold leaves the turn of an id as it is, or it is this turn that waits and is changed. -/
theorem Store.turn?_foldPending_cases {s : Store} {id : TurnId} {t : Turn}
    (h : s.conversation.turn? id = some t) (id' : TurnId) (f : Turn → Turn) :
    (s.foldPending id' f).2.conversation.turn? id = some t ∨
      t.isPending = true ∧ (s.foldPending id' f).2.edition = s.edition + 1 ∧
        (s.foldPending id' f).2.conversation.turn? id = some { f t with id := id } := by
  rcases s.foldPending_cases id' f with ⟨before, u, behind, hturns, -, hu, hp, hfold⟩ | ⟨-, hfold⟩
  · rw [Conversation.turn?, hturns, List.find?_append] at h
    rw [hfold]
    show (before ++ { f u with id := id' } :: behind).find? (·.id = id) = some t ∨ _ ∧ _ ∧
      (before ++ { f u with id := id' } :: behind).find? (·.id = id) = _
    rw [List.find?_append]
    cases hbefore : before.find? (·.id = id) with
    | some x =>
      rw [hbefore] at h
      exact Or.inl h
    | none =>
      rw [hbefore, Option.none_or] at h
      by_cases hid : id' = id
      · subst hid
        rw [List.find?_cons_of_pos (by simpa using hu)] at h
        obtain rfl := Option.some.inj h
        exact Or.inr ⟨hp, rfl, by simp⟩
      · rw [List.find?_cons_of_neg (by simpa [hu] using hid)] at h
        refine Or.inl ?_
        rw [Option.none_or, List.find?_cons_of_neg (by simpa using hid)]
        exact h
  · rw [hfold]
    exact Or.inl h

namespace Session

/-- A step of a driver adds to the answer of a turn that waits, and observers are told of it. -/
theorem turn?_drive {s s' : Session} {n : Nat} (hdrive : s.Drive n s') {id : TurnId} {t : Turn}
    (h : s.turn? id = some t) :
    s'.turn? id = some t ∨ t.isPending = true ∧ s.store.edition < s'.store.edition ∧
      ∃ t' more, s'.turn? id = some t' ∧ t'.answer = t.answer ++ more := by
  have hfold : ∀ (stream : Event.Stream) (r : Request) (f : Turn → Turn),
      (∃ more, (f t).answer = t.answer ++ more) →
      ((s.setStream n stream).fold r.turn f).turn? id = some t ∨ t.isPending = true ∧
        s.store.edition < ((s.setStream n stream).fold r.turn f).store.edition ∧
        ∃ t' more, ((s.setStream n stream).fold r.turn f).turn? id = some t' ∧
          t'.answer = t.answer ++ more := by
    intro stream r f ⟨more, hmore⟩
    rcases Store.turn?_foldPending_cases h r.turn f with hsame | ⟨hp, hedition, hturn⟩
    · exact Or.inl hsame
    · refine Or.inr ⟨hp, ?_, _, more, hturn, hmore⟩
      show s.store.edition < (s.store.foldPending r.turn f).2.edition
      omega
  have hresolution : ∀ r : Request, ∃ more, (s.resolution r t).answer = t.answer ++ more := by
    intro r
    unfold resolution
    split
    · exact ⟨"", by rw [Turn.cancel_answer, String.append_empty]⟩
    · exact t.accumulate_answer _
  cases hdrive with
  | ended | waits | discards => exact Or.inl h
  | @folds r e stream => exact hfold stream r _ (t.accumulate_answer e)
  | @ends r e stream =>
    simp only [turn?_finishDriver, store_finishDriver]
    exact hfold stream r _ (t.accumulate_answer e)
  | @closes r stream =>
    simp only [turn?_finishDriver, store_finishDriver]
    exact hfold stream r _ (hresolution r)

end Session

namespace Shell

/-- The answer of a turn and its outcome, as they are printed of a turn that is resolved. -/
def answerText (t : Turn) : String := t.answer ++ "\n" ++ outcomeText t

/-! ### What is printed of a turn -/

/-- The commands that turn away from the turn that is followed. -/
def Command.leaves : Command → Bool
  | .newChat | .openChat _ | .quit => true
  | _ => false

namespace Terminal

variable {σ : Type} (w : World (StateM σ))

/-- What an act prints of a turn. -/
def tells (id : TurnId) (t : Terminal σ) (a : Act) : String :=
  if a = .update ∧ t.shell.followed.map (·.turn) = some id then (t.prints w a).out else ""

/-- What a run prints of a turn. -/
def told (id : TurnId) : Terminal σ → List Act → String
  | _, [] => ""
  | t, a :: acts => t.tells w id a ++ told id (t.act w a) acts

/-- Does the shell look at the conversation, and finds the turn resolved? -/
def looks (id : TurnId) (t : Terminal σ) (a : Act) : Bool :=
  a = .update && t.shell.isFree && (t.shell.session.turn? id).any (!·.isPending)

/-- Does the shell look in this run, once the turn is resolved? -/
def looked (id : TurnId) : Terminal σ → List Act → Bool
  | _, [] => false
  | t, a :: acts => t.looks id a || looked id (t.act w a) acts

variable {w} {id : TurnId} {t : Terminal σ} {a : Act}

theorem looks_update : t.looks id .update =
    (t.shell.isFree && (t.shell.session.turn? id).any (!·.isPending)) := rfl

theorem tells_of_ne (h : a ≠ .update) : t.tells w id a = "" := if_neg fun hboth => h hboth.1

theorem looks_of_ne (h : a ≠ .update) : t.looks id a = false := by
  rw [looks, decide_eq_false h, Bool.false_and, Bool.false_and]

variable (w)

/-- No question is accepted in this run, and no command served that turns away. -/
def Stays : Terminal σ → List Act → Prop
  | _, [] => True
  | t, a :: acts => t.shell.accepts? a = none ∧
      (∀ c ∈ t.shell.served? a, c.leaves = false) ∧ Stays (t.act w a) acts

instance decidableStays : ∀ (t : Terminal σ) (acts : List Act), Decidable (t.Stays w acts)
  | _, [] => inferInstanceAs (Decidable True)
  | t, a :: acts =>
    have := decidableStays (t.act w a) acts
    inferInstanceAs (Decidable (_ ∧ _ ∧ _))

end Terminal

/-! ### One act -/

/-- How it stands with a turn: `told` is what was printed of it, and `looked` tells whether the
shell has seen it resolved. -/
inductive Telling (s : Shell) (id : TurnId) : String → Bool → Prop
  | follows {t : Turn} {told : String} (rest : String) (hturn : s.session.turn? id = some t)
      (hanswer : t.answer = told ++ rest)
      (hfollowed : s.followed = some { turn := id, printed := told.utf8ByteSize })
      (hnews : t.isPending = true ∨ s.seen < s.session.store.edition) : Telling s id told false
  | ended {t : Turn} (hturn : s.session.turn? id = some t) (hresolved : t.isPending = false)
      (hfollowed : s.followed = none) : Telling s id (answerText t) true

/-- A shell that waits for nothing, or only for a request to stop. -/
def Calm (s : Shell) : Prop := s.awaited = none ∨ s.awaited = some .stop

/-- The shell follows the same turn in the same conversation. -/
structure Keeps (s s' : Shell) : Prop where
  followed : s'.followed = s.followed
  seen : s'.seen = s.seen
  store : s'.session.store = s.session.store
  calm : Calm s'

variable {σ : Type} {w : World (StateM σ)} {s s' : Shell} {id : TurnId} {told : String}
  {looked : Bool}

theorem Telling.keeps (h : Telling s id told looked) (hkeeps : Keeps s s') :
    Telling s' id told looked := by
  have hturn : s'.session.turn? id = s.session.turn? id := by
    rw [Session.turn?, hkeeps.store]
    rfl
  cases h with
  | follows rest hturn' hanswer hfollowed hnews =>
    refine .follows rest (hturn.trans hturn') hanswer (hkeeps.followed.trans hfollowed) ?_
    rwa [hkeeps.seen, hkeeps.store]
  | ended hturn' hresolved hfollowed =>
    exact .ended (hturn.trans hturn') hresolved (hkeeps.followed.trans hfollowed)

/-- Stopping is no matter of the store. -/
theorem keeps_stop (w : World (StateM σ)) (s : Shell) (stage : Stage) (x : σ) :
    Keeps s (s.pollCall w .stop stage x).1.1 := by
  have hpolled := s.session.poll_polled .abort stage
  simp only [pollCall, Awaited.call?]
  generalize s.session.poll .abort stage = r at hpolled
  cases hpolled with
  | refused => exact ⟨rfl, rfl, rfl, Or.inl rfl⟩
  | aborts => exact ⟨rfl, rfl, rfl, Or.inr rfl⟩
  | waits => exact ⟨rfl, rfl, rfl, Or.inr rfl⟩
  | aborted => exact ⟨rfl, rfl, rfl, Or.inl rfl⟩

theorem keeps_close (h : Calm s) : Keeps s s.close := by
  refine ⟨rfl, rfl, ?_, h⟩
  show s.session.beginAbort.2.store = s.session.store
  unfold Session.beginAbort
  split <;> rfl

theorem keeps_refused (h : Calm s) {question : String} (x : σ)
    (hrefused : (s.session.submit { worker := .working Http.stalled } question).1.toOption = none) :
    Keeps s (s.ask w question x).1.1 := by
  have hstore : (s.session.submit { worker := .working Http.stalled } question).2.store =
      s.session.store := by
    rcases s.session.submit_cases { worker := .working Http.stalled } question with
      ⟨e, -, hs | hs⟩ | ⟨-, -, hs⟩
    · rw [hs]
    · rw [hs]
    · rw [hs] at hrefused
      cases hrefused
  unfold ask
  generalize s.session.submit { worker := .working Http.stalled } question = r at hstore hrefused
  rcases r with ⟨e | id, session⟩
  · exact ⟨rfl, rfl, hstore, h⟩
  · cases hrefused

/-- A command that does not turn away, and asks no question that is accepted. -/
theorem keeps_serveCommand (h : Calm s) {c : Command} (x : σ) (hleaves : c.leaves = false)
    (haccepts : ∀ question, c = .ask question →
      (s.session.submit { worker := .working Http.stalled } question).1.toOption = none) :
    Keeps s (s.serveCommand w c x).1.1 := by
  have hsame : Keeps s s := ⟨rfl, rfl, rfl, h⟩
  cases c with
  | ask question => exact keeps_refused h x (haccepts question rfl)
  | newChat | openChat | quit => cases hleaves
  | stop => exact keeps_stop w s .fresh x
  | showSettings | unknown => exact hsame
  | set key value =>
    simp only [serveCommand]
    split
    · exact hsame
    · simp only [set, bind, StateT.bind]
      rcases s.kept.set w.disk key value x with ⟨⟨e | _, kept⟩, x'⟩ <;> exact ⟨rfl, rfl, rfl, h⟩

theorem keeps_serveBytes (h : Calm s) {bytes : List UInt8} (x : σ)
    (haccepts : s.accepts? (.line bytes) = none)
    (hleaves : ∀ c ∈ s.served? (.line bytes), c.leaves = false) :
    Keeps s (s.serveBytes w bytes x).1.1 := by
  have hsame : Keeps s s := ⟨rfl, rfl, rfl, h⟩
  unfold serveBytes
  by_cases hbusy : (s.awaited.isSome || s.isOver) = true
  · rw [if_pos hbusy]
    exact hsame
  · have hfree : s.isFree = true := by
      rw [Bool.not_eq_true, Bool.or_eq_false_iff] at hbusy
      simp only [isFree, hbusy.2, Bool.not_false, Bool.and_true]
      simpa using hbusy.1
    rw [if_neg hbusy]
    cases hread : Text.Utf8.strict? bytes with
    | none => exact keeps_close h
    | some line =>
      simp only [accepts?, served?, hfree, if_true, hread, Option.bind_some] at haccepts hleaves
      simp only [serveLine]
      cases hparse : Command.parse? line with
      | none => exact hsame
      | some c =>
        rw [hparse] at haccepts hleaves
        refine keeps_serveCommand h x (hleaves c rfl) ?_
        intro question hc
        rw [hc] at haccepts
        exact haccepts

theorem keeps_serveNotice (h : Calm s) : Keeps s s.serveNotice.1 := by
  unfold serveNotice
  split
  · exact ⟨rfl, rfl, rfl, h⟩
  · cases s.notices <;> exact ⟨rfl, rfl, rfl, h⟩

theorem keeps_resume (h : Calm s) (x : σ) : Keeps s (s.resume w x).1.1 := by
  unfold resume
  rcases h with hnone | hstop
  · rw [hnone]
    exact ⟨rfl, rfl, rfl, Or.inl hnone⟩
  · rw [hstop]
    exact keeps_stop w s .waiting x

/-- Nothing is served of an update that there is not, or for which the shell is not free. -/
theorem serveUpdate_still (h : s.isFree = false ∨ s.seen = s.session.store.edition) :
    s.serveUpdate = (s, {}) := by
  unfold serveUpdate
  rw [if_pos]
  rcases h with hbusy | hseen
  · cases hawaited : s.awaited <;> simp_all [isFree]
  · simp [hseen]

theorem serveUpdate_new (hfree : s.isFree = true) (hseen : s.seen ≠ s.session.store.edition) :
    s.serveUpdate = match s.followed with
      | none => ({ s with seen := s.session.store.edition }, {})
      | some f =>
        let p := f.advance s.session.store.conversation
        ({ s with
          seen := s.session.store.edition
          followed := if p.done then none else some p.follow }, { out := p.out }) := by
  have hserved : ¬ (s.awaited.isSome || s.isOver || decide (s.seen = s.session.store.edition)) =
      true := by
    cases hawaited : s.awaited <;> simp_all [isFree]
  unfold serveUpdate
  exact if_neg hserved

/-- An update is served: what is new is printed, and with it the outcome of a turn that is
resolved. -/
theorem Telling.update {t : Terminal σ} (h : Telling t.shell id told looked) :
    Telling (t.act w .update).shell id (told ++ t.tells w id .update)
      (looked || t.looks id .update) := by
  have hshell : (t.act w .update).shell = t.shell.serveUpdate.1 := rfl
  have hprints : t.prints w .update = t.shell.serveUpdate.2 := rfl
  rw [hshell, Terminal.tells, hprints, Terminal.looks_update]
  by_cases hstill : t.shell.isFree = false ∨ t.shell.seen = t.shell.session.store.edition
  · rw [serveUpdate_still hstill, ite_self, String.append_empty]
    cases h with
    | ended hturn hresolved hfollowed => exact .ended hturn hresolved hfollowed
    | @follows u told rest hturn hanswer hfollowed hnews =>
      have hlooks : (t.shell.isFree && (t.shell.session.turn? id).any (!·.isPending)) = false := by
        rcases hstill with hbusy | hseen
        · rw [hbusy, Bool.false_and]
        · have hpending : u.isPending = true := hnews.resolve_right (by omega)
          rw [hturn, Option.any_some, hpending, Bool.not_true, Bool.and_false]
      rw [Bool.false_or, hlooks]
      exact .follows rest hturn hanswer hfollowed hnews
  · rw [not_or, Bool.not_eq_false] at hstill
    obtain ⟨hfree, hseen⟩ := hstill
    rw [serveUpdate_new hfree hseen]
    cases h with
    | ended hturn hresolved hfollowed =>
      simp only [hfollowed, Option.map_none, reduceCtorEq, and_false, if_false, Bool.true_or]
      rw [String.append_empty]
      exact .ended hturn hresolved rfl
    | @follows u told rest hturn hanswer hfollowed hnews =>
      have hadvance := advance_eq (f := ⟨id, told.utf8ByteSize⟩) hturn hanswer rfl
      simp only [hfollowed, Option.map_some, and_self, if_true, hadvance, hfree, hturn,
        Option.any_some, Bool.true_and, Bool.false_or]
      cases hpending : u.isPending with
      | true =>
        rw [ending_of_pending hpending, String.append_empty]
        refine .follows "" hturn ?_ ?_ (Or.inl hpending)
        · rw [String.append_empty, hanswer]
        · rw [hanswer]
          rfl
      | false =>
        have hall : told ++ (rest ++ ending u) = answerText u := by
          rw [ending_of_resolved hpending, answerText, hanswer, String.append_assoc,
            String.append_assoc]
        rw [hall]
        exact .ended hturn hpending rfl

/-- The driver of a request receives, perhaps for this turn. -/
theorem Telling.receive {t : Terminal σ} (h : Telling t.shell id told looked)
    (hready : t.shell.Ready) (n : Nat) : Telling (t.act w (.receive n)).shell id told looked := by
  have hdrive := t.shell.session.driverStep_drive n
  have hgone := goneOn_drive hready.sound hdrive
  have hseen := hready.seen_le
  cases h with
  | @follows u told rest hturn hanswer hfollowed hnews =>
    rcases Session.turn?_drive hdrive hturn with hsame | ⟨-, hlt, u', more, hturn', hmore⟩
    · refine .follows rest hsame hanswer hfollowed (hnews.imp_right fun hlt => ?_)
      exact Nat.lt_of_lt_of_le hlt hgone.edition_le
    · refine .follows (rest ++ more) hturn' ?_ hfollowed (Or.inr ?_)
      · rw [hmore, hanswer, String.append_assoc]
      · exact Nat.lt_of_le_of_lt hseen hlt
  | @ended u hturn hresolved hfollowed =>
    rcases Session.turn?_drive hdrive hturn with hsame | ⟨hpending, -⟩
    · exact .ended hsame hresolved hfollowed
    · rw [hresolved] at hpending
      cases hpending

theorem awaited_serveUpdate (s : Shell) : s.serveUpdate.1.awaited = s.awaited := by
  by_cases hstill : s.isFree = false ∨ s.seen = s.session.store.edition
  · rw [serveUpdate_still hstill]
  · rw [not_or, Bool.not_eq_false] at hstill
    rw [serveUpdate_new hstill.1 hstill.2]
    cases s.followed <;> rfl

/-- One act that does not turn away takes what is told of the turn along. -/
theorem Telling.act {t : Terminal σ} {a : Act} (h : Telling t.shell id told looked)
    (hready : t.shell.Ready) (hcalm : Calm t.shell) (haccepts : t.shell.accepts? a = none)
    (hleaves : ∀ c ∈ t.shell.served? a, c.leaves = false) :
    Telling (t.act w a).shell id (told ++ t.tells w id a) (looked || t.looks id a) ∧
      Calm (t.act w a).shell := by
  by_cases hupdate : a = .update
  · subst hupdate
    refine ⟨h.update, ?_⟩
    show Calm t.shell.serveUpdate.1
    rw [Calm, awaited_serveUpdate]
    exact hcalm
  · rw [Terminal.tells_of_ne hupdate, Terminal.looks_of_ne hupdate, String.append_empty,
      Bool.or_false]
    cases a with
    | update => exact absurd rfl hupdate
    | receive n => exact ⟨h.receive hready n, hcalm⟩
    | line bytes =>
      have hkeeps := keeps_serveBytes (w := w) hcalm t.outside haccepts hleaves
      exact ⟨h.keeps hkeeps, hkeeps.calm⟩
    | notice =>
      have hkeeps := keeps_serveNotice hcalm
      exact ⟨h.keeps hkeeps, hkeeps.calm⟩
    | resume =>
      have hkeeps := keeps_resume (w := w) hcalm t.outside
      exact ⟨h.keeps hkeeps, hkeeps.calm⟩
    | work n => exact ⟨h.keeps ⟨rfl, rfl, rfl, hcalm⟩, hcalm⟩

/-! ### Whole runs -/

theorem Telling.run {t : Terminal σ} (h : Telling t.shell id told looked)
    (hready : t.shell.Ready) (hcalm : Calm t.shell) {acts : List Act} (hstays : t.Stays w acts) :
    Telling (t.run w acts).shell id (told ++ t.told w id acts) (looked || t.looked w id acts) := by
  induction acts generalizing t told looked with
  | nil =>
    rw [Terminal.told, Terminal.looked, String.append_empty, Bool.or_false]
    exact h
  | cons a acts ih =>
    obtain ⟨haccepts, hleaves, hrest⟩ := hstays
    obtain ⟨hnext, hcalm'⟩ := h.act hready hcalm haccepts hleaves
    rw [Terminal.told, Terminal.looked, ← String.append_assoc, ← Bool.or_assoc]
    exact ih hnext (Terminal.ready_act w hready a) hcalm' hrest

theorem accepts?_eq_some {a : Act} (h : s.accepts? a = some id) :
    s.isFree = true ∧ ∃ bytes line question, a = .line bytes ∧
      Text.Utf8.strict? bytes = some line ∧ Command.parse? line = some (.ask question) ∧
      (s.session.submit { worker := .working Http.stalled } question).1 = .ok id := by
  cases a with
  | line bytes =>
    cases hfree : s.isFree with
    | false =>
      simp only [accepts?, served?, hfree, Bool.false_eq_true, if_false] at h
      cases h
    | true =>
      simp only [accepts?, served?, hfree, if_true] at h
      refine ⟨rfl, bytes, ?_⟩
      cases hread : Text.Utf8.strict? bytes with
      | none =>
        rw [hread] at h
        cases h
      | some line =>
        rw [hread, Option.bind_some] at h
        cases hparse : Command.parse? line with
        | none =>
          rw [hparse] at h
          cases h
        | some c =>
          rw [hparse] at h
          cases c with
          | ask question =>
            refine ⟨line, question, rfl, rfl, hparse, ?_⟩
            simp only at h
            cases hsubmit : (s.session.submit { worker := .working Http.stalled } question).1 with
            | error e =>
              rw [hsubmit] at h
              cases h
            | ok id' =>
              rw [hsubmit] at h
              exact congrArg _ (Option.some.inj h)
          | newChat | openChat | stop | showSettings | set | quit | unknown => cases h
  | update | notice | resume | work | receive => cases h

/-- A question is accepted only if no turn waits. -/
theorem resolved_of_accepts {a : Act} {id' : TurnId} (h : s.accepts? a = some id') {t : Turn}
    (hturn : s.session.turn? id = some t) : t.isPending = false := by
  obtain ⟨-, _, _, question, -, -, -, hok⟩ := accepts?_eq_some h
  rcases s.session.submit_cases { worker := .working Http.stalled } question with
    ⟨e, he, -⟩ | ⟨-, hpending, -⟩
  · rw [he] at hok
    cases hok
  · have hmem : t ∈ s.session.store.conversation.turns := List.mem_of_find?_eq_some hturn
    by_contra hp
    rw [Bool.not_eq_false] at hp
    have hwaits : t ∈ s.session.store.conversation.pendingTurns :=
      List.mem_filter.mpr ⟨hmem, hp⟩
    rw [hpending] at hwaits
    cases hwaits

/-- A question that is accepted gets a worker, and its turn is followed. -/
theorem ask_accepted {question : String} (x : σ)
    (hok : (s.session.submit { worker := .working Http.stalled } question).1 = .ok id) :
    ∃ n plan, (s.ask w question x).1.1 = { s with
      session := (s.session.submit { worker := .working Http.stalled } question).2.refeed n
        fun feed => { feed with worker := .working plan }
      followed := some { turn := id } } := by
  rcases s.session.submit_cases { worker := .working Http.stalled } question with
    ⟨e, he, -⟩ | ⟨-, -, hs⟩
  · rw [he] at hok
    cases hok
  · rw [hs] at hok ⊢
    obtain rfl := Except.ok.inj hok
    simp only [ask, hs, List.getLast?_concat]
    exact ⟨_, _, rfl⟩

/-- The turn of a question that was accepted is followed, and nothing was printed of it yet. -/
theorem telling_of_accepts {t : Terminal σ} {a : Act} (hready : t.shell.Ready)
    (h : t.shell.accepts? a = some id) :
    Telling (t.act w a).shell id "" false ∧ Calm (t.act w a).shell := by
  obtain ⟨hfree, bytes, line, question, rfl, hread, hparse, hok⟩ := accepts?_eq_some h
  have hnone : t.shell.awaited = none := by
    rw [isFree, Bool.and_eq_true] at hfree
    simpa using hfree.1
  have hidle : ¬ (t.shell.awaited.isSome || t.shell.isOver) = true := by
    simp_all [isFree]
  have hasked : (t.act w (.line bytes)).shell = (t.shell.ask w question t.outside).1.1 := by
    show (t.shell.serveBytes w bytes t.outside).1.1 = _
    simp only [serveBytes, if_neg hidle, hread, serveLine, hparse]
    rfl
  obtain ⟨n, plan, hshell⟩ := ask_accepted (w := w) t.outside hok
  rw [hasked, hshell]
  have hturn := Session.turn?_submit_new hready.sound hok
  exact ⟨.follows "" hturn rfl rfl (Or.inl rfl), Or.inl hnone⟩

/-- A world in which every worker sends one piece and then waits. -/
def onePiece : World (StateM FileTree) where
  disk := FileTree.disk
  ask _ _ := pure { batches := [[.chunk "part"]], holds := true }
  fetch _ _ := pure none

/-- One piece comes and is printed, the question is stopped, and worker, driver and the stop
itself do all that is left for them to do. -/
def stopped : List Act :=
  [.work 1, .receive 1, .update, .line (Text.Utf8.encode "/stop".toList), .work 1, .receive 1,
    .resume]

end Shell

end Dialogue
