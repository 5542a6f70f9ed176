/-
Reopening a chat is all or nothing.

Two parties trim the id of a chat on their own: the one who asks the service, and the one who
puts the answer into the store.  That both come to the same id is seen from what is asked:
whatever a server does, the only request that is ever made is the one for the trimmed id, and
a chat was found only if that request was made (`fetched_only`).  The store takes the same id
up with the turns of the chat, all at once, or nothing of either.

What a question is asked under is the id that the store has at that time.  Only a few acts can
give it another one: a chat is reopened or a new one started, or somebody writes to the store
directly (`Scene.renames`).  All others, those of an older request among them, leave the id as
it is, so that it is the id of the chat that was reopened until one of these few comes.
-/
import Mathlib.Data.List.Forall2
import Dialogue.Http.Archive
import Dialogue.Proofs.History
import Dialogue.Proofs.Session.Step

namespace Dialogue

/-! ### What is asked for -/

namespace Http.Archive

/-- A server of this conduct that keeps all requests. -/
def listening (conduct : Request → Conduct) (r : Request) : StateM (List Request) Conduct := do
  modify (· ++ [r])
  return conduct r

/-- The request asks for the chat of this id. -/
def AsksFor (a : Archive) (id : String) (r : Request) : Prop :=
  ∃ token, Request.make "GET" (a.address id) token none "" = .ok r

theorem asksFor_of_request {a : Archive} {n : Nat} {id : String} {r : Request}
    (h : a.request n id = .ok r) : a.AsksFor id r := by
  unfold request at h
  cases htoken : a.tokens.refresh .history n with
  | error f =>
    rw [htoken] at h
    cases h
  | ok token =>
    rw [htoken] at h
    cases hmake : Request.make "GET" (a.address id) token none "" with
    | error p => simp only [bind, Except.bind, hmake, Except.mapError, reduceCtorEq] at h
    | ok q =>
      simp only [bind, Except.bind, hmake, Except.mapError, Except.ok.injEq] at h
      exact ⟨token, hmake.trans (congrArg _ h)⟩

/-- An id that can be asked for is asked for without the white space around it. -/
theorem checkId_eq_ok {chatId id : String} (h : checkId chatId = .ok id) :
    id = Text.trim chatId := by
  unfold checkId at h
  simp only at h
  split at h
  · exact absurd h (by simp)
  · split at h
    · exact absurd h (by simp)
    · exact (Except.ok.inj h).symm

/-- Nothing is asked of a server but the chat of the trimmed id; that is asked once if a chat
was found, and never twice. -/
theorem fetched_only (a : Archive) (conduct : Request → Conduct) (n : Nat) (chatId : String) :
    let r := (a.fetch (listening conduct) n chatId).run []
    (r.2 = [] ∨ ∃ q, r.2 = [q] ∧ a.AsksFor (Text.trim chatId) q) ∧
      ∀ h, r.1.2 = some (.ok h) → r.2 ≠ [] := by
  intro r
  cases hid : checkId chatId with
  | error f =>
    have hr : r = ((n, some (.error f)), []) := by simp only [r, fetch, hid]; rfl
    rw [hr]
    exact ⟨Or.inl rfl, by simp⟩
  | ok id =>
    cases hq : a.request (n + 1) id with
    | error f =>
      have hr : r = ((n + 1, some (.error f)), []) := by simp only [r, fetch, hid, hq]; rfl
      rw [hr]
      exact ⟨Or.inl rfl, by simp⟩
    | ok q =>
      have hr : r.2 = [q] := by simp only [r, fetch, hid, hq]; rfl
      rw [hr]
      refine ⟨Or.inr ⟨q, rfl, ?_⟩, by simp⟩
      rw [← checkId_eq_ok hid]
      exact asksFor_of_request hq

end Http.Archive

/-! ### What is restored -/

/-- The turn is the record, answered and without anything that went wrong. -/
structure HistoryRecord.Restored (r : HistoryRecord) (t : Turn) : Prop where
  question : t.question = r.question
  answer : t.answer = r.answer
  sources : t.sources = r.sources
  resolved : t.isPending = false
  failure : t.failure = none

/-- Every record becomes one turn, in its place. -/
theorem reconcile_restored (m : Mint) (records : List HistoryRecord) :
    List.Forall₂ HistoryRecord.Restored records (reconcile m records).1 := by
  induction records generalizing m with
  | nil => exact .nil
  | cons r rest ih => exact .cons ⟨rfl, rfl, rfl, rfl, rfl⟩ (ih m.take.2)

/-- Turns that are all resolved are put into the store as they are. -/
theorem Store.replace_of_resolved (s : Store) (chatId : Option String) {turns : List Turn}
    (h : ∀ t ∈ turns, t.isPending = false) :
    s.replace chatId turns = s.publish { chatId, turns } := by
  have hsame : turns.map (fun t => { t with isPending := false }) = turns.map id := by
    refine List.map_congr_left fun t ht => ?_
    rw [← h t ht]
    rfl
  unfold replace
  rw [hsame, List.map_id]

/-- A chat that was found takes the place of the conversation. -/
theorem reopen_ok (s : Store) (m : Mint) (chatId : String) (h : History) :
    Dialogue.reopen s m chatId (.ok h) = {
      result := .ok h.records.length
      store := s.publish {
        chatId := some (Text.trim chatId), turns := (reconcile m h.records).1 }
      mint := (reconcile m h.records).2
      notices := [] } := by
  have hlength := (reconcile_restored m h.records).length_eq
  have hresolved : ∀ t ∈ (reconcile m h.records).1, t.isPending = false :=
    fun t ht => ((reconcile_spec m h.records).2 t ht).1
  unfold Dialogue.reopen
  simp only [Store.replace_of_resolved s _ hresolved, hlength]

/-! ### The id of the conversation -/

/-- The id of the chat that a session is about. -/
def Session.chatId? (s : Session) : Option String := s.store.conversation.chatId

/-- Does the write give the conversation an id? -/
def Write.renames : Write → Bool
  | .reset | .replace .. | .setChatId _ => true
  | .append _ | .fold .. | .mint => false

/-- Can the act give the conversation another id? -/
def Scene.renames (s : Scene) : Act → Bool
  | .poll i => s.calls[i]?.any fun v => v.call = .newChat
  | .reopen _ (.ok _) => true
  | .write w => w.renames
  | _ => false

namespace Session

theorem chatId?_fold (s : Session) (id : TurnId) (f : Turn → Turn) :
    (s.fold id f).chatId? = s.chatId? := by
  unfold chatId? fold
  rcases s.store.foldPending_cases id f with ⟨before, t, behind, -, -, -, -, hfold⟩ | ⟨-, hfold⟩
  · rw [hfold]
    rfl
  · rw [hfold]

theorem chatId?_finishDriver (s : Session) (r : Request) :
    (s.finishDriver r).chatId? = s.chatId? := by rw [chatId?, store_finishDriver, chatId?]

theorem Drive.chatId? {s s' : Session} {n : Nat} (h : s.Drive n s') : s'.chatId? = s.chatId? := by
  cases h with
  | ended | waits | discards => rfl
  | folds => exact chatId?_fold ..
  | ends | closes => exact (chatId?_finishDriver ..).trans (chatId?_fold ..)

theorem Polled.chatId? {s : Session} {c : Call} {stage : Stage} {r : Option Outcome × Session}
    (h : s.Polled c stage r) (hc : c ≠ .newChat) : r.2.chatId? = s.chatId? := by
  cases h with
  | clears => exact absurd rfl hc
  | refused | aborts | waits | aborted | found => rfl

theorem chatId?_write (s : Session) {w : Write} (hw : w.renames = false) :
    (s.write w).chatId? = s.chatId? := by
  cases w with
  | append question =>
    cases happend : s.store.append s.mint.take.1 question with
    | error e => simp only [write, happend, chatId?]
    | ok store =>
      rw [(Store.append_eq_ok happend).2] at happend
      simp only [write, happend, chatId?]
      rfl
  | fold => exact chatId?_fold ..
  | mint => rfl
  | reset | replace | setChatId => simp [Write.renames] at hw

theorem chatId?_submit (s : Session) (feed : Event.Feed) (question : String) :
    (s.submit feed question).2.chatId? = s.chatId? := by
  rcases s.submit_cases feed question with ⟨e, -, hsame | hminted⟩ | ⟨-, -, hsubmit⟩
  · rw [hsame]
  · rw [hminted]
    rfl
  · rw [hsubmit]
    rfl

/-- A question that is accepted is asked under the id that the conversation has. -/
theorem asked_submit {s : Session} {feed : Event.Feed} {question : String} {id : TurnId}
    (h : (s.submit feed question).1 = .ok id) :
    ∃ r, (s.submit feed question).2.requests = s.requests ++ [r] ∧
      r.asked = { question, chatId := s.chatId? } := by
  rcases s.submit_cases feed question with ⟨e, herror, -⟩ | ⟨-, -, hsubmit⟩
  · rw [herror] at h
    cases h
  · rw [hsubmit]
    exact ⟨_, rfl, rfl⟩

end Session

namespace Scene

/-- Only the acts that are made for it change the id. -/
theorem chatId?_act {s : Scene} {a : Act} (ha : s.renames a = false) :
    (s.act a).session.chatId? = s.session.chatId? := by
  have hacted := s.act_acted a
  cases a with
  | poll i =>
    simp only [act, poll]
    split
    · rename_i c stage hv
      refine (s.session.poll_polled c stage).chatId? ?_
      simpa [renames, hv] using ha
    · rfl
  | reopen chatId reply =>
    cases reply with
    | error failure => rfl
    | ok h => simp [renames] at ha
  | write w => exact s.session.chatId?_write ha
  | submit feed question => exact s.session.chatId?_submit feed question
  | receive n => exact (s.session.driverStep_drive n).chatId?
  | call | work | emit | close | stop =>
    generalize (s.act _).session = s' at hacted
    cases hacted with
    | idles | refeeds => rfl

/-- Along the acts, none of those that can rename the conversation does so. -/
def KeepsChat (s : Scene) : List Act → Prop
  | [] => True
  | a :: rest =>
    (s.renames a = true → (s.act a).session.chatId? = s.session.chatId?) ∧
      KeepsChat (s.act a) rest

theorem chatId?_run {s : Scene} {acts : List Act} (h : s.KeepsChat acts) :
    (s.run acts).session.chatId? = s.session.chatId? := by
  induction acts generalizing s with
  | nil => rfl
  | cons a acts ih =>
    obtain ⟨hnow, hlater⟩ := h
    refine (ih hlater).trans ?_
    by_cases ha : s.renames a = true
    · exact hnow ha
    · exact chatId?_act (eq_false_of_ne_true ha)

end Scene

end Dialogue
