/-
Whole runs of a session.

A scene is a session with the calls that people have made on it.  What happens is one act
after another: somebody asks, makes a call or polls one, the history service answers, a
worker is polled, an event is put into a stream or the stream is closed, a driver receives
once, somebody writes to the store directly.  Any list of acts is a run, so every order in
which tasks can be polled is one, and a call that is given up is one that no act polls any
more.

A chat is reopened at the moment when the service answers; what comes before touches
nothing.  Ids are minted and cannot be made up, so turns with an id that was never minted
are not there to be put into a store.
-/
import Dialogue.History.Reopen
import Dialogue.Session.Call

namespace Dialogue

/-! ### Acts -/

/-- A call that somebody has made. -/
structure Visit where
  call : Call
  stage : Stage := .fresh
  /-- What it answered, once it has. -/
  outcome : Option Outcome := none
  deriving DecidableEq, Repr

/-- What can be done to a store without asking the session. -/
inductive Write where
  | append (question : String)
  | fold (id : TurnId) (f : Turn → Turn)
  | reset
  | replace (chatId : Option String) (turns : List Turn)
  | setChatId (chatId : Option String)
  /-- A turn is made and put nowhere. -/
  | mint

/-- What can happen to a session and its store, whoever does it. -/
inductive Act where
  /-- Somebody asks, and `feed` is what the service opens for it. -/
  | submit (feed : Event.Feed) (question : String)
  /-- Somebody makes a call; it is not polled yet. -/
  | call (c : Call)
  /-- Polls a call, known by its place among all that were made. -/
  | poll (i : Nat)
  /-- The history service answers somebody who reopens a chat. -/
  | reopen (chatId : String) (reply : Except Http.Failure History)
  /-- Polls the worker of a request. -/
  | work (n : Nat)
  /-- Puts an event into the stream of a request. -/
  | emit (n : Nat) (e : Event)
  /-- Closes the stream of a request. -/
  | close (n : Nat)
  /-- Whoever opened the stream of a request asks its worker to stop. -/
  | stop (n : Nat)
  /-- The driver of a request receives once. -/
  | receive (n : Nat)
  | write (w : Write)

/-- Does the act go through the session, or through reopening a chat? -/
def Act.isOwn : Act → Bool
  | .write _ => false
  | _ => true

namespace Session

/-- What a write leaves of the session: nothing changes but its store and its mint. -/
def write (s : Session) : Write → Session
  | .append question =>
    let (id, mint) := s.mint.take
    match s.store.append id question with
    | .error _ => { s with mint }
    | .ok store => { s with mint, store }
  | .fold id f => s.fold id f
  | .reset => { s with store := s.store.reset }
  | .replace chatId turns =>
    if turns.all (·.id.serial < s.mint.next) then { s with store := s.store.replace chatId turns }
    else s
  | .setChatId chatId => { s with store := s.store.setChatId chatId }
  | .mint => { s with mint := s.mint.take.2 }

/-- Puts the chat that a service answers with in the place of the conversation. -/
def reopen (s : Session) (chatId : String) (reply : Except Http.Failure History) : Session :=
  let r := Dialogue.reopen s.store s.mint chatId reply
  { s with store := r.store, mint := r.mint }

end Session

/-! ### Scenes -/

/-- A session and the calls that were made on it, the oldest first. -/
structure Scene where
  session : Session
  calls : List Visit := []
  deriving DecidableEq, Repr

namespace Scene

/-- A new session with a new store; `message` is what canceled turns are told. -/
def start (message : String) : Scene := { session := { canceledMessage := message } }

/-- Polls a call, unless it has answered. -/
def poll (s : Scene) (i : Nat) : Scene :=
  match s.calls[i]? with
  | some { call := c, stage, outcome := none } =>
    let (outcome, session) := s.session.poll c stage
    { session, calls := s.calls.set i { call := c, stage := .waiting, outcome } }
  | _ => s

/-- What an act leaves of a scene. -/
def act (s : Scene) : Act → Scene
  | .submit feed question => { s with session := (s.session.submit feed question).2 }
  | .call c => { s with calls := s.calls ++ [{ call := c }] }
  | .poll i => s.poll i
  | .reopen chatId reply => { s with session := s.session.reopen chatId reply }
  | .work n => { s with session := s.session.workerStep n }
  | .emit n e => { s with session := (s.session.emit n e).2 }
  | .close n => { s with session := (s.session.closeStream n).2 }
  | .stop n => { s with session := s.session.cancelRequest n }
  | .receive n => { s with session := s.session.driverStep n }
  | .write w => { s with session := s.session.write w }

/-- What some acts leave of a scene, one after the other. -/
def run (s : Scene) (acts : List Act) : Scene := acts.foldl act s

@[simp] theorem run_nil (s : Scene) : s.run [] = s := rfl

@[simp] theorem run_cons (s : Scene) (a : Act) (acts : List Act) :
    s.run (a :: acts) = (s.act a).run acts := rfl

theorem run_append (s : Scene) (first second : List Act) :
    s.run (first ++ second) = (s.run first).run second := List.foldl_append ..

/-- What every act keeps, every run keeps. -/
theorem run_induction {P : Scene → Prop} {ok : Act → Prop}
    (step : ∀ s a, ok a → P s → P (s.act a)) {s : Scene} (h : P s) (acts : List Act)
    (hacts : ∀ a ∈ acts, ok a) : P (s.run acts) := by
  induction acts generalizing s with
  | nil => exact h
  | cons a acts ih =>
    exact ih (step s a (hacts a (by simp)) h) (fun b hb => hacts b (by simp [hb]))

end Scene

end Dialogue
