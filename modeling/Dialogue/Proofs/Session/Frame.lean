/-
A request leaves every conversation alone but its own turn.

The chat can be cleared, or another one put in its place, while a request is underway.
What keeps its driver out of the new chat is that a fold looks for the id and for a turn
that waits, and never for a place in the list.  An id is minted once, and no restored turn
waits; so a turn that has left the store, or was resolved, never waits again
(`Departed`), and everything that still comes of its request finds nothing to change and
tells nobody.
-/
import Dialogue.Proofs.Session.Watch
import Dialogue.Proofs.Turn

namespace Dialogue

/-- Does the act concern a request: does its worker or its driver run, or does anyone fill,
close or stop its stream? -/
def Act.concerns (n : Nat) : Act → Bool
  | .work k | .emit k _ | .close k | .stop k | .receive k => k = n
  | _ => false

namespace Session

variable {s : Session}

/-! ### Steps of the driver -/

theorem resolution_question (r : Request) (t : Turn) :
    (s.resolution r t).question = t.question := by
  unfold resolution
  split
  · exact Turn.cancel_question ..
  · exact Turn.accumulate_question ..

/-- Each of the three writes of a driver is a fold into the turn of its request. -/
theorem touched_drive {n : Nat} {r : Request} (hr : s.request? n = some r) {s' : Session}
    (hdrive : s.Drive n s') : s.store.Touched r.turn s'.store := by
  have hsame : ∀ {r'}, s.request? n = some r' → r' = r :=
    fun hr' => Option.some.inj (hr'.symm.trans hr)
  cases hdrive with
  | ended | waits | discards => exact .untouched
  | folds hr' hd hrec hstop he =>
    rw [hsame hr']
    exact s.store.touched_foldPending r.turn (Turn.accumulate_question · _)
  | ends hr' hd hrec hstop he =>
    rw [store_finishDriver, hsame hr']
    exact s.store.touched_foldPending r.turn (Turn.accumulate_question · _)
  | closes hr' hd hrec =>
    rw [store_finishDriver, hsame hr']
    exact s.store.touched_foldPending r.turn (s.resolution_question r)

/-- A driver whose turn does not wait touches nothing. -/
theorem store_drive_of_settled {n : Nat} {r : Request} (hr : s.request? n = some r)
    (hsettled : s.store.conversation.Settled r.turn) {s' : Session} (hdrive : s.Drive n s') :
    s'.store = s.store := by
  have htouched := touched_drive hr hdrive
  generalize s'.store = store at htouched
  cases htouched with
  | untouched => rfl
  | @goesOn before behind t t' hturns hid hp =>
    have hmem : t ∈ s.store.conversation.turns := by simp [hturns]
    rw [hsettled t hmem hid] at hp
    exact absurd hp Bool.false_ne_true

/-- Of the polls only one that finds the session idle can touch the store. -/
theorem store_polled_of_busy (hbusy : s.phase ≠ .idle) {c : Call} {stage : Stage}
    {r : Option Outcome × Session} (hpolled : s.Polled c stage r) : r.2.store = s.store := by
  cases hpolled with
  | refused | aborts | waits => rfl
  | aborted hidle | found hidle => rfl
  | clears hidle => exact absurd hidle hbusy

/-! ### Ids of requests -/

/-- The turns of all requests have ids that were minted. -/
def Assigned (s : Session) : Prop := ∀ id ∈ s.requests.map (·.turn), id.serial < s.mint.next

/-- What leaves the turns of the requests, and takes no id back. -/
theorem Assigned.of_eq (h : Assigned s) {s' : Session}
    (hturns : s'.requests.map (·.turn) = s.requests.map (·.turn))
    (hmint : s.mint.next ≤ s'.mint.next) : Assigned s' := by
  intro id hid
  rw [hturns] at hid
  exact Nat.lt_of_lt_of_le (h id hid) hmint

theorem Assigned.refeed (h : Assigned s) (n : Nat) (g : Event.Feed → Event.Feed) :
    Assigned (s.refeed n g) :=
  h.of_eq (map_updateRequest n fun _ => rfl) (Nat.le_refl _)

theorem Assigned.finishDriver (h : Assigned s) (r : Request) : Assigned (s.finishDriver r) := by
  refine h.of_eq ?_ (by simp)
  rw [requests_finishDriver]
  exact map_updateRequest r.number fun _ => rfl

theorem Assigned.drive (h : Assigned s) {n : Nat} {s' : Session} (hdrive : s.Drive n s') :
    Assigned s' := by
  have hfold : ∀ stream id f, Assigned ((s.setStream n stream).fold id f) :=
    fun stream _ _ => h.refeed n fun feed => { feed with stream }
  cases hdrive with
  | ended => exact h
  | waits | discards => exact h.refeed n _
  | folds => exact hfold _ _ _
  | ends | closes => exact (hfold _ _ _).finishDriver _

theorem Assigned.submit (h : Assigned s) (feed : Event.Feed) (question : String) :
    Assigned (s.submit feed question).2 := by
  rcases s.submit_cases feed question with ⟨e, -, hs | hs⟩ | ⟨-, -, hs⟩
  · rw [hs]
    exact h
  · rw [hs]
    exact h.of_eq rfl (Nat.le_succ _)
  · rw [hs]
    intro id hid
    rw [List.map_append, List.mem_append] at hid
    rcases hid with hid | hid
    · exact Nat.lt_succ_of_lt (h id hid)
    · rw [List.map_singleton, List.mem_singleton] at hid
      rw [hid]
      exact Nat.lt_succ_self _

theorem Assigned.write (h : Assigned s) (w : Write) : Assigned (s.write w) := by
  cases w with
  | append question =>
    cases happend : s.store.append s.mint.take.1 question <;> simp only [Session.write, happend] <;>
      exact h.of_eq rfl (Nat.le_succ _)
  | replace chatId turns =>
    simp only [Session.write]
    split <;> exact h
  | fold | reset | setChatId => exact h
  | mint => exact h.of_eq rfl (Nat.le_succ _)

/-! ### Turns that wait no more -/

variable {id : TurnId}

theorem settled_replace (store : Store) (chatId : Option String) (turns : List Turn) :
    (store.replace chatId turns).conversation.Settled id := by
  intro t ht hid
  obtain ⟨u, -, rfl⟩ := List.mem_map.mp ht
  rfl

/-- A turn that is appended waits, but it has an id of its own. -/
theorem settled_append (h : s.store.conversation.Settled id) (hminted : id.serial < s.mint.next)
    (question : String) :
    (s.store.publish { s.store.conversation with
      turns := s.store.conversation.turns ++ [Turn.pending s.mint.take.1 question]
      }).conversation.Settled id := by
  intro t ht hid
  rcases List.mem_append.mp ht with ht | ht
  · exact h t ht hid
  · rw [List.mem_singleton.mp ht] at hid
    rw [← hid] at hminted
    exact absurd hminted (Nat.lt_irrefl _)

theorem settled_drive (h : s.store.conversation.Settled id) {n : Nat} {s' : Session}
    (hdrive : s.Drive n s') : s'.store.conversation.Settled id := by
  cases hdrive with
  | ended | waits | discards => exact h
  | folds => exact Store.settled_foldPending h _ _
  | ends | closes =>
    rw [store_finishDriver]
    exact Store.settled_foldPending h _ _

theorem settled_write (h : s.store.conversation.Settled id) (hminted : id.serial < s.mint.next)
    (w : Write) : (s.write w).store.conversation.Settled id := by
  cases w with
  | append question =>
    cases happend : s.store.append s.mint.take.1 question with
    | error e =>
      simp only [Session.write, happend]
      exact h
    | ok store =>
      obtain ⟨-, rfl⟩ := Store.append_eq_ok happend
      simp only [Session.write, happend]
      exact settled_append h hminted question
  | fold id' f => exact Store.settled_foldPending h id' f
  | reset => exact fun t ht => absurd ht List.not_mem_nil
  | replace chatId turns =>
    simp only [Session.write]
    split
    · exact settled_replace _ _ _
    · exact h
  | setChatId chatId =>
    intro t ht
    rw [Session.write, Store.turns_setChatId] at ht
    exact h t ht
  | mint => exact h

end Session

namespace Scene

open Session (Sound Assigned)

theorem assigned_act {s : Scene} (h : Assigned s.session) (a : Act) :
    Assigned (s.act a).session := by
  have hacted := s.act_acted a
  generalize (s.act a).session = s' at hacted
  cases hacted with
  | idles => exact h
  | asks => exact h.submit _ _
  | polls hpolled =>
    cases hpolled with
    | aborts hc hp ha => exact h.refeed _ fun feed => { feed with stream := feed.stream.cancel.2 }
    | refused | waits | aborted | clears | found => exact h
  | @reopens chatId reply =>
    cases reply with
    | error failure => exact h
    | ok history => exact h.of_eq rfl (reconcile_spec s.session.mint history.records).1
  | refeeds => exact h.refeed _ _
  | drives hdrive => exact h.drive hdrive
  | writes => exact h.write _

theorem assigned_run (message : String) (acts : List Act) :
    Assigned ((start message).run acts).session :=
  run_induction (P := fun s => Assigned s.session) (fun _ a (_ : True) hs => assigned_act hs a)
    (fun _ hid => absurd hid List.not_mem_nil) acts fun _ _ => trivial

/-- A request keeps its turn, whether it is in the store or not. -/
theorem turn_act {s : Scene} (hs : Sound s.session) {n : Nat} {r : Request}
    (hr : s.session.request? n = some r) (a : Act) :
    ∃ r', (s.act a).session.request? n = some r' ∧ r'.turn = r.turn := by
  obtain ⟨r', hr', hbecomes⟩ := request?_becomes hs hr a
  refine ⟨r', hr', ?_⟩
  cases hbecomes <;> rfl

/-- No act makes a turn wait whose id was minted before. -/
theorem settled_act {s : Scene} {id : TurnId} (hminted : id.serial < s.session.mint.next)
    (h : s.session.store.conversation.Settled id) (a : Act) :
    (s.act a).session.store.conversation.Settled id := by
  have hacted := s.act_acted a
  generalize (s.act a).session = s' at hacted
  cases hacted with
  | idles | refeeds => exact h
  | @asks feed question =>
    rcases s.session.submit_cases feed question with ⟨e, -, hs | hs⟩ | ⟨-, -, hs⟩
    · rw [hs]
      exact h
    · rw [hs]
      exact h
    · rw [hs]
      exact Session.settled_append h hminted question
  | polls hpolled =>
    cases hpolled with
    | refused | aborts | waits | aborted | found => exact h
    | clears => exact fun t ht => absurd ht List.not_mem_nil
  | @reopens chatId reply =>
    cases reply with
    | error failure => exact h
    | ok history => exact Session.settled_replace _ _ _
  | drives hdrive => exact Session.settled_drive h hdrive
  | writes => exact Session.settled_write h hminted _

/-- The request of a number has a turn that waits no more. -/
structure Departed (n : Nat) (s : Scene) : Prop where
  sound : Sound s.session
  assigned : Assigned s.session
  settled : ∃ r, s.session.request? n = some r ∧ s.session.store.conversation.Settled r.turn

variable {n : Nat} {s : Scene}

theorem Departed.act (h : Departed n s) (a : Act) : Departed n (s.act a) := by
  obtain ⟨r, hr, hsettled⟩ := h.settled
  have hminted : r.turn.serial < s.session.mint.next :=
    h.assigned r.turn (List.mem_map_of_mem (Session.request?_mem hr))
  obtain ⟨r', hr', hturn⟩ := turn_act h.sound hr a
  refine ⟨sound_act h.sound a, assigned_act h.assigned a, r', hr', ?_⟩
  rw [hturn]
  exact settled_act hminted hsettled a

theorem Departed.run (h : Departed n s) (acts : List Act) : Departed n (s.run acts) :=
  run_induction (fun _ a (_ : True) hs => hs.act a) h acts fun _ _ => trivial

/-- Nothing that concerns such a request touches the store. -/
theorem Departed.store_act (h : Departed n s) {a : Act} (ha : a.concerns n = true) :
    (s.act a).session.store = s.session.store := by
  have hacted := s.act_acted a
  generalize (s.act a).session = s' at hacted
  cases hacted with
  | idles | refeeds => rfl
  | drives hdrive =>
    obtain ⟨r, hr, hsettled⟩ := h.settled
    rw [Act.concerns, decide_eq_true_eq] at ha
    subst ha
    exact Session.store_drive_of_settled hr hsettled hdrive
  | asks | polls | reopens | writes => simp [Act.concerns] at ha

theorem store_poll_of_busy (hbusy : s.session.phase ≠ .idle) (i : Nat) :
    (s.act (.poll i)).session.store = s.session.store := by
  have hacted := s.act_acted (.poll i)
  generalize (s.act (.poll i)).session = s' at hacted
  cases hacted with
  | idles | refeeds => rfl
  | polls hpolled => exact Session.store_polled_of_busy hbusy hpolled

/-- **A request disturbs no conversation but its own turn.**  A step of its driver leaves
the chat's id, the turns in their order and all turns but one as they are; the one is the
turn of the request, as long as it waits, and its id and its question stay.  Once that turn
has left the store, or is resolved, it never waits again: whatever happens from then on,
nothing that concerns the request touches the store or tells its observers, nor does any
poll under which the request is asked to stop. -/
theorem undisturbed_run (message : String) (acts : List Act) (n : Nat) (r : Request) :
    let s := (start message).run acts
    s.session.request? n = some r →
    s.session.store.Touched r.turn (s.act (.receive n)).session.store ∧
      (s.session.store.conversation.Settled r.turn → ∀ more,
        let s' := s.run more
        (∀ a, a.concerns n = true → (s'.act a).session.store = s'.session.store) ∧
          ∀ i, s'.session.phase ≠ .idle → (s'.act (.poll i)).session.store = s'.session.store) := by
  intro s hr
  refine ⟨Session.touched_drive hr (s.session.driverStep_drive n), ?_⟩
  intro hsettled more s'
  have hdeparted : Departed n s :=
    ⟨sound_run (sound_start message) acts, assigned_run message acts, r, hr, hsettled⟩
  exact ⟨fun a ha => (hdeparted.run more).store_act ha, fun i hbusy => store_poll_of_busy hbusy i⟩

/-- An answer and its end are queued when another chat is put in the place of the one that
waits for it. -/
def chatReplacedBeforeAnswer : List Act :=
  [.submit { worker := .working { batches := [[.chunk "Hel", .done]] } } "Why?", .work 1,
    .reopen "old" (.ok { records := [{ question := "Who?", answer := "You." }] })]

/-- The driver receives both, the session is idle, and the other chat is as it was. -/
theorem undisturbed_run_chatReplacedBeforeAnswer :
    let s := (start "stopped").run chatReplacedBeforeAnswer
    let s' := (s.act (.receive 1)).act (.receive 1)
    s'.session.phase = .idle ∧ s'.session.store = s.session.store := by
  intro s s'
  obtain ⟨-, hrun⟩ := undisturbed_run "stopped" chatReplacedBeforeAnswer 1 _ rfl
  have hsettled : s.session.store.conversation.Settled ⟨0⟩ := by decide
  have hfirst := (hrun hsettled []).1 (.receive 1) rfl
  have hsecond := (hrun hsettled [.receive 1]).1 (.receive 1) rfl
  exact ⟨by decide, hsecond.trans hfirst⟩

end Scene

end Dialogue
