/-
A request that nobody aborts ends with the terminal event of its service.

Every plan of a service has one end, unless its worker waits for ever; and as long as
nobody aborts the request or fills its stream, what its driver has heard and what is still
to come are together the events of the plan (`Flow`).  So the driver meets the end before
it can find the stream closed: a closed stream has told everything, and a driver that has
heard the end has stopped receiving.  A worker that waits for ever keeps the stream open.

That is why an answer is never said to have stopped too early because of what a service
did: only who fills a stream in the place of a worker can bring that about.
-/
import Dialogue.Proofs.Session.Delivery

namespace Dialogue.Scene

open Event (Told)
open Session (Sound)

variable {n : Nat} {all heard : List Event} {holds : Bool} {s : Scene}

/-- The stream is not found closed before the end was heard, nor after. -/
theorem Flow.finds_ne_closed (hend : holds = false → all.any Event.isTerminal = true)
    (h : Flow n all holds s.session heard) : s.finds n ≠ some .closed := by
  intro hfinds
  cases h with
  | ended hr hd htold hall => simp [finds, hr, hd] at hfinds
  | @underway r heard hr hd hserves hopen hall =>
    have hclosed : r.feed.stream.receive.1 = .closed := by simpa [finds, hr, hd] using hfinds
    obtain ⟨hcome, hholds⟩ := hserves.of_closed (Prod.ext hclosed rfl)
    rw [hcome, List.append_nil] at hall
    exact ne_of_open (hend hholds) hopen hall

/-- What was delivered: all of it was heard when the driver has ended, and when the worker
has, the rest is queued. -/
theorem Flow.told (hall : Told all (!holds)) (h : Flow n all holds s.session heard)
    {r : Request} (hr : s.session.request? n = some r) :
    (r.isDriven = false → Told heard true) ∧
      (r.isDriven = true → r.feed.worker = .gone → Told (heard ++ r.feed.stream.queue) true) := by
  cases h with
  | ended hr' hd htold _ =>
    obtain rfl := Option.some.inj (hr.symm.trans hr')
    exact ⟨fun _ => htold, fun hd' => absurd (hd.symm.trans hd') Bool.false_ne_true⟩
  | underway hr' hd hserves _ hcomes =>
    obtain rfl := Option.some.inj (hr.symm.trans hr')
    refine ⟨fun hd' => absurd (hd'.symm.trans hd) Bool.false_ne_true, fun _ hgone => ?_⟩
    have hqueue : r.feed.toCome = r.feed.stream.queue := by
      rw [Event.Feed.toCome, hgone, Event.Worker.unsent, List.append_nil]
    rw [hserves.finished hgone] at hall
    rwa [← hqueue, hcomes]

/-- **Every answer has exactly one terminal event, and it is the last.**  So it is with what
a decoder tells, whatever is done with it, and from the step on that told the end it tells
nothing; with a body in any parts, wherever reading fails; and with the events of a service,
unless its worker waits for ever.  And if it is so with a plan, then as long as nobody aborts
the request or fills its stream in the worker's place, the driver never finds the stream
closed: what it has heard when it ends, and what was delivered when the worker ends before,
has that one end. -/
theorem answers_end_once :
    (∀ (framing : Framing) (steps : List Event.Decoder.Step),
      let r := ({ framing } : Event.Decoder).run steps
      Told r.1 r.2.terminated ∧ (.finish ∈ steps → r.2.terminated = true) ∧
        (r.2.terminated = true → ∀ more, r.2.run more = ([], r.2))) ∧
    (∀ (framing : Framing) (parts : List Event.Part),
      Told (Event.readBody true { framing } parts).events true) ∧
    (∀ (service : Http.ChatService) (exchange : Http.Request → Http.Conduct) (k : Nat)
      (q : Question), (service.ask (m := Id) exchange k q).EndsOnce) ∧
    ∀ plan : Event.Plan, plan.EndsOnce → ∀ (message : String) (before : List Act)
      (question : String) (id : TurnId) (acts : List Act),
      let asked := (start message).run before
      let n := asked.session.requests.length + 1
      let feed : Event.Feed := { worker := .working plan }
      let s := asked.act (.submit feed question)
      (asked.session.submit feed question).1 = .ok id →
      (∀ a ∈ acts, a.fills n = false) → Unaborted n s acts →
      (s.run acts).finds n ≠ some .closed ∧
        ∀ r, (s.run acts).session.request? n = some r →
          (r.isDriven = false → Told (Scene.heard n s acts) true) ∧
          (r.isDriven = true → r.feed.worker = .gone →
            Told (Scene.heard n s acts ++ r.feed.stream.queue) true) := by
  refine ⟨?_, ?_, Http.endsOnce_ask, ?_⟩
  · intro framing steps r
    exact ⟨Event.Decoder.told_run steps rfl,
      fun hfinish => Event.Decoder.terminated_of_finish hfinish _,
      fun hend more => Event.Decoder.run_of_terminated hend more⟩
  · intro framing parts
    exact Event.told_events_readBody rfl parts
  · intro plan htold message before question id acts asked n feed s hok hfills hgoes
    have hasked : Sound asked.session := sound_run (sound_start message) before
    have hend : plan.holds = false → plan.batches.flatten.any Event.isTerminal = true := by
      intro hholds
      rw [htold.any_isTerminal, hholds]
      rfl
    have hrun := Flow.run hend acts (sound_act hasked _) (flow_submit hasked plan hok) hfills hgoes
    rw [List.nil_append] at hrun
    exact ⟨hrun.finds_ne_closed hend, fun r hr => hrun.told htold hr⟩

/-- A service that cannot be asked, because its token cannot be refreshed. -/
def expired : Http.ChatService where
  config := { endpoint := "http://localhost/chat" }
  tokens := { refreshError := fun _ => some "expired", token := fun _ => none }

/-- A decoder is told of the end in the middle, and again.  A request of a service that
cannot be asked hears one failure, and then its driver has ended. -/
theorem answers_end_once_expired :
    let r := ({ framing := .plainText } : Event.Decoder).run
      [.push [72], .finish, .push [105], .finish]
    let plan := expired.ask (m := Id) (fun _ => .refuses) 1 { question := "Why?" }
    let s := (start "stopped").act (.submit { worker := .working plan } "Why?")
    Told r.1 true ∧ r.1 = [.chunk "H", .done] ∧
      Told (Scene.heard 1 s [.work 1, .receive 1, .receive 1]) true ∧
      (s.run [.work 1, .receive 1, .receive 1]).finds 1 ≠ some .closed := by
  intro r plan s
  obtain ⟨hdecoder, -, hservice, hrun⟩ := answers_end_once
  obtain ⟨hr, hfinish, -⟩ := hdecoder .plainText [.push [72], .finish, .push [105], .finish]
  rw [hfinish (by decide)] at hr
  have hplan : plan.EndsOnce := hservice expired (fun _ => .refuses) 1 { question := "Why?" }
  have hok : (((start "stopped").run []).session.submit { worker := .working plan } "Why?").1 =
      .ok ⟨0⟩ := by decide
  have hfills : ∀ a ∈ [Act.work 1, .receive 1, .receive 1], a.fills 1 = false := by decide
  have hgoes : Unaborted 1 s [.work 1, .receive 1, .receive 1] := by decide +kernel
  obtain ⟨hopen, htold⟩ := hrun plan hplan "stopped" [] "Why?" ⟨0⟩
    [.work 1, .receive 1, .receive 1] hok hfills hgoes
  exact ⟨hr, by decide +kernel, (htold _ rfl).1 rfl, hopen⟩

end Dialogue.Scene
