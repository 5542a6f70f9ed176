/-
What holds in every state of every run.

`Sound` ties the phase, the active request and the drivers together: the session is idle
exactly while no request is active, and the request whose driver is at work is the active
one.  Requests are numbered in the order in which they came, so a number stands for one
request.  The ids of all turns have been minted.

All of this holds whatever is written to the store directly, because no write reaches the
session; so it is proved for every act, and what needs a store of one's own is left to
those who have one.
-/
import Mathlib.Data.List.Nodup
import Dialogue.Proofs.History
import Dialogue.Proofs.Session.Step

namespace Dialogue.Session

/-- The requests whose drivers are at work. -/
def driven (s : Session) : List Active := (s.requests.filter (·.isDriven)).map (·.slot)

/-- Phase, active request and drivers fit together, and no id comes from elsewhere. -/
structure Sound (s : Session) : Prop where
  /-- Requests are numbered from one on. -/
  numbered : s.requests.map (·.number) = List.range' 1 s.requests.length
  idle_iff : s.phase = .idle ↔ s.active = none
  /-- One driver is at work for the active request, and none beside it. -/
  driven : s.driven = s.active.toList
  /-- No turn has an id that was not minted. -/
  minted : ∀ t ∈ s.store.conversation.turns, t.id.serial < s.mint.next

variable {s : Session}

/-! ### Reading the invariant -/

theorem Sound.eq_of_number (h : Sound s) {r r' : Request} (hr : r ∈ s.requests)
    (hr' : r' ∈ s.requests) (hn : r.number = r'.number) : r = r' := by
  have hnodup : (s.requests.map (·.number)).Nodup := by
    rw [h.numbered]
    exact List.nodup_range'
  exact List.inj_on_of_nodup_map hnodup hr hr' hn

theorem Sound.request?_of_mem (h : Sound s) {r : Request} (hr : r ∈ s.requests) :
    s.request? r.number = some r := by
  cases hfind : s.request? r.number with
  | none =>
    have := List.find?_eq_none.mp hfind r hr
    simp at this
  | some r' => rw [h.eq_of_number (request?_mem hfind) hr (request?_number hfind)]

theorem Sound.active_of_driven (h : Sound s) {r : Request} (hr : r ∈ s.requests)
    (hd : r.isDriven = true) : s.active = some r.slot := by
  have hmem : r.slot ∈ s.driven :=
    List.mem_map_of_mem (List.mem_filter.mpr ⟨hr, hd⟩)
  rw [h.driven] at hmem
  exact Option.mem_toList.mp hmem

/-- The request whose driver takes a step is the active one. -/
theorem Sound.active_of_request? (h : Sound s) {n : Nat} {r : Request}
    (hr : s.request? n = some r) (hd : r.isDriven = true) : s.active = some r.slot :=
  h.active_of_driven (request?_mem hr) hd

/-- The active request has a driver at work. -/
theorem Sound.driven_of_active (h : Sound s) {a : Active} (ha : s.active = some a) :
    ∃ r, s.request? a.number = some r ∧ r.isDriven = true ∧ r.slot = a := by
  have hmem : a ∈ s.driven := by
    rw [h.driven, ha]
    exact List.mem_singleton_self a
  obtain ⟨r, hr, rfl⟩ := List.mem_map.mp hmem
  obtain ⟨hr, hd⟩ := List.mem_filter.mp hr
  exact ⟨r, h.request?_of_mem hr, hd, rfl⟩

/-! ### Steps of the parts -/

theorem driven_refeed (n : Nat) (g : Event.Feed → Event.Feed) :
    (s.refeed n g).driven = s.driven := by
  have hslot : Request.slot ∘ (fun r => if r.number = n then { r with feed := g r.feed } else r) =
      Request.slot := by
    funext r
    by_cases hr : r.number = n
    · rw [Function.comp_apply, if_pos hr]
      rfl
    · rw [Function.comp_apply, if_neg hr]
  have hdriven : (fun r : Request => r.isDriven) ∘
      (fun r => if r.number = n then { r with feed := g r.feed } else r) =
      fun r => r.isDriven := by
    funext r
    by_cases hr : r.number = n
    · rw [Function.comp_apply, if_pos hr]
    · rw [Function.comp_apply, if_neg hr]
  simp only [Session.driven, Session.refeed, Session.updateRequest, List.filter_map, List.map_map,
    hslot, hdriven]

/-- What a change leaves of a request, it leaves of all. -/
theorem map_updateRequest {α : Type} {g : Request → α} (n : Nat) {f : Request → Request}
    (hf : ∀ r, g (f r) = g r) :
    (s.updateRequest n f).requests.map g = s.requests.map g := by
  simp only [Session.updateRequest, List.map_map]
  congr 1
  funext r
  by_cases hr : r.number = n <;> simp [hr, hf]

theorem length_updateRequest (n : Nat) (f : Request → Request) :
    (s.updateRequest n f).requests.length = s.requests.length := List.length_map ..

/-- A request's feed is no matter of the invariant. -/
theorem Sound.refeed (h : Sound s) (n : Nat) (g : Event.Feed → Event.Feed) :
    Sound (s.refeed n g) where
  numbered := by
    have hkept : (s.refeed n g).requests.map (·.number) = s.requests.map (·.number) :=
      map_updateRequest n fun _ => rfl
    rw [hkept, Session.refeed, length_updateRequest, h.numbered]
  idle_iff := h.idle_iff
  driven := by
    rw [driven_refeed, h.driven]
    rfl
  minted := h.minted

/-- Nor is the store, as long as its ids are minted. -/
theorem Sound.withStore (h : Sound s) {store : Store} (mint : Mint)
    (hm : ∀ t ∈ store.conversation.turns, t.id.serial < mint.next) :
    Sound { s with store, mint } := ⟨h.numbered, h.idle_iff, h.driven, hm⟩

theorem Sound.fold (h : Sound s) (id : TurnId) (f : Turn → Turn) : Sound (s.fold id f) := by
  refine h.withStore s.mint fun t ht => ?_
  have hid : t.id ∈ (s.store.foldPending id f).2.conversation.turns.map (·.id) :=
    List.mem_map_of_mem ht
  rw [Store.map_id_foldPending] at hid
  obtain ⟨u, hu, hsame⟩ := List.mem_map.mp hid
  rw [← hsame]
  exact h.minted u hu

/-- The driver of the active request leaves the session idle when it ends. -/
theorem finishDriver_eq {r : Request} (ha : s.active = some r.slot) :
    s.finishDriver r =
      { s.updateRequest r.number Request.undriven with
        active := none, phase := .idle, phaseEdition := s.phaseEdition + 1 } := by
  simp [finishDriver, Session.updateRequest, ha, Request.slot, setPhase, Request.undriven]

theorem Sound.finishDriver (h : Sound s) {r : Request} (ha : s.active = some r.slot) :
    Sound (s.finishDriver r) := by
  rw [finishDriver_eq ha]
  refine ⟨?_, ⟨fun _ => rfl, fun _ => rfl⟩, ?_, h.minted⟩
  · have hkept : (s.updateRequest r.number Request.undriven).requests.map (·.number) =
        s.requests.map (·.number) := map_updateRequest r.number fun _ => rfl
    exact hkept.trans (h.numbered.trans (by rw [length_updateRequest]))
  · -- Only the active request was driven, and its driver is the one that ends.
    simp only [Session.driven, Session.updateRequest, Option.toList_none, List.map_eq_nil_iff,
      List.filter_eq_nil_iff, List.mem_map, forall_exists_index, and_imp,
      forall_apply_eq_imp_iff₂, Bool.not_eq_true]
    intro r' hr'
    by_cases hn : r'.number = r.number
    · rw [if_pos hn, Request.undriven]
    · rw [if_neg hn]
      cases hd' : r'.isDriven with
      | false => rfl
      | true =>
        have hsame := (h.active_of_driven hr' hd').symm.trans ha
        rw [Option.some.injEq, Request.slot, Request.slot, Active.mk.injEq] at hsame
        exact absurd hsame.1 hn

/-! ### Steps -/

theorem Sound.drive (h : Sound s) {n : Nat} {s' : Session} (hdrive : s.Drive n s') :
    Sound s' := by
  cases hdrive with
  | ended => exact h
  | waits hr hd hrec => exact h.refeed n _
  | discards hr hd hrec hstop => exact h.refeed n _
  | folds hr hd hrec hstop he => exact (h.refeed n _).fold ..
  | ends hr hd hrec hstop he =>
    exact ((h.refeed n _).fold ..).finishDriver (h.active_of_request? hr hd)
  | closes hr hd hrec => exact ((h.refeed n _).fold ..).finishDriver (h.active_of_request? hr hd)

theorem Sound.polled (h : Sound s) {c : Call} {stage : Stage} {r : Option Outcome × Session}
    (hpolled : s.Polled c stage r) : Sound r.2 := by
  cases hpolled with
  | @aborts c a hc hp ha =>
    have hbusy : Sound (s.setPhase .canceling) :=
      ⟨h.numbered, by simp [setPhase, ha], h.driven, h.minted⟩
    exact hbusy.refeed a.number fun feed => { feed with stream := feed.stream.cancel.2 }
  | clears => exact h.withStore s.mint (by simp [Store.reset, Store.publish])
  | refused | waits | aborted | found => exact h

theorem Sound.submit (h : Sound s) (feed : Event.Feed) (question : String) :
    Sound (s.submit feed question).2 := by
  have hminted : ∀ t ∈ s.store.conversation.turns, t.id.serial < s.mint.take.2.next :=
    fun t ht => Nat.lt_succ_of_lt (h.minted t ht)
  rcases s.submit_cases feed question with ⟨e, -, hs | hs⟩ | ⟨hphase, -, hs⟩
  · rw [hs]
    exact h
  · rw [hs]
    exact h.withStore _ hminted
  · rw [hs]
    have hnone : s.active = none := h.idle_iff.mp hphase
    refine ⟨?_, ?_, ?_, ?_⟩
    · simp [h.numbered, List.range'_concat, Nat.add_comm]
    · simp
    · have hdriven := h.driven
      rw [hnone, Option.toList_none] at hdriven
      simp only [Session.driven, List.map_eq_nil_iff] at hdriven
      simp [Session.driven, hdriven, Request.slot]
    · intro t ht
      rcases List.mem_append.mp ht with ht | ht
      · exact hminted t ht
      · rw [List.mem_singleton.mp ht]
        exact Nat.lt_succ_self _

theorem Sound.reopen (h : Sound s) (chatId : String) (reply : Except Http.Failure History) :
    Sound (s.reopen chatId reply) := by
  cases reply with
  | error failure => exact h
  | ok history =>
    refine h.withStore _ fun t ht => ?_
    obtain ⟨u, hu, rfl⟩ := List.mem_map.mp ht
    exact ((reconcile_spec s.mint history.records).2 u hu).2.2

/-- Nothing that is written to the store reaches the session. -/
theorem Sound.write (h : Sound s) (w : Write) : Sound (s.write w) := by
  have hminted : ∀ t ∈ s.store.conversation.turns, t.id.serial < s.mint.take.2.next :=
    fun t ht => Nat.lt_succ_of_lt (h.minted t ht)
  cases w with
  | append question =>
    cases happend : s.store.append s.mint.take.1 question with
    | error e =>
      simp only [Session.write, happend]
      exact h.withStore _ hminted
    | ok store =>
      obtain ⟨-, rfl⟩ := Store.append_eq_ok happend
      simp only [Session.write, happend]
      refine h.withStore _ fun t ht => ?_
      rcases List.mem_append.mp ht with ht | ht
      · exact hminted t ht
      · rw [List.mem_singleton.mp ht]
        exact Nat.lt_succ_self _
  | fold id f => exact h.fold id f
  | reset => exact h.withStore s.mint (by simp [Store.reset, Store.publish])
  | replace chatId turns =>
    simp only [Session.write]
    split
    · rename_i hknown
      refine h.withStore s.mint fun t ht => ?_
      obtain ⟨u, hu, rfl⟩ := List.mem_map.mp ht
      simpa using List.all_eq_true.mp hknown u hu
    · exact h
  | setChatId chatId =>
    refine h.withStore s.mint fun t ht => ?_
    rw [Store.turns_setChatId] at ht
    exact h.minted t ht
  | mint => exact h.withStore _ hminted

end Dialogue.Session

namespace Dialogue.Scene

open Session

theorem sound_start (message : String) : Sound (start message).session :=
  ⟨rfl, by simp [start], rfl, by simp [start]⟩

/-- Every act keeps the session sound. -/
theorem sound_act {s : Scene} (h : Sound s.session) (a : Act) : Sound (s.act a).session := by
  have hacted := s.act_acted a
  generalize (s.act a).session = s' at hacted
  cases hacted with
  | idles => exact h
  | asks => exact h.submit ..
  | polls hpolled => exact h.polled hpolled
  | reopens => exact h.reopen ..
  | refeeds => exact h.refeed ..
  | drives hdrive => exact h.drive hdrive
  | writes => exact h.write _

theorem sound_run {s : Scene} (h : Sound s.session) (acts : List Act) :
    Sound (s.run acts).session :=
  run_induction (P := fun s => Sound s.session) (fun _ a (_ : True) hs => sound_act hs a) h acts
    fun _ _ => trivial

end Dialogue.Scene
