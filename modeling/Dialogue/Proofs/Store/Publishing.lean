/-
No change of a store goes unpublished.

An operation is refused, or it publishes a conversation.  What is refused is listed in
`Refused`, and it leaves the store as it was, so that observers do not have to be told of
it; everything else takes the store to its next edition, even if the conversation happens
to be the one that was there.  This is said once, in `perform_cases`.

An observer remembers the edition that it looked at last.  Editions only go up, so an edition
that was seen never comes back with another conversation.  Therefore it is enough to look
again when there is a new one: until then what was read last is what the store holds.
-/
import Dialogue.Proofs.Store.History

namespace Dialogue.Store

/-! ### Refusals -/

/-- The operation is not allowed, or there is nothing that it could change. -/
inductive Refused (s : Store) : Op → Prop
  | append {id question e} (h : s.append id question = .error e) :
      Refused s (.append id question)
  | fold {id f} (h : (s.foldPending id f).1 = false) : Refused s (.fold id f)
  | update {id updated} (h : (s.applyUpdate id updated).1 = false) :
      Refused s (.update id updated)
  /-- The chat has that id already. -/
  | setChatId {chatId} (h : s.conversation.chatId = chatId) : Refused s (.setChatId chatId)

theorem edition_publish (s : Store) (c : Conversation) :
    (s.publish c).edition = s.edition + 1 := rfl

/-- A fold says whether it has published anything. -/
theorem foldPending_published (s : Store) (id : TurnId) (f : Turn → Turn) :
    (s.foldPending id f).1 = false ∧ (s.foldPending id f).2 = s ∨
      (s.foldPending id f).1 = true ∧ ∃ c, (s.foldPending id f).2 = s.publish c := by
  rcases s.foldPending_cases id f with ⟨before, t, behind, -, -, -, -, hfold⟩ | ⟨-, hfold⟩
  · rw [hfold]
    exact Or.inr ⟨rfl, _, rfl⟩
  · rw [hfold]
    exact Or.inl ⟨rfl, rfl⟩

theorem setChatId_of_ne {s : Store} {chatId : Option String}
    (h : s.conversation.chatId ≠ chatId) :
    s.setChatId chatId = s.publish { s.conversation with chatId } := by
  unfold setChatId
  rw [if_neg h]

/-- An operation is refused and changes nothing, or it publishes. -/
theorem perform_cases (s : Store) (o : Op) :
    s.Refused o ∧ s.perform o = s ∨ ¬ s.Refused o ∧ ∃ c, s.perform o = s.publish c := by
  cases o with
  | append id question =>
    cases happend : s.append id question with
    | error e => exact Or.inl ⟨.append happend, by simp only [perform, happend]⟩
    | ok s' =>
      have hperform : s.perform (.append id question) = s' := by simp only [perform, happend]
      refine Or.inr ⟨?_, _, hperform.trans (append_eq_ok happend).2⟩
      intro hrefused
      cases hrefused with
      | append herror => simp [happend] at herror
  | fold id f =>
    rcases s.foldPending_published id f with ⟨hfalse, hsame⟩ | ⟨htrue, hpublished⟩
    · exact Or.inl ⟨.fold hfalse, hsame⟩
    · refine Or.inr ⟨?_, hpublished⟩
      intro hrefused
      cases hrefused with
      | fold hfalse => simp [htrue] at hfalse
  | update id updated =>
    rcases s.foldPending_published id (fun _ => updated) with ⟨hfalse, hsame⟩ | ⟨htrue, hpublished⟩
    · exact Or.inl ⟨.update hfalse, hsame⟩
    · refine Or.inr ⟨?_, hpublished⟩
      intro hrefused
      cases hrefused with
      | update hfalse =>
        rw [applyUpdate, htrue] at hfalse
        simp at hfalse
  | reset =>
    refine Or.inr ⟨?_, _, rfl⟩
    intro hrefused
    cases hrefused
  | replace chatId turns =>
    refine Or.inr ⟨?_, _, rfl⟩
    intro hrefused
    cases hrefused
  | setChatId chatId =>
    by_cases hsame : s.conversation.chatId = chatId
    · exact Or.inl ⟨.setChatId hsame, if_pos hsame⟩
    · refine Or.inr ⟨?_, _, setChatId_of_ne hsame⟩
      intro hrefused
      cases hrefused with
      | setChatId h => exact hsame h

theorem perform_of_refused {s : Store} {o : Op} (h : s.Refused o) : s.perform o = s := by
  rcases s.perform_cases o with ⟨-, hsame⟩ | ⟨hnot, -⟩
  · exact hsame
  · exact absurd h hnot

/-- The edition tells whether an operation was refused. -/
theorem edition_perform_eq_iff (s : Store) (o : Op) :
    (s.perform o).edition = s.edition ↔ s.Refused o := by
  constructor
  · intro hedition
    rcases s.perform_cases o with ⟨hrefused, -⟩ | ⟨-, c, hpublished⟩
    · exact hrefused
    · rw [hpublished, edition_publish] at hedition
      omega
  · intro hrefused
    rw [perform_of_refused hrefused]

/-! ### Observers -/

/-- Somebody who watches a store. -/
structure Observer where
  /-- The edition that was looked at last. -/
  seen : Nat
  /-- What it held. -/
  held : Conversation

namespace Observer

/-- Looks at a store for the first time. -/
def of (s : Store) : Observer := ⟨s.edition, s.conversation⟩

/-- Is there an edition that the observer has not seen? -/
def isTold (o : Observer) (s : Store) : Bool := o.seen ≠ s.edition

/-- Reads the store again if there is reason to. -/
def look (o : Observer) (s : Store) : Observer := if o.isTold s then of s else o

/-- What the observer has seen is not newer than the store, and if it is not older either, it
is what the store holds. -/
structure Informed (o : Observer) (s : Store) : Prop where
  seen_le : o.seen ≤ s.edition
  current : o.seen = s.edition → o.held = s.conversation

theorem informed_of (s : Store) : (of s).Informed s := ⟨Nat.le_refl _, fun _ => rfl⟩

theorem Informed.perform {o : Observer} {s : Store} (h : o.Informed s) (op : Op) :
    o.Informed (s.perform op) := by
  rcases s.perform_cases op with ⟨-, hsame⟩ | ⟨-, c, hpublished⟩
  · rw [hsame]
    exact h
  · have hle := h.seen_le
    have hnext : (s.perform op).edition = s.edition + 1 := by
      rw [hpublished, edition_publish]
    exact ⟨by omega, fun hseen => by omega⟩

theorem Informed.look {o : Observer} {s : Store} (h : o.Informed s) : (o.look s).Informed s := by
  unfold Observer.look
  split
  · exact informed_of s
  · exact h

theorem Informed.held_of_not_told {o : Observer} {s : Store} (h : o.Informed s)
    (htold : o.isTold s = false) : o.held = s.conversation :=
  h.current (by simpa [isTold] using htold)

/-- Who looks again holds what the store holds. -/
theorem Informed.held_look {o : Observer} {s : Store} (h : o.Informed s) :
    (o.look s).held = s.conversation := by
  unfold Observer.look
  split
  · rfl
  · rename_i htold
    exact h.held_of_not_told (eq_false_of_ne_true htold)

end Observer

/-! ### Histories with an observer -/

/-- A store and somebody who watches it. -/
structure Watched where
  store : Store
  observer : Observer

/-- What happens at one time. -/
inductive Moment where
  | performs (o : Op)
  /-- The observer looks whether it was told of anything. -/
  | looks

namespace Watched

/-- What a moment leaves of both. -/
def pass (w : Watched) : Moment → Watched
  | .performs o => { w with store := w.store.perform o }
  | .looks => { w with observer := w.observer.look w.store }

/-- What some moments leave of them, one after the other. -/
def run (w : Watched) (moments : List Moment) : Watched := moments.foldl pass w

theorem informed_pass {w : Watched} (h : w.observer.Informed w.store) (m : Moment) :
    (w.pass m).observer.Informed (w.pass m).store := by
  cases m with
  | performs o => exact h.perform o
  | looks => exact h.look

theorem informed_run {w : Watched} (h : w.observer.Informed w.store) (moments : List Moment) :
    (w.run moments).observer.Informed (w.run moments).store := by
  induction moments generalizing w with
  | nil => exact h
  | cons m moments ih => exact ih (informed_pass h m)

end Watched

/-- **No change goes unpublished.**  Whatever a store holds, observers are told of an operation
unless it is refused, and then the store is what it was.  So whoever began to watch a store at
some time, and looks whenever it likes, holds the conversation of the store at all times at
which there is no notice that it has not followed; and if there is one, it has only to look. -/
theorem published_run (s : Store) :
    (∀ o, ((s.perform o).edition = s.edition ↔ s.Refused o) ∧
      (s.Refused o → s.perform o = s)) ∧
    ∀ moments,
      let w := (Watched.mk s (.of s)).run moments
      (w.observer.isTold w.store = false → w.observer.held = w.store.conversation) ∧
        (w.observer.look w.store).held = w.store.conversation := by
  refine ⟨fun o => ⟨s.edition_perform_eq_iff o, perform_of_refused⟩, fun moments => ?_⟩
  intro w
  have hinformed : w.observer.Informed w.store :=
    Watched.informed_run (Observer.informed_of s) moments
  exact ⟨hinformed.held_of_not_told, hinformed.held_look⟩

/-- A question waits for its answer. -/
def oneAsked : Store := ({} : Store).run [.append ⟨0⟩ "Why?"]

/-- Another question is refused, and then the answer comes in two pieces. -/
def refusedThenAnswered : List Moment :=
  [.performs (.append ⟨1⟩ "Who?"), .looks,
    .performs (.fold ⟨0⟩ (·.accumulate (.chunk "So."))),
    .performs (.fold ⟨0⟩ (·.accumulate .done))]

/-- The refusal is no reason to look again, and after two changes one look is enough. -/
theorem published_run_refusedThenAnswered :
    let w := (Watched.mk oneAsked (.of oneAsked)).run refusedThenAnswered
    oneAsked.perform (.append ⟨1⟩ "Who?") = oneAsked ∧
      w.observer.held = oneAsked.conversation ∧ w.observer.isTold w.store = true ∧
      (w.observer.look w.store).held.turns =
        [Turn.resolved ⟨0⟩ "Why?" "So." []] := by
  intro w
  obtain ⟨hperform, hwatch⟩ := published_run oneAsked
  have hlook := (hwatch refusedThenAnswered).2
  refine ⟨(hperform _).2 (.append (e := .pendingTurn ⟨0⟩) (by decide)), by decide, by decide, ?_⟩
  rw [hlook]
  decide

end Dialogue.Store
