/-
What the store does to single turns.

Every change of a turn goes through `foldPending`, which changes the first turn that has
the id and is pending, and nothing else.  So it is enough to know where that turn stands:
`foldPending_cases` takes the conversation apart there.  Three readings follow: one for a
turn that is looked up by its id, one for the turns that are pending, and one for all that
a fold leaves as it is.
-/
import Mathlib.Tactic.Common
import Dialogue.Store

namespace Dialogue

/-- The turns that wait for their answers. -/
def Conversation.pendingTurns (c : Conversation) : List Turn := c.turns.filter (·.isPending)

/-- No turn of the id waits: there is none, or it is resolved. -/
def Conversation.Settled (c : Conversation) (id : TurnId) : Prop :=
  ∀ t ∈ c.turns, t.id = id → t.isPending = false

instance (c : Conversation) (id : TurnId) : Decidable (c.Settled id) :=
  inferInstanceAs (Decidable (∀ t ∈ c.turns, t.id = id → t.isPending = false))

namespace Store

/-! ### The first turn of a kind -/

theorem changeFirst_eq_some {p : Turn → Bool} {f : Turn → Turn} {ts ts' : List Turn}
    (h : changeFirst p f ts = some ts') :
    ∃ before t behind, ts = before ++ t :: behind ∧ (∀ x ∈ before, p x = false) ∧ p t = true ∧
      ts' = before ++ f t :: behind := by
  induction ts generalizing ts' with
  | nil => simp [changeFirst] at h
  | cons t ts ih =>
    by_cases ht : p t = true
    · rw [changeFirst, if_pos ht, Option.some.injEq] at h
      exact ⟨[], t, ts, rfl, by simp, ht, h.symm⟩
    · rw [changeFirst, if_neg ht, Option.map_eq_some_iff] at h
      obtain ⟨rest, hrest, rfl⟩ := h
      obtain ⟨before, u, behind, rfl, hbefore, hu, rfl⟩ := ih hrest
      refine ⟨t :: before, u, behind, rfl, ?_, hu, rfl⟩
      intro x hx
      rcases List.mem_cons.mp hx with rfl | hx
      · simpa using ht
      · exact hbefore x hx

theorem changeFirst_eq_none {p : Turn → Bool} {f : Turn → Turn} {ts : List Turn}
    (h : changeFirst p f ts = none) : ∀ t ∈ ts, p t = false := by
  induction ts with
  | nil => simp
  | cons t ts ih =>
    by_cases ht : p t = true
    · simp [changeFirst, ht] at h
    · rw [changeFirst, if_neg ht, Option.map_eq_none_iff] at h
      intro x hx
      rcases List.mem_cons.mp hx with rfl | hx
      · simpa using ht
      · exact ih h x hx

/-! ### Folding into the pending turn of an id -/

/-- The turn of the id is pending somewhere, and the first such turn is changed; or it is
nowhere, and the store stays as it is. -/
theorem foldPending_cases (s : Store) (id : TurnId) (f : Turn → Turn) :
    (∃ before t behind, s.conversation.turns = before ++ t :: behind ∧
        (∀ x ∈ before, x.id = id → x.isPending = false) ∧ t.id = id ∧ t.isPending = true ∧
        s.foldPending id f = (true, s.publish
          { s.conversation with turns := before ++ { f t with id := id } :: behind })) ∨
      (∀ t ∈ s.conversation.turns, t.id = id → t.isPending = false) ∧
        s.foldPending id f = (false, s) := by
  unfold foldPending
  split
  · rename_i turns h
    obtain ⟨before, t, behind, hturns, hbefore, ht, rfl⟩ := changeFirst_eq_some h
    rw [Bool.and_eq_true, decide_eq_true_eq] at ht
    refine Or.inl ⟨before, t, behind, hturns, ?_, ht.1, ht.2, rfl⟩
    intro x hx hid
    simpa [hid] using hbefore x hx
  · rename_i h
    refine Or.inr ⟨?_, rfl⟩
    intro t ht hid
    simpa [hid] using changeFirst_eq_none h t ht

/-- A fold leaves the ids as they are. -/
theorem map_id_foldPending (s : Store) (id : TurnId) (f : Turn → Turn) :
    (s.foldPending id f).2.conversation.turns.map (·.id) = s.conversation.turns.map (·.id) := by
  rcases foldPending_cases s id f with ⟨before, t, behind, hturns, -, hid, -, hfold⟩ | ⟨-, hfold⟩
  · rw [hfold, hturns]
    simp [publish, hid]
  · rw [hfold]

/-- The first turn of an id is the one that is changed, if it is pending. -/
theorem find?_changeFirst {id : TurnId} {f : Turn → Turn} {ts : List Turn} {t : Turn}
    (h : ts.find? (·.id = id) = some t) (hp : t.isPending = true) (hid : (f t).id = id) :
    ∃ ts', changeFirst (fun t => t.id = id && t.isPending) f ts = some ts' ∧
      ts'.find? (·.id = id) = some (f t) := by
  induction ts with
  | nil => simp at h
  | cons u ts ih =>
    by_cases hu : u.id = id
    · rw [List.find?_cons_of_pos (by simpa using hu), Option.some.injEq] at h
      subst h
      exact ⟨f u :: ts, by simp [changeFirst, hu, hp], by simp [hid]⟩
    · rw [List.find?_cons_of_neg (by simpa using hu)] at h
      obtain ⟨ts', hchange, hfind⟩ := ih h
      exact ⟨u :: ts', by simp [changeFirst, hu, hchange], by simpa [hu] using hfind⟩

/-- A fold changes the turn that is looked up, if that is pending. -/
theorem turn?_foldPending {s : Store} {id : TurnId} {t : Turn}
    (h : s.conversation.turn? id = some t) (hp : t.isPending = true) (f : Turn → Turn) :
    (s.foldPending id f).2.conversation.turn? id = some { f t with id := id } := by
  obtain ⟨ts', hchange, hfind⟩ :=
    find?_changeFirst (f := fun t => { f t with id := id }) h hp rfl
  simp only [foldPending, hchange]
  exact hfind

/-- Of at most one pending turn, a fold changes that one if it has the id. -/
theorem pendingTurns_foldPending {s : Store} (h : s.conversation.pendingTurns.length ≤ 1)
    (id : TurnId) (f : Turn → Turn) :
    (∃ t, s.conversation.pendingTurns = [t] ∧ t.id = id ∧
        (s.foldPending id f).2.conversation.pendingTurns =
          [{ f t with id := id }].filter (·.isPending)) ∨
      (∀ t ∈ s.conversation.pendingTurns, t.id ≠ id) ∧ s.foldPending id f = (false, s) := by
  rcases foldPending_cases s id f with
    ⟨before, t, behind, hturns, -, hid, hp, hfold⟩ | ⟨hnone, hfold⟩
  · refine Or.inl ⟨t, ?_⟩
    have hpending : s.conversation.pendingTurns =
        before.filter (·.isPending) ++ t :: behind.filter (·.isPending) := by
      simp [Conversation.pendingTurns, hturns, hp]
    rw [hpending, List.length_append, List.length_cons] at h
    have hbefore : before.filter (·.isPending) = [] := List.eq_nil_of_length_eq_zero (by omega)
    have hbehind : behind.filter (·.isPending) = [] := List.eq_nil_of_length_eq_zero (by omega)
    refine ⟨by rw [hpending, hbefore, hbehind]; rfl, hid, ?_⟩
    rw [hfold]
    simp only [publish, Conversation.pendingTurns, List.filter_append, hbefore, List.nil_append]
    rw [← List.singleton_append, List.filter_append, hbehind, List.append_nil]
  · refine Or.inr ⟨?_, hfold⟩
    intro t ht hid
    rw [Conversation.pendingTurns, List.mem_filter] at ht
    rw [hnone t ht.1 hid] at ht
    exact absurd ht.2 Bool.false_ne_true

/-- Of at most one pending turn, a fold that resolves leaves none with the id. -/
theorem settled_foldPending_of_resolves {s : Store}
    (h : s.conversation.pendingTurns.length ≤ 1) (id : TurnId) {f : Turn → Turn}
    (hf : ∀ t, (f t).isPending = false) : (s.foldPending id f).2.conversation.Settled id := by
  intro u hu hid
  by_contra hp
  rw [Bool.not_eq_false] at hp
  have hmem : u ∈ (s.foldPending id f).2.conversation.pendingTurns := List.mem_filter.mpr ⟨hu, hp⟩
  rcases pendingTurns_foldPending h id f with ⟨t, -, -, hpending⟩ | ⟨hother, hfold⟩
  · rw [hpending] at hmem
    simp [hf] at hmem
  · rw [hfold] at hmem
    exact hother u hmem hid

/-! ### What a fold leaves alone -/

/-- At most the pending turn of an id has gone on, in its place and with its question, and if
so observers were told once. -/
inductive Touched (id : TurnId) (s : Store) : Store → Prop
  | untouched : Touched id s s
  | goesOn {before behind : List Turn} {t t' : Turn}
      (hturns : s.conversation.turns = before ++ t :: behind) (hid : t.id = id)
      (hp : t.isPending = true) (hid' : t'.id = id) (hquestion : t'.question = t.question) :
      Touched id s (s.publish { s.conversation with turns := before ++ t' :: behind })

theorem touched_foldPending (s : Store) (id : TurnId) {f : Turn → Turn}
    (hf : ∀ t, (f t).question = t.question) : Touched id s (s.foldPending id f).2 := by
  rcases foldPending_cases s id f with ⟨before, t, behind, hturns, -, hid, hp, hfold⟩ | ⟨-, hfold⟩
  · rw [hfold]
    exact .goesOn hturns hid hp rfl (hf t)
  · rw [hfold]
    exact .untouched

/-- A fold into a turn that does not wait does nothing. -/
theorem foldPending_of_settled {s : Store} {id : TurnId} (h : s.conversation.Settled id)
    (f : Turn → Turn) : s.foldPending id f = (false, s) := by
  rcases foldPending_cases s id f with ⟨before, t, behind, hturns, -, hid, hp, -⟩ | ⟨-, hfold⟩
  · have hmem : t ∈ s.conversation.turns := by simp [hturns]
    rw [h t hmem hid] at hp
    exact absurd hp Bool.false_ne_true
  · exact hfold

/-- A fold into another turn makes none of this id wait. -/
theorem settled_foldPending {s : Store} {id : TurnId} (h : s.conversation.Settled id)
    (id' : TurnId) (f : Turn → Turn) : (s.foldPending id' f).2.conversation.Settled id := by
  by_cases hsame : id' = id
  · rw [hsame, foldPending_of_settled h]
    exact h
  rcases foldPending_cases s id' f with ⟨before, t, behind, hturns, -, -, -, hfold⟩ | ⟨-, hfold⟩
  · rw [hfold]
    intro u hu hid
    rcases List.mem_append.mp hu with hu | hu
    · exact h u (by simp [hturns, hu]) hid
    · rcases List.mem_cons.mp hu with rfl | hu
      · exact absurd hid hsame
      · exact h u (by simp [hturns, hu]) hid
  · rw [hfold]
    exact h

theorem turns_setChatId (s : Store) (chatId : Option String) :
    (s.setChatId chatId).conversation.turns = s.conversation.turns := by
  unfold setChatId
  split <;> rfl

/-! ### Appending -/

/-- Without a pending turn nothing stands against a new one. -/
theorem append_of_no_pending {s : Store} (h : s.conversation.pendingTurns = []) (id : TurnId)
    (question : String) :
    s.append id question = .ok (s.publish { s.conversation with
      turns := s.conversation.turns ++ [Turn.pending id question] }) := by
  have hnone : s.conversation.pendingTurn? = none := by
    rw [Conversation.pendingTurn?, List.find?_eq_none]
    exact List.filter_eq_nil_iff.mp h
  simp only [append, hnone]

/-- What was appended, stands at the end; and no turn was pending. -/
theorem append_eq_ok {s s' : Store} {id : TurnId} {question : String}
    (h : s.append id question = .ok s') :
    s.conversation.pendingTurns = [] ∧ s' = s.publish { s.conversation with
      turns := s.conversation.turns ++ [Turn.pending id question] } := by
  unfold append at h
  split at h
  · simp at h
  · rename_i hnone
    rw [Conversation.pendingTurn?, List.find?_eq_none] at hnone
    exact ⟨List.filter_eq_nil_iff.mpr hnone, (Except.ok.inj h).symm⟩

end Store

end Dialogue
