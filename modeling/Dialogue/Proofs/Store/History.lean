/-
Histories of a store.

Whoever holds a store can append turns, fold into the turn that waits or put another in its
place, clear the conversation, restore a chat, and name the chat.  Folds are any functions
and restored turns are any turns, so every operation has to bring the order of the store
about itself: a fold keeps the id, restored turns are resolved, and nothing is appended
while a turn waits.

`Changed` says once what an operation can do to the turns, and everything here is read off
it.  That at most one turn waits holds whatever the ids are.  That the ids differ holds
because they are minted: the ids in a store are, in order, some of those that its history
has brought in (`ids_sublist_run`).
-/
import Mathlib.Data.List.Nodup
import Dialogue.Proofs.Store

namespace Dialogue.Store

/-! ### Operations -/

/-- What can be done to a store. -/
inductive Op where
  /-- A turn is made with a fresh id, and appended unless one waits. -/
  | append (id : TurnId) (question : String)
  | fold (id : TurnId) (f : Turn → Turn)
  | update (id : TurnId) (updated : Turn)
  | reset
  | replace (chatId : Option String) (turns : List Turn)
  | setChatId (chatId : Option String)

namespace Op

/-- The ids that an operation brings in. -/
def introduces : Op → List TurnId
  | .append id _ => [id]
  | .replace _ turns => turns.map (·.id)
  | _ => []

/-- Does the operation take all turns away that are there? -/
def clears : Op → Bool
  | .reset | .replace .. => true
  | _ => false

/-- The operation writes what `f` makes of the turn of the id, if that waits. -/
inductive Writes : Op → TurnId → (Turn → Turn) → Prop
  | fold {id f} : Writes (.fold id f) id f
  | update {id updated} : Writes (.update id updated) id fun _ => updated

end Op

/-- What an operation leaves of a store; one that is refused leaves it as it was. -/
def perform (s : Store) : Op → Store
  | .append id question =>
    match s.append id question with
    | .ok s' => s'
    | .error _ => s
  | .fold id f => (s.foldPending id f).2
  | .update id updated => (s.applyUpdate id updated).2
  | .reset => s.reset
  | .replace chatId turns => s.replace chatId turns
  | .setChatId chatId => s.setChatId chatId

/-- What a history leaves of a store. -/
def run (s : Store) (ops : List Op) : Store := ops.foldl perform s

/-- The ids that a history brings in, in the order in which they come. -/
def introduced (ops : List Op) : List TurnId := ops.flatMap Op.introduces

theorem run_append (s : Store) (first second : List Op) :
    s.run (first ++ second) = (s.run first).run second := List.foldl_append

theorem introduced_append (first second : List Op) :
    introduced (first ++ second) = introduced first ++ introduced second := List.flatMap_append

/-- The ids of the turns, in order. -/
def ids (s : Store) : List TurnId := s.conversation.turns.map (·.id)

/-! ### What an operation does to the turns -/

/-- The turns that an operation can leave of those of `s`. -/
inductive Changed (s : Store) : Op → List Turn → Prop
  | keeps {o} (hclears : o.clears = false) : Changed s o s.conversation.turns
  | appends {id question} (hnone : s.conversation.pendingTurns = []) :
      Changed s (.append id question) (s.conversation.turns ++ [Turn.pending id question])
  /-- Of a turn that waits everything may change but its place and its id. -/
  | writes {o id f before t behind} (ho : o.Writes id f)
      (hturns : s.conversation.turns = before ++ t :: behind) (hid : t.id = id)
      (hp : t.isPending = true) : Changed s o (before ++ { f t with id := id } :: behind)
  | clears {o turns} (hclears : o.clears = true) (hids : turns.map (·.id) = o.introduces)
      (hresolved : ∀ t ∈ turns, t.isPending = false) : Changed s o turns

/-- Who is refused, is told the turn that waits. -/
theorem append_eq_error {s : Store} {id : TurnId} {question : String} {e : StoreError}
    (h : s.append id question = .error e) :
    ∃ t ∈ s.conversation.turns, t.isPending = true ∧ e = .pendingTurn t.id := by
  unfold append at h
  split at h
  · rename_i t ht
    exact ⟨t, List.mem_of_find?_eq_some ht, by simpa using List.find?_some ht,
      (Except.error.inj h).symm⟩
  · simp at h

theorem changed_foldPending (s : Store) {o : Op} {id : TurnId} {f : Turn → Turn}
    (ho : o.Writes id f) : s.Changed o (s.foldPending id f).2.conversation.turns := by
  have hclears : o.clears = false := by cases ho <;> rfl
  rcases s.foldPending_cases id f with ⟨before, t, behind, hturns, -, hid, hp, hfold⟩ | ⟨-, hfold⟩
  · rw [hfold]
    exact .writes ho hturns hid hp
  · rw [hfold]
    exact .keeps hclears

theorem perform_changed (s : Store) (o : Op) : s.Changed o (s.perform o).conversation.turns := by
  cases o with
  | append id question =>
    rw [perform]
    cases happend : s.append id question with
    | error e => exact .keeps rfl
    | ok s' =>
      obtain ⟨hnone, rfl⟩ := append_eq_ok happend
      exact .appends hnone
  | fold id f => exact s.changed_foldPending .fold
  | update id updated => exact s.changed_foldPending .update
  | reset => exact .clears rfl rfl fun t ht => absurd ht List.not_mem_nil
  | replace chatId turns =>
    refine .clears rfl List.map_map ?_
    intro t ht
    obtain ⟨u, -, rfl⟩ := List.mem_map.mp ht
    rfl
  | setChatId chatId =>
    rw [perform, turns_setChatId]
    exact .keeps rfl

/-! ### At most one turn waits -/

/-- Whatever is written, no operation makes a second turn wait. -/
theorem pendingCount_perform {s : Store} (h : s.conversation.pendingCount ≤ 1) (o : Op) :
    (s.perform o).conversation.pendingCount ≤ 1 := by
  have hchanged := s.perform_changed o
  rw [Conversation.pendingCount] at h ⊢
  generalize (s.perform o).conversation.turns = turns at hchanged
  cases hchanged with
  | keeps => exact h
  | appends hnone =>
    rw [Conversation.pendingTurns] at hnone
    simp [hnone, Turn.pending]
  | @writes _ id f before t behind ho hturns hid hp =>
    -- The turn that is written was the one that waited.
    have hwaited : (t :: behind).filter (·.isPending) = t :: behind.filter (·.isPending) :=
      List.filter_cons_of_pos hp
    rw [hturns, List.filter_append, hwaited, List.length_append, List.length_cons] at h
    rw [List.filter_append, List.filter_cons, List.length_append]
    split
    · rw [List.length_cons]
      omega
    · omega
  | clears hclears hids hresolved =>
    rw [List.filter_eq_nil_iff.mpr (by simpa using hresolved)]
    simp

theorem pendingCount_run {s : Store} (h : s.conversation.pendingCount ≤ 1) (ops : List Op) :
    (s.run ops).conversation.pendingCount ≤ 1 := by
  induction ops generalizing s with
  | nil => exact h
  | cons o ops ih => exact ih (pendingCount_perform h o)

/-- A store that is left alone, or what one operation makes of it. -/
inductive Written (s : Store) : Store → Prop
  | keeps : Written s s
  | performs (o : Op) : Written s (s.perform o)

theorem Written.pendingCount_le {s s' : Store} (h : Written s s')
    (hone : s.conversation.pendingCount ≤ 1) : s'.conversation.pendingCount ≤ 1 := by
  cases h with
  | keeps => exact hone
  | performs o => exact pendingCount_perform hone o

/-! ### Ids come in once -/

/-- The ids behind an operation are those before it, or they came in with it. -/
theorem ids_perform (s : Store) (o : Op) :
    o.clears = false ∧ ((s.perform o).ids = s.ids ∨ (s.perform o).ids = s.ids ++ o.introduces) ∨
      o.clears = true ∧ (s.perform o).ids = o.introduces := by
  have hchanged := s.perform_changed o
  rw [ids, ids]
  generalize (s.perform o).conversation.turns = turns at hchanged
  cases hchanged with
  | keeps hclears => exact Or.inl ⟨hclears, Or.inl rfl⟩
  | appends => exact Or.inl ⟨rfl, Or.inr (by simp [Op.introduces, Turn.pending])⟩
  | writes ho hturns hid =>
    have hclears : o.clears = false := by cases ho <;> rfl
    exact Or.inl ⟨hclears, Or.inl (by simp [hturns, hid])⟩
  | clears hclears hids => exact Or.inr ⟨hclears, hids⟩

theorem ids_sublist_run {s : Store} {used : List TurnId} (h : s.ids.Sublist used)
    (ops : List Op) : (s.run ops).ids.Sublist (used ++ introduced ops) := by
  induction ops generalizing s used with
  | nil => exact h.trans (List.sublist_append_left _ _)
  | cons o ops ih =>
    have hnext : (s.perform o).ids.Sublist (used ++ o.introduces) := by
      rcases s.ids_perform o with ⟨-, hsame | hmore⟩ | ⟨-, hnew⟩
      · rw [hsame]
        exact h.trans (List.sublist_append_left _ _)
      · rw [hmore]
        exact h.append_right _
      · rw [hnew]
        exact List.sublist_append_right _ _
    have hrun := ih hnext
    rwa [List.append_assoc] at hrun

/-- All ids of a store were brought in by its history. -/
theorem ids_sublist_introduced (ops : List Op) :
    (({} : Store).run ops).ids.Sublist (introduced ops) := by
  have hrun := ids_sublist_run (s := {}) (List.Sublist.refl []) ops
  rwa [List.nil_append] at hrun

theorem nodup_ids_run {ops : List Op} (hfresh : (introduced ops).Nodup) :
    (({} : Store).run ops).ids.Nodup := hfresh.sublist (ids_sublist_introduced ops)

/-! ### The order of a store -/

/-- Of at most one turn that waits, every refusal tells the id. -/
theorem append_of_pending {s : Store} (h : s.conversation.pendingCount ≤ 1) {t : Turn}
    (ht : t ∈ s.conversation.turns) (hp : t.isPending = true) (id : TurnId) (question : String) :
    s.append id question = .error (.pendingTurn t.id) := by
  have hmem : ∀ {u}, u ∈ s.conversation.turns → u.isPending = true →
      u ∈ s.conversation.pendingTurns := fun hu hpu => List.mem_filter.mpr ⟨hu, hpu⟩
  have hone : s.conversation.pendingTurns = [t] := by
    obtain ⟨u, hu⟩ := List.length_eq_one_iff.mp
      (Nat.le_antisymm h (List.length_pos_of_mem (hmem ht hp)))
    rw [show s.conversation.pendingTurns = [u] from hu] at hmem ⊢
    rw [List.mem_singleton.mp (hmem ht hp)]
  cases happend : s.append id question with
  | ok s' =>
    rw [(append_eq_ok happend).1] at hone
    exact absurd hone (by simp)
  | error e =>
    obtain ⟨u, hu, hpu, rfl⟩ := append_eq_error happend
    have hsame := hmem hu hpu
    rw [hone] at hsame
    rw [List.mem_singleton.mp hsame]

/-- **Whatever is done to a store, at most one of its turns waits, and no two have one id**, as
long as the ids that come in are fresh.  A question is taken exactly if no turn waits, and
is else refused with the id of the turn that does. -/
theorem ordered_run (ops : List Op) (hfresh : (introduced ops).Nodup) :
    let s := ({} : Store).run ops
    s.conversation.pendingCount ≤ 1 ∧ s.ids.Nodup ∧ ∀ id question,
      ((∃ s', s.append id question = .ok s') ↔ ∀ t ∈ s.conversation.turns, t.isPending = false) ∧
        ∀ t ∈ s.conversation.turns, t.isPending = true →
          s.append id question = .error (.pendingTurn t.id) := by
  intro s
  have hone : s.conversation.pendingCount ≤ 1 := pendingCount_run (s := {}) (Nat.zero_le 1) ops
  refine ⟨hone, nodup_ids_run hfresh, fun id question => ⟨⟨?_, ?_⟩, ?_⟩⟩
  · rintro ⟨s', happend⟩
    simpa [Conversation.pendingTurns] using (append_eq_ok happend).1
  · intro hresolved
    have hnone : s.conversation.pendingTurns = [] := by
      simpa [Conversation.pendingTurns] using hresolved
    exact ⟨_, append_of_no_pending hnone id question⟩
  · intro t ht hp
    exact append_of_pending hone ht hp id question

/-- A question is refused, turns are restored that claim to wait, and a turn that waits is
written with another id and keeps waiting. -/
def manyHands : List Op :=
  [.append ⟨0⟩ "Why?", .append ⟨1⟩ "Who?",
    .replace (some "old") [{ id := ⟨2⟩, question := "When?", isPending := true },
      { id := ⟨3⟩, question := "Where?", isPending := true }],
    .append ⟨4⟩ "What?", .update ⟨2⟩ (Turn.pending ⟨5⟩ "Whose?"),
    .fold ⟨4⟩ fun t => { t with id := ⟨2⟩, answer := "That." }]

/-- The last turn waits, under its own id, and nothing is taken beside it. -/
theorem ordered_run_manyHands :
    (introduced manyHands).Nodup ∧
      let s := ({} : Store).run manyHands
      s.conversation.pendingCount ≤ 1 ∧ s.ids = [⟨2⟩, ⟨3⟩, ⟨4⟩] ∧ s.ids.Nodup ∧
        s.append ⟨6⟩ "Which?" = .error (.pendingTurn ⟨4⟩) := by
  have hfresh : (introduced manyHands).Nodup := by decide
  obtain ⟨hone, hids, happend⟩ := ordered_run manyHands hfresh
  have hwaits : { Turn.pending ⟨4⟩ "What?" with answer := "That." } ∈
      (({} : Store).run manyHands).conversation.turns := by decide
  exact ⟨hfresh, hone, by decide, hids, (happend ⟨6⟩ "Which?").2 _ hwaits rfl⟩

end Dialogue.Store
