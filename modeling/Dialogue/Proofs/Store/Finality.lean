/-
What is settled in a conversation stays settled.

Only a reset or a restored chat takes turns away.  Between two of these every turn stands
where it stood, whatever is written, and new turns come behind (`Standing`); a turn that is
resolved is not written any more, so it stays as it is in every field.  And a turn that was
taken away does not come back, because from then on the ids in the store are ids that came
in later.

Updates may come late: for a turn that is resolved by now, for one that is gone, or for one
that was never there.  They find no turn of that id that waits, and nothing happens.
-/
import Dialogue.Proofs.Store.History
import Dialogue.Proofs.Turn

namespace Dialogue.Store

/-! ### Turns that stay in their places -/

/-- Every turn of the first list stands at its place in the second, and `R` tells how it has
changed.  More turns may stand behind. -/
def Standing (R : Turn → Turn → Prop) (ts ts' : List Turn) : Prop :=
  ∀ (i : Nat) (t : Turn), ts[i]? = some t → ∃ t', ts'[i]? = some t' ∧ R t t'

namespace Standing

variable {R : Turn → Turn → Prop} {ts ts' ts'' : List Turn}

theorem refl (hrefl : ∀ t, R t t) (ts : List Turn) : Standing R ts ts :=
  fun _ t ht => ⟨t, ht, hrefl t⟩

theorem trans (htrans : ∀ {t t' t''}, R t t' → R t' t'' → R t t'') (h : Standing R ts ts')
    (h' : Standing R ts' ts'') : Standing R ts ts'' := by
  intro i t ht
  obtain ⟨t', ht', hR⟩ := h i t ht
  obtain ⟨t'', ht'', hR'⟩ := h' i t' ht'
  exact ⟨t'', ht'', htrans hR hR'⟩

theorem append (hrefl : ∀ t, R t t) (ts more : List Turn) : Standing R ts (ts ++ more) := by
  intro i t ht
  have hlt := (List.getElem?_eq_some_iff.mp ht).1
  exact ⟨t, (List.getElem?_append_left hlt).trans ht, hrefl t⟩

/-- One turn is written in its place. -/
theorem write (hrefl : ∀ t, R t t) {t t' : Turn} (h : R t t') (before behind : List Turn) :
    Standing R (before ++ t :: behind) (before ++ t' :: behind) := by
  intro i u hu
  rcases Nat.lt_trichotomy i before.length with hlt | rfl | hgt
  · rw [List.getElem?_append_left hlt] at hu ⊢
    exact ⟨u, hu, hrefl u⟩
  · rw [List.getElem?_append_right (Nat.le_refl _), Nat.sub_self, List.getElem?_cons_zero] at hu ⊢
    rw [← Option.some.inj hu]
    exact ⟨t', rfl, h⟩
  · obtain ⟨k, hk⟩ : ∃ k, i - before.length = k + 1 := ⟨i - before.length - 1, by omega⟩
    rw [List.getElem?_append_right (by omega), hk, List.getElem?_cons_succ] at hu ⊢
    exact ⟨u, hu, hrefl u⟩

/-- If ids stay, the list of ids has only grown at its end. -/
theorem prefix_ids (h : Standing R ts ts') (hid : ∀ {t t'}, R t t' → t'.id = t.id) :
    ts.map (·.id) <+: ts'.map (·.id) := by
  rw [List.prefix_iff_getElem?]
  intro i hi
  rw [List.length_map] at hi
  obtain ⟨t', ht', hR⟩ := h i ts[i] (List.getElem?_eq_getElem hi)
  rw [List.getElem?_map, ht', List.getElem_map, Option.map_some, hid hR]

end Standing

/-! ### What operations leave of a turn -/

/-- A turn keeps its id, and if it was resolved, everything. -/
structure GoesOn (t t' : Turn) : Prop where
  id : t'.id = t.id
  final : t.isPending = false → t' = t

/-- The question stays as well, and the answer is only added to. -/
structure Continues (t t' : Turn) : Prop extends GoesOn t t' where
  question : t'.question = t.question
  answer : ∃ rest, t'.answer = t.answer ++ rest

theorem GoesOn.refl (t : Turn) : GoesOn t t := ⟨rfl, fun _ => rfl⟩

theorem GoesOn.trans {t t' t'' : Turn} (h : GoesOn t t') (h' : GoesOn t' t'') : GoesOn t t'' where
  id := h'.id.trans h.id
  final hp := by
    have hsame := h.final hp
    rw [hsame] at h'
    exact h'.final hp

theorem Continues.refl (t : Turn) : Continues t t :=
  { GoesOn.refl t with question := rfl, answer := ⟨"", String.append_empty.symm⟩ }

theorem Continues.trans {t t' t'' : Turn} (h : Continues t t') (h' : Continues t' t'') :
    Continues t t'' := by
  obtain ⟨rest, hrest⟩ := h.answer
  obtain ⟨rest', hrest'⟩ := h'.answer
  exact { h.toGoesOn.trans h'.toGoesOn with
    question := h'.question.trans h.question
    answer := ⟨rest ++ rest', by rw [hrest', hrest, String.append_assoc]⟩ }

/-- What the operation writes, if anything, is a step of the turn that waits: it has taken up
an event or was canceled. -/
def Op.Steps (s : Store) (o : Op) : Prop :=
  ∀ id f, o.Writes id f → ∀ t ∈ s.conversation.turns, t.id = id → t.isPending = true →
    ∃ step, f t = t.step step

/-- Every operation of a history is as `P` says, in the store that it finds. -/
def Along (P : Store → Op → Prop) : Store → List Op → Prop
  | _, [] => True
  | s, o :: ops => P s o ∧ Along P (s.perform o) ops

theorem along_of_forall {P : Store → Op → Prop} (h : ∀ s o, P s o) (s : Store) (ops : List Op) :
    Along P s ops := by
  induction ops generalizing s with
  | nil => trivial
  | cons o ops ih => exact ⟨h s o, ih (s.perform o)⟩

/-- An operation that clears nothing writes one turn in its place, or appends one. -/
theorem standing_perform {R : Turn → Turn → Prop} (hrefl : ∀ t, R t t) {s : Store} {o : Op}
    (hclears : o.clears = false)
    (hwrites : ∀ {id f t}, o.Writes id f → t ∈ s.conversation.turns → t.id = id →
      t.isPending = true → R t { f t with id := id }) :
    Standing R s.conversation.turns (s.perform o).conversation.turns := by
  have hchanged := s.perform_changed o
  generalize (s.perform o).conversation.turns = turns at hchanged
  cases hchanged with
  | keeps => exact .refl hrefl _
  | appends => exact .append hrefl _ _
  | @writes _ id f before t behind ho hturns hid hp =>
    have hmem : t ∈ s.conversation.turns := by simp [hturns]
    rw [hturns]
    exact .write hrefl (hwrites ho hmem hid hp) before behind
  | clears h => exact absurd (h.symm.trans hclears) (by simp)

theorem standing_run {R : Turn → Turn → Prop} {P : Store → Op → Prop} (hrefl : ∀ t, R t t)
    (htrans : ∀ {t t' t''}, R t t' → R t' t'' → R t t'')
    (hstep : ∀ {s o}, o.clears = false → P s o →
      Standing R s.conversation.turns (s.perform o).conversation.turns)
    {s : Store} {ops : List Op} (hclears : ops.any Op.clears = false) (h : Along P s ops) :
    Standing R s.conversation.turns (s.run ops).conversation.turns := by
  induction ops generalizing s with
  | nil => exact .refl hrefl _
  | cons o ops ih =>
    rw [List.any_cons, Bool.or_eq_false_iff] at hclears
    exact (hstep hclears.1 h.1).trans htrans (ih hclears.2 h.2)

/-- Whatever is written, a turn goes on until all are cleared. -/
theorem standing_goesOn (s : Store) {ops : List Op} (hclears : ops.any Op.clears = false) :
    Standing GoesOn s.conversation.turns (s.run ops).conversation.turns := by
  refine standing_run (P := fun _ _ => True) .refl .trans ?_ hclears
    (along_of_forall (fun _ _ => trivial) s ops)
  intro s o hclears _
  refine standing_perform .refl hclears ?_
  intro id f t _ _ hid hp
  exact ⟨hid.symm, fun hp' => absurd (hp.symm.trans hp') (by simp)⟩

/-- If turns only take up events and are canceled, questions and answers stay as well. -/
theorem standing_continues {s : Store} {ops : List Op} (hclears : ops.any Op.clears = false)
    (h : Along Op.Steps s ops) :
    Standing Continues s.conversation.turns (s.run ops).conversation.turns := by
  refine standing_run .refl .trans ?_ hclears h
  intro s o hclears hsteps
  refine standing_perform .refl hclears ?_
  intro id f t ho hmem hid hp
  obtain ⟨step, hstep⟩ := hsteps id f ho t hmem hid hp
  rw [hstep]
  exact {
    id := hid.symm
    final := fun hp' => absurd (hp.symm.trans hp') (by simp)
    question := t.step_question step
    answer := t.step_answer step }

/-! ### Turns that are gone -/

/-- Once all turns were cleared, the ids that there are have come in since. -/
theorem ids_sublist_of_clears (s : Store) {ops : List Op} (h : ops.any Op.clears = true) :
    (s.run ops).ids.Sublist (introduced ops) := by
  induction ops generalizing s with
  | nil => simp at h
  | cons o ops ih =>
    rcases s.ids_perform o with ⟨hclears, -⟩ | ⟨-, hids⟩
    · rw [List.any_cons, hclears, Bool.false_or] at h
      exact (ih (s.perform o) h).trans (List.sublist_append_right _ _)
    · exact ids_sublist_run (s := s.perform o) (hids ▸ List.Sublist.refl _) ops

/-- So an id that was there before is not among them. -/
theorem id_not_mem_of_clears {before after : List Op}
    (hfresh : (introduced (before ++ after)).Nodup) (h : after.any Op.clears = true)
    {id : TurnId} (hid : id ∈ (({} : Store).run before).ids) :
    id ∉ ((({} : Store).run before).run after).ids := by
  intro hid'
  rw [introduced_append] at hfresh
  exact List.disjoint_of_nodup_append hfresh ((ids_sublist_introduced before).subset hid)
    ((ids_sublist_of_clears _ h).subset hid')

/-- **What is settled stays settled, and a conversation only grows.**  Take a store at two
moments of its history, with fresh ids throughout.  If it was not cleared in between, the
ids have only grown at the end, and a turn that was resolved is the same at the same place;
if it was, no turn that was there is there.  A turn that is gone never comes back.  And if
turns were only written by taking up events and by being canceled, then every turn that is
still there has its question, and its answer has only been added to. -/
theorem final_run (before after : List Op) (hfresh : (introduced (before ++ after)).Nodup) :
    let s := ({} : Store).run before
    let s' := s.run after
    let cleared := after.any Op.clears
    (∀ (i : Nat) t, s.conversation.turns[i]? = some t → t.isPending = false →
      if cleared then t.id ∉ s'.ids else s'.conversation.turns[i]? = some t) ∧
    (cleared = false → s.ids <+: s'.ids) ∧
    (∀ id ∈ s.ids, id ∉ s'.ids → ∀ more, (introduced (before ++ (after ++ more))).Nodup →
      id ∉ (s'.run more).ids) ∧
    (Along Op.Steps s after → ∀ t ∈ s.conversation.turns, ∀ t' ∈ s'.conversation.turns,
      t'.id = t.id → t'.question = t.question ∧ ∃ rest, t'.answer = t.answer ++ rest) := by
  intro s s' cleared
  have hids : ∀ {t : Turn}, t ∈ s.conversation.turns → t.id ∈ s.ids := List.mem_map_of_mem
  have hgrows : cleared = false → s.ids <+: s'.ids := fun hcleared =>
    (standing_goesOn s hcleared).prefix_ids GoesOn.id
  refine ⟨?_, hgrows, ?_, ?_⟩
  · intro i t ht hp
    split
    · rename_i hcleared
      exact id_not_mem_of_clears hfresh hcleared (hids (List.mem_of_getElem? ht))
    · rename_i hcleared
      obtain ⟨t', ht', hgoes⟩ := standing_goesOn s (eq_false_of_ne_true hcleared) i t ht
      rw [ht', hgoes.final hp]
  · intro id hid hgone more hfresh'
    have hcleared : cleared = true := by
      by_contra hcon
      exact hgone ((hgrows (eq_false_of_ne_true hcon)).subset hid)
    have hcleared' : (after ++ more).any Op.clears = true := by
      rw [List.any_append, show after.any Op.clears = true from hcleared, Bool.true_or]
    rw [← run_append]
    exact id_not_mem_of_clears hfresh' hcleared' hid
  · intro hsteps t ht t' ht' hid
    have hkept : cleared = false := by
      by_contra hcon
      refine id_not_mem_of_clears hfresh (eq_true_of_ne_false hcon) (hids ht) ?_
      rw [← hid]
      exact List.mem_map_of_mem ht'
    obtain ⟨i, hi⟩ := List.mem_iff_getElem?.mp ht
    obtain ⟨u, hu, hcontinues⟩ := standing_continues hkept hsteps i t hi
    -- The ids differ, so the turn of that id is the one at that place.
    have hnodup : s'.ids.Nodup := by
      have hrun := nodup_ids_run hfresh
      rwa [run_append] at hrun
    have hsame : u = t' := List.inj_on_of_nodup_map hnodup (List.mem_of_getElem? hu) ht'
      (hcontinues.id.trans hid.symm)
    rw [← hsame]
    exact ⟨hcontinues.question, hcontinues.answer⟩

/-- One turn is resolved, and another has a piece of its answer. -/
def halfAnswered : List Op :=
  [.append ⟨0⟩ "Why?", .fold ⟨0⟩ (·.accumulate .done), .append ⟨1⟩ "Who?",
    .fold ⟨1⟩ (·.accumulate (.chunk "Me"))]

/-- An update comes too late, the other turn goes on and is canceled, and a third is asked. -/
def lateUpdate : List Op :=
  [.update ⟨0⟩ (Turn.pending ⟨0⟩ "How?"), .fold ⟨1⟩ (·.accumulate (.chunk ".")),
    .fold ⟨1⟩ (·.cancel "stopped"), .append ⟨2⟩ "When?"]

/-- The resolved turn is as it was, until everything is cleared; and then it stays away. -/
theorem final_run_lateUpdate :
    let s := ({} : Store).run halfAnswered
    let s' := s.run lateUpdate
    s'.conversation.turns[0]? = some (Turn.resolved ⟨0⟩ "Why?" "" []) ∧ s.ids <+: s'.ids ∧
      (∀ t ∈ s'.conversation.turns, t.id = ⟨1⟩ →
        t.question = "Who?" ∧ ∃ rest, t.answer = "Me" ++ rest) ∧
      ⟨0⟩ ∉ ((s.run [.reset]).run
        [.update ⟨0⟩ (Turn.pending ⟨0⟩ "How?"), .append ⟨3⟩ "Where?"]).ids := by
  intro s s'
  obtain ⟨hresolved, hgrown, -, hcontinues⟩ := final_run halfAnswered lateUpdate (by decide)
  obtain ⟨-, -, hgone, -⟩ := final_run halfAnswered [.reset] (by decide)
  have hsettled : s.conversation.Settled ⟨0⟩ := by decide
  have hsteps : Along Op.Steps s lateUpdate := by
    refine ⟨?_, ?_, ?_, ?_, trivial⟩
    · rintro id f ⟨⟩ t ht hid hp
      exact absurd ((hsettled t ht hid).symm.trans hp) (by simp)
    · rintro id f ⟨⟩ t - - -
      exact ⟨.event (.chunk "."), rfl⟩
    · rintro id f ⟨⟩ t - - -
      exact ⟨.cancel "stopped", rfl⟩
    · rintro id f ⟨⟩
  have hmem : { Turn.pending ⟨1⟩ "Who?" with answer := "Me" } ∈ s.conversation.turns := by decide
  exact ⟨hresolved 0 _ rfl rfl, hgrown rfl, fun t ht hid => hcontinues hsteps _ hmem t ht hid,
    hgone ⟨0⟩ (by decide) (by decide) _ (by decide)⟩

end Dialogue.Store
