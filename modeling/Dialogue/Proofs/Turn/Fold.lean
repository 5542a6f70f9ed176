/-
What a turn comes to.

The members of a turn follow different rules: the answer grows, the sources are replaced, the
failure is set once.  One rule is common to all, and it makes a closed form possible: the first
step that resolves a pending turn is the last that counts.  So the steps are cut there
(`front`, `resolving`); what stands before the cut is read off member by member, and only the
step at the cut itself can tell a failure.

A step that resolves and one that does not are the two cases of everything below.  What a turn
held at the start is kept wherever no step before the cut says otherwise, also in a turn that
has an answer, sources or a failure already.
-/
import Mathlib.Data.List.TakeWhile
import Dialogue.Proofs.Turn

namespace Dialogue.Turn

/-! ### Single steps -/

namespace Step

/-- Does the step resolve a turn that is pending? -/
def resolves : Step → Bool
  | .event e => e.isTerminal
  | .cancel _ => true

/-- The text that a step adds to the answer. -/
def chunk? : Step → Option String
  | .event (.chunk text) => some text
  | _ => none

/-- The documents that a step brings. -/
def sources? : Step → Option (List Source)
  | .event (.sources docs) => some docs
  | _ => none

/-- The failure that a step tells. -/
def failure? : Step → Option String
  | .event (.failure message) => some message
  | .cancel message => some message
  | _ => none

end Step

theorem step_of_not_pending {t : Turn} (h : t.isPending = false) (s : Step) : t.step s = t := by
  cases s with
  | event e => exact accumulate_of_not_pending h e
  | cancel message => simp [step, cancel, h]

/-- A step that resolves sets the failure if it tells one, and nothing else. -/
theorem step_of_resolves {t : Turn} (hp : t.isPending = true) {s : Step}
    (hs : s.resolves = true) :
    t.step s = { t with failure := s.failure?.or t.failure, isPending := false } := by
  cases s with
  | cancel message => simp [step, cancel, hp, Step.failure?]
  | event e =>
    cases e with
    | failure message => simp [step, accumulate, hp, Step.failure?]
    | done => simp [step, accumulate, hp, Step.failure?]
    | chunk text => exact absurd hs Bool.false_ne_true
    | sources docs => exact absurd hs Bool.false_ne_true

/-- Any other step adds to the answer or replaces the sources, and the turn waits on. -/
theorem step_of_not_resolves {t : Turn} (hp : t.isPending = true) {s : Step}
    (hs : s.resolves = false) :
    t.step s = { t with
      answer := t.answer ++ s.chunk?.getD ""
      sources := (s.sources?.map Source.dedupe).getD t.sources } := by
  cases s with
  | cancel message => exact absurd hs (by simp [Step.resolves])
  | event e =>
    cases e with
    | chunk text => simp [step, accumulate, hp, Step.chunk?, Step.sources?]
    | sources docs => simp [step, accumulate, hp, Step.chunk?, Step.sources?]
    | failure message => exact absurd hs (by simp [Step.resolves, Event.isTerminal])
    | done => exact absurd hs (by simp [Step.resolves, Event.isTerminal])

/-! ### Runs -/

/-- Nothing changes a turn that does not wait. -/
theorem run_of_not_pending {t : Turn} (h : t.isPending = false) (steps : List Step) :
    t.run steps = t := by
  induction steps with
  | nil => rfl
  | cons s steps ih =>
    rw [run, List.foldl_cons, step_of_not_pending h]
    exact ih

theorem run_append (t : Turn) (steps more : List Step) :
    t.run (steps ++ more) = (t.run steps).run more := List.foldl_append

/-- The answer of a turn grows by the texts in order. -/
theorem join_chunks_cons (s : Step) (front : List Step) :
    String.join ((s :: front).filterMap Step.chunk?) =
      s.chunk?.getD "" ++ String.join (front.filterMap Step.chunk?) := by
  cases h : s.chunk? with
  | none => rw [List.filterMap_cons_none h, Option.getD_none, String.empty_append]
  | some text => rw [List.filterMap_cons_some h, String.join_cons, Option.getD_some]

/-- The first documents are those to keep if no others come. -/
theorem last_sources_cons (s : Step) (front : List Step) (kept : List Source) :
    (((s :: front).filterMap Step.sources?).getLast?.map Source.dedupe).getD kept =
      ((front.filterMap Step.sources?).getLast?.map Source.dedupe).getD
        ((s.sources?.map Source.dedupe).getD kept) := by
  cases h : s.sources? with
  | none => rw [List.filterMap_cons_none h, Option.map_none, Option.getD_none]
  | some docs =>
    rw [List.filterMap_cons_some h, List.getLast?_cons]
    cases (front.filterMap Step.sources?).getLast? <;> rfl

/-- Steps that do not resolve a turn add up to an answer, and the last sources stay. -/
theorem run_front {t : Turn} (hp : t.isPending = true) {front : List Step}
    (h : ∀ s ∈ front, s.resolves = false) :
    t.run front = { t with
      answer := t.answer ++ String.join (front.filterMap Step.chunk?)
      sources := ((front.filterMap Step.sources?).getLast?.map Source.dedupe).getD t.sources } := by
  induction front generalizing t with
  | nil => simp [run, String.join_nil]
  | cons s front ih =>
    have hs : s.resolves = false := h s (by simp)
    have hrest : ∀ u ∈ front, u.resolves = false := fun u hu => h u (by simp [hu])
    have hnext : (t.step s).isPending = true := by rw [step_of_not_resolves hp hs, hp]
    have hrun : t.run (s :: front) = (t.step s).run front := rfl
    rw [hrun, ih hnext hrest, step_of_not_resolves hp hs, join_chunks_cons, last_sources_cons,
      String.append_assoc]

/-- From the step on that resolves a turn, only that step counts. -/
theorem run_of_resolves {t : Turn} (hp : t.isPending = true) {s : Step} (hs : s.resolves = true)
    (more : List Step) :
    t.run (s :: more) = { t with failure := s.failure?.or t.failure, isPending := false } := by
  have hrun : t.run (s :: more) = (t.step s).run more := rfl
  have hend : (t.step s).isPending = false := by rw [step_of_resolves hp hs]
  rw [hrun, run_of_not_pending hend, step_of_resolves hp hs]

/-- Where the steps are cut: `front` resolves nothing, and the first step behind it is the first
that resolves. -/
theorem exists_front (steps : List Step) :
    ∃ behind, steps = (steps.takeWhile fun s => !s.resolves) ++ behind ∧
      (∀ s ∈ steps.takeWhile fun s => !s.resolves, s.resolves = false) ∧
      behind.head? = steps.find? (·.resolves) := by
  refine ⟨steps.dropWhile fun s => !s.resolves, List.takeWhile_append_dropWhile.symm, ?_, ?_⟩
  · intro s hs
    simpa using List.mem_takeWhile_imp hs
  · exact (List.find?_eq_head?_dropWhile_not _ _).symm

/-- **What a turn comes to.**  A turn that does not wait stays as it is.  One that waits keeps
its id and its question; let `front` be the steps before the first that resolves it.  Then the
texts in `front` have been added to its answer in order, its sources are those that `front`
brought last, without duplicates, it waits on exactly if no step resolves it, and its failure is
the one that the resolving step tells.  What nothing has changed is as it was.  And steps behind
the one that resolves leave no trace, whatever they are. -/
theorem run_eq (t : Turn) (steps : List Step) :
    let front := steps.takeWhile fun s => !s.resolves
    let resolving := steps.find? (·.resolves)
    (t.isPending = false → t.run steps = t) ∧
      (t.isPending = true → t.run steps = {
        id := t.id
        question := t.question
        answer := t.answer ++ String.join (front.filterMap Step.chunk?)
        sources := ((front.filterMap Step.sources?).getLast?.map Source.dedupe).getD t.sources
        isPending := resolving.isNone
        failure := (resolving.bind Step.failure?).or t.failure }) ∧
      (resolving.isSome = true → ∀ more, t.run (steps ++ more) = t.run steps) := by
  intro front resolving
  obtain ⟨behind, hsteps, hfront, hresolving⟩ := exists_front steps
  have hpending : t.isPending = true → t.run steps = {
      id := t.id
      question := t.question
      answer := t.answer ++ String.join (front.filterMap Step.chunk?)
      sources := ((front.filterMap Step.sources?).getLast?.map Source.dedupe).getD t.sources
      isPending := resolving.isNone
      failure := (resolving.bind Step.failure?).or t.failure } := by
    intro hp
    have hwaits : (t.run front).isPending = true := by rw [run_front hp hfront, hp]
    have hrun : t.run steps = (t.run front).run behind := by
      rw [← run_append]
      exact congrArg t.run hsteps
    cases behind with
    | nil =>
      have hnone : resolving = none := hresolving.symm
      rw [hrun, run, List.foldl_nil, run_front hp hfront, hnone, hp]
      rfl
    | cons s more =>
      have hsome : resolving = some s := hresolving.symm
      have hs : s.resolves = true := List.find?_some hsome
      rw [hrun, run_of_resolves hwaits hs, run_front hp hfront, hsome]
      rfl
  refine ⟨fun h => run_of_not_pending h steps, hpending, ?_⟩
  intro hsome more
  have hend : (t.run steps).isPending = false := by
    cases hp : t.isPending with
    | false => rw [run_of_not_pending hp, hp]
    | true => rw [hpending hp, ← Option.not_isSome, hsome, Bool.not_true]
  rw [run_append, run_of_not_pending hend]

/-- A turn that waits, and has an answer, a source and a failure already. -/
def halfAnswered : Turn where
  id := ⟨7⟩
  question := "Why?"
  answer := "Hel"
  failure := some "earlier"
  isPending := true
  sources := [⟨.link "z", none, none, some "9"⟩]

/-- Text, sources twice and the user's demand to stop; then a text, other sources and another
failure. -/
def mixedSteps : List Step :=
  [.event (.chunk "lo"), .event (.sources [⟨.link "a", none, none, some "1"⟩]),
    .event (.chunk " there"),
    .event (.sources [⟨.link "b", none, none, some "2"⟩, ⟨.link "c", none, none, some "2"⟩]),
    .cancel "stopped", .event (.chunk "!"), .event (.sources []), .event (.failure "late")]

/-- Only what came before the user's demand counts. -/
theorem run_eq_mixedSteps :
    halfAnswered.run mixedSteps = { halfAnswered with
        answer := "Hello there"
        failure := some "stopped"
        isPending := false
        sources := [⟨.link "b", none, none, some "2"⟩] } ∧
      halfAnswered.run (mixedSteps ++ [.event .done]) = halfAnswered.run mixedSteps := by
  obtain ⟨-, hpending, hbehind⟩ := run_eq halfAnswered mixedSteps
  refine ⟨?_, hbehind (by decide) _⟩
  rw [hpending rfl]
  decide

end Dialogue.Turn
