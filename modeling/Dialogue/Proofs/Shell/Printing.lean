/-
An answer printed while it grows is printed once.

The shell sees a conversation only now and then, and what it sees of an answer may have grown by
any number of pieces since the last time.  All it remembers is how many bytes it has printed.
What carries the proof is that these are the bytes of the answer that it saw last: an answer that
goes on from there has a character's boundary at that place, and behind it stands what is new.  So
with every look the printed text catches up with the answer, and when the turn is resolved only the
end of the line and the outcome are missing.

A snapshot comes with the turn that is followed in it.  All else in the conversation is free.
-/
import Mathlib.Data.List.Chain
import Dialogue.Proofs.Shell.Follow

namespace Dialogue.Shell

/-! ### Texts that grow -/

/-- The second text is the first one, perhaps with more behind it. -/
def GrowsTo (a b : String) : Prop := ∃ more, b = a ++ more

theorem GrowsTo.refl (a : String) : GrowsTo a a := ⟨"", String.append_empty.symm⟩

theorem GrowsTo.trans {a b c : String} (hab : GrowsTo a b) (hbc : GrowsTo b c) : GrowsTo a c := by
  obtain ⟨more, rfl⟩ := hab
  obtain ⟨rest, rfl⟩ := hbc
  exact ⟨more ++ rest, String.append_assoc⟩

instance : Trans GrowsTo GrowsTo GrowsTo := ⟨GrowsTo.trans⟩

/-- The end of a text stays a boundary between characters. -/
theorem GrowsTo.isValid {a b : String} (h : GrowsTo a b) :
    (String.Pos.Raw.mk a.utf8ByteSize).IsValid b := by
  obtain ⟨more, rfl⟩ := h
  exact String.Pos.Raw.isValid_iff_exists_append.mpr ⟨a, more, rfl, rfl⟩

/-- In texts of which each grows to the next, the end of one is a boundary in all that follow. -/
theorem isValid_of_le {texts : List String} (h : texts.IsChain GrowsTo) {i j : Nat} (hij : i ≤ j)
    {a b : String} (ha : texts[i]? = some a) (hb : texts[j]? = some b) :
    (String.Pos.Raw.mk a.utf8ByteSize).IsValid b := by
  obtain ⟨hi, rfl⟩ := List.getElem?_eq_some_iff.mp ha
  obtain ⟨hj, rfl⟩ := List.getElem?_eq_some_iff.mp hb
  rcases Nat.eq_or_lt_of_le hij with rfl | hlt
  · exact (GrowsTo.refl _).isValid
  · exact (List.pairwise_iff_getElem.mp h.pairwise i j hi hj hlt).isValid

/-! ### Looking at snapshots -/

/-- A conversation at some time, with the turn of an id. -/
structure Snapshot (id : TurnId) where
  conversation : Conversation
  turn : Turn
  found : conversation.turn? id = some turn

variable {id : TurnId}

/-- What is remembered when the answer was printed as far as it goes. -/
def Snapshot.follow (s : Snapshot id) : Follow :=
  { turn := id, printed := s.turn.answer.utf8ByteSize }

/-- Looks at one conversation after another. -/
def Follow.advanceAll (f : Follow) : List Conversation → List Progress
  | [] => []
  | c :: cs =>
    let p := f.advance c
    p :: p.follow.advanceAll cs

theorem Snapshot.advance_eq (s : Snapshot id) {told rest : String}
    (hanswer : s.turn.answer = told ++ rest) :
    (Follow.mk id told.utf8ByteSize).advance s.conversation =
      ⟨rest ++ ending s.turn, s.follow, !s.turn.isPending⟩ :=
  Shell.advance_eq s.found hanswer rfl

/-- Every look prints the answer as far as it goes, and tells whether the turn is resolved. -/
theorem follows_advanceAll (snapshots : List (Snapshot id)) (told : String)
    (hgrows : (told :: snapshots.map (·.turn.answer)).IsChain GrowsTo) :
    let steps := (Follow.mk id told.utf8ByteSize).advanceAll (snapshots.map (·.conversation))
    steps.map (·.done) = snapshots.map (!·.turn.isPending) ∧
      steps.map (·.follow) = snapshots.map (·.follow) := by
  induction snapshots generalizing told with
  | nil => exact ⟨rfl, rfl⟩
  | cons s snapshots ih =>
    rw [List.map_cons, List.isChain_cons_cons] at hgrows
    obtain ⟨⟨rest, hanswer⟩, hgrows⟩ := hgrows
    obtain ⟨hdone, hfollow⟩ := ih s.turn.answer hgrows
    simp only [List.map_cons, Follow.advanceAll, s.advance_eq hanswer]
    exact ⟨congrArg _ hdone, congrArg _ hfollow⟩

/-- What was printed in all is at any time the answer as far as it goes, until the turn is
resolved. -/
theorem told_advanceAll {before : List (Snapshot id)} {last : Snapshot id}
    (hwaits : ∀ s ∈ before, s.turn.isPending = true) (told : String)
    (hgrows : (told :: (before ++ [last]).map (·.turn.answer)).IsChain GrowsTo) :
    let steps := (Follow.mk id told.utf8ByteSize).advanceAll
      ((before ++ [last]).map (·.conversation))
    let whole := last.turn.answer ++ ending last.turn
    told ++ String.join (steps.map (·.out)) = whole ∧
      (steps.map (·.out)).scanl (· ++ ·) told =
        told :: (before.map (·.turn.answer) ++ [whole]) := by
  induction before generalizing told with
  | nil =>
    simp only [List.nil_append, List.map_cons, List.isChain_cons_cons] at hgrows
    obtain ⟨⟨rest, hanswer⟩, -⟩ := hgrows
    have hwhole : told ++ (rest ++ ending last.turn) = last.turn.answer ++ ending last.turn := by
      rw [hanswer, String.append_assoc]
    simp only [List.nil_append, List.map_cons, List.map_nil, Follow.advanceAll,
      last.advance_eq hanswer, String.join_cons, String.join_nil, String.append_empty,
      List.scanl_cons, List.scanl_nil, hwhole]
    exact ⟨trivial, trivial⟩
  | cons s before ih =>
    rw [List.cons_append, List.map_cons, List.isChain_cons_cons] at hgrows
    obtain ⟨⟨rest, hanswer⟩, hgrows⟩ := hgrows
    have hpending := hwaits s List.mem_cons_self
    obtain ⟨hall, hsteps⟩ := ih (fun s hs => hwaits s (List.mem_cons_of_mem _ hs)) _ hgrows
    simp only [List.cons_append, List.map_cons, Follow.advanceAll, s.advance_eq hanswer,
      ending_of_pending hpending, String.append_empty, String.join_cons, List.scanl_cons,
      ← String.append_assoc, ← hanswer]
    exact ⟨hall, congrArg _ hsteps⟩

/-- The outcome is the failure on a line, and a line for each source. -/
theorem outcomeText_eq (t : Turn) :
    outcomeText t = (t.failure.elim "" fun message => "[" ++ message ++ "]\n") ++
      String.join (t.sources.map sourceLine) := by
  rw [outcomeText]
  cases t.failure <;> rfl

/-- **An answer that is printed while it grows is printed once.**  The shell follows a turn and has
printed nothing of it.  It sees any number of snapshots of the conversation; in each the answer goes
on from where it was, and only in the last the turn is resolved.

Then all that is printed is the answer, the end of the line, the failure on a line, and a line for
each source.  After each snapshot but the last, what was printed so far is the answer in that
snapshot; the shell goes on following, and ends with the last.  The number of bytes that it
remembers is the length of the answer that it saw, and it is a boundary between characters in that
answer and in all later ones.  A turn that is not there is not followed any more, and nothing is
printed. -/
theorem printed_once {before : List (Snapshot id)} {last : Snapshot id}
    (hwaits : ∀ s ∈ before, s.turn.isPending = true) (hresolved : last.turn.isPending = false)
    (hgrows : ((before ++ [last]).map (·.turn.answer)).IsChain GrowsTo) :
    let steps := ({ turn := id } : Follow).advanceAll ((before ++ [last]).map (·.conversation))
    let whole := last.turn.answer ++ "\n" ++
      (last.turn.failure.elim "" fun message => "[" ++ message ++ "]\n") ++
      String.join (last.turn.sources.map sourceLine)
    String.join (steps.map (·.out)) = whole ∧
      (steps.map (·.out)).scanl (· ++ ·) "" = "" :: (before.map (·.turn.answer) ++ [whole]) ∧
      steps.map (·.done) = before.map (fun _ => false) ++ [true] ∧
      steps.map (·.follow) =
        (before ++ [last]).map (fun s => ⟨id, s.turn.answer.utf8ByteSize⟩) ∧
      (∀ (i j : Nat) (p : Progress) (s : Snapshot id), i ≤ j → steps[i]? = some p →
        (before ++ [last])[j]? = some s →
        (String.Pos.Raw.mk p.follow.printed).IsValid s.turn.answer) ∧
      ∀ (f : Follow) (c : Conversation), c.turn? f.turn = none → f.advance c = ⟨"", f, true⟩ := by
  intro steps whole
  have hfresh : ("" :: (before ++ [last]).map (·.turn.answer)).IsChain GrowsTo := by
    refine List.isChain_cons.mpr ⟨fun a _ => ⟨a, String.empty_append.symm⟩, hgrows⟩
  have hwhole : last.turn.answer ++ ending last.turn = whole := by
    rw [ending_of_resolved hresolved, outcomeText_eq, ← String.append_assoc, ← String.append_assoc]
  obtain ⟨hdone, hfollow⟩ : steps.map (·.done) = (before ++ [last]).map (!·.turn.isPending) ∧
      steps.map (·.follow) = (before ++ [last]).map (·.follow) := follows_advanceAll _ "" hfresh
  obtain ⟨hall, hsteps⟩ := told_advanceAll hwaits "" hfresh
  rw [hwhole] at hall hsteps
  rw [String.empty_append] at hall
  refine ⟨hall, hsteps, ?_, hfollow, ?_, ?_⟩
  · rw [hdone, List.map_append, List.map_singleton, hresolved]
    refine congrArg (· ++ [true]) (List.map_congr_left fun s hs => ?_)
    rw [hwaits s hs]
    rfl
  · intro i j p s hij hp hs
    have hremembered : ((before ++ [last]).map (·.follow))[i]? = some p.follow := by
      rw [← hfollow, List.getElem?_map, hp, Option.map_some]
    rw [List.getElem?_map, Option.map_eq_some_iff] at hremembered
    obtain ⟨u, hu, hfollowed⟩ := hremembered
    rw [← hfollowed]
    refine isValid_of_le hgrows hij ?_ ?_
    · rw [List.getElem?_map, hu, Option.map_some]
    · rw [List.getElem?_map, hs, Option.map_some]
  · intro f c hnone
    rw [Follow.advance, hnone]

/-- A conversation in which a turn stands behind another one. -/
def secondTurn (t : Turn) (h : t.id = ⟨1⟩) : Snapshot ⟨1⟩ where
  conversation := { turns := [.resolved ⟨0⟩ "Why?" "So." [], t] }
  turn := t
  found := by simp [Conversation.turn?, Turn.resolved, h]

/-- The turn while it waits, with the answer so far. -/
def waitingWith (answer : String) : Snapshot ⟨1⟩ :=
  secondTurn { id := ⟨1⟩, question := "How?", answer, isPending := true } rfl

/-- The answer broke off when two sources were known. -/
def brokenOff : Snapshot ⟨1⟩ :=
  secondTurn {
    id := ⟨1⟩
    question := "How?"
    answer := "né → à"
    failure := some "quota"
    sources := [{ location := .file "b" "o", citationId := some "1" }, { location := .link "u" }] } rfl

/-- Letters of several bytes come one by one, and then three pieces at once with the end. -/
theorem printed_once_accents :
    let before := [waitingWith "", waitingWith "n", waitingWith "né"]
    let steps := ({ turn := ⟨1⟩ } : Follow).advanceAll
      ((before ++ [brokenOff]).map (·.conversation))
    String.join (steps.map (·.out)) = "né → à\n[quota]\n  [1] b/o\n  [] u\n" ∧
      steps.map (·.done) = [false, false, false, true] ∧
      steps.map (·.follow) = [⟨⟨1⟩, 0⟩, ⟨⟨1⟩, 1⟩, ⟨⟨1⟩, 3⟩, ⟨⟨1⟩, 10⟩] ∧
      (String.Pos.Raw.mk 3).IsValid "né → à" := by
  intro before steps
  have hgrows : ((before ++ [brokenOff]).map (·.turn.answer)).IsChain GrowsTo := by
    refine List.isChain_cons_cons.mpr ⟨⟨"n", by decide⟩, ?_⟩
    refine List.isChain_cons_cons.mpr ⟨⟨"é", by decide⟩, ?_⟩
    exact List.isChain_cons_cons.mpr ⟨⟨" → à", by decide⟩, List.isChain_singleton _⟩
  obtain ⟨hall, -, hdone, hfollow, hvalid, -⟩ :=
    @printed_once ⟨1⟩ before brokenOff (by decide) rfl hgrows
  refine ⟨hall, hdone, hfollow, ?_⟩
  exact hvalid 2 3 _ brokenOff (by decide) rfl rfl

end Dialogue.Shell
