/-
Reconciling keeps every record.

A record becomes one turn, and what that turn says depends on the record alone: documents are
sorted out record by record, so one that two records cite is in both turns.  All that the turns
share is the mint from which they take their ids, one after another.  So where a record stands
among the others decides which id its turn gets, and nothing else (`getElem?_reconcile`).

That ids are never confused is a matter of the whole past, and not of one chat.  Ids ascend in
the order in which they are minted, and the list of all that were minted only grows at its end
(`Mint.minted`).  In every run the turns of the store and of the requests have ids out of that
list.  So no id that anyone holds from before finds a turn that was restored, while the turns
that were restored are found by their own.
-/
import Dialogue.Proofs.History.Reopening
import Dialogue.Proofs.Session.Atomic
import Dialogue.Proofs.Source

namespace Dialogue

/-! ### Ids that were minted -/

namespace Mint

/-- All ids that were minted so far, in the order of minting. -/
def minted (m : Mint) : List TurnId := (List.range m.next).map TurnId.mk

theorem mem_minted {m : Mint} {id : TurnId} : id ∈ m.minted ↔ id.serial < m.next := by
  constructor
  · intro h
    obtain ⟨n, hn, rfl⟩ := List.mem_map.mp h
    exact List.mem_range.mp hn
  · intro h
    exact List.mem_map.mpr ⟨id.serial, List.mem_range.mpr h, rfl⟩

theorem minted_take (m : Mint) : m.take.2.minted = m.minted ++ [m.take.1] := by
  show (List.range (m.next + 1)).map TurnId.mk = m.minted ++ [⟨m.next⟩]
  rw [List.range_succ, List.map_append]
  rfl

/-- Each id is greater than all that were minted before it. -/
theorem pairwise_minted (m : Mint) : m.minted.Pairwise (·.serial < ·.serial) :=
  List.pairwise_map.mpr List.pairwise_lt_range

/-- Minting only adds to what was minted. -/
theorem minted_prefix {m m' : Mint} (h : m.next ≤ m'.next) : m.minted <+: m'.minted := by
  have hrange : List.range m.next <+: List.range m'.next := by
    refine ⟨(List.range (m'.next - m.next)).map (m.next + ·), ?_⟩
    rw [← List.range_add]
    congr 1
    omega
  exact hrange.map TurnId.mk

end Mint

/-! ### Records and their turns -/

/-- The documents of a record; without metadata, or without a list in it, there are none. -/
def HistoryRecord.docs (r : HistoryRecord) : List Source :=
  (r.metadata.bind (·.rerankedDocs)).getD []

theorem HistoryRecord.sources_eq (r : HistoryRecord) : r.sources = Source.dedupe r.docs := by
  unfold sources docs
  cases r.metadata.bind (·.rerankedDocs) with
  | none => rfl
  | some docs => rfl

/-- The turn that a record becomes under an id. -/
def HistoryRecord.turn (r : HistoryRecord) (id : TurnId) : Turn where
  id := id
  question := r.question
  answer := r.answer
  failure := none
  isPending := false
  sources := Source.dedupe r.docs

/-- What a turn says, its id left out. -/
def Turn.unnamed (t : Turn) : Turn := { t with id := ⟨0⟩ }

theorem reconcile_cons (m : Mint) (r : HistoryRecord) (records : List HistoryRecord) :
    reconcile m (r :: records) =
      (r.turn m.take.1 :: (reconcile m.take.2 records).1, (reconcile m.take.2 records).2) := by
  rw [HistoryRecord.turn, ← HistoryRecord.sources_eq]
  rfl

/-- Of the mint a turn takes its id, and of the records it takes its own. -/
theorem getElem?_reconcile (m : Mint) (records : List HistoryRecord) (i : Nat) :
    (reconcile m records).1[i]? = records[i]?.map fun r => r.turn ⟨m.next + i⟩ := by
  induction records generalizing m i with
  | nil => rfl
  | cons r records ih =>
    rw [reconcile_cons]
    cases i with
    | zero => rfl
    | succ i =>
      have hnext : m.take.2.next + i = m.next + (i + 1) := by
        show m.next + 1 + i = m.next + (i + 1)
        omega
      rw [List.getElem?_cons_succ, List.getElem?_cons_succ, ih, hnext]

theorem unnamed_reconcile (m : Mint) (records : List HistoryRecord) :
    (reconcile m records).1.map Turn.unnamed = records.map fun r => r.turn ⟨0⟩ := by
  induction records generalizing m with
  | nil => rfl
  | cons r records ih =>
    rw [reconcile_cons, List.map_cons, List.map_cons, ih]
    rfl

/-- The ids of the turns are what is minted meanwhile. -/
theorem minted_reconcile (m : Mint) (records : List HistoryRecord) :
    (reconcile m records).2.minted = m.minted ++ (reconcile m records).1.map (·.id) := by
  induction records generalizing m with
  | nil => exact (List.append_nil m.minted).symm
  | cons r records ih =>
    rw [reconcile_cons, ih, Mint.minted_take, List.append_assoc, List.map_cons]
    rfl

theorem pairwise_ids_reconcile (m : Mint) (records : List HistoryRecord) :
    ((reconcile m records).1.map (·.id)).Pairwise (·.serial < ·.serial) := by
  have hall := (reconcile m records).2.pairwise_minted
  rw [minted_reconcile] at hall
  exact (List.pairwise_append.mp hall).2.1

/-- None of the ids was minted before. -/
theorem id_not_mem_minted {m : Mint} {records : List HistoryRecord} {t : Turn}
    (ht : t ∈ (reconcile m records).1) : t.id ∉ m.minted := by
  intro hold
  have hall := (reconcile m records).2.pairwise_minted
  rw [minted_reconcile] at hall
  have hlt := (List.pairwise_append.mp hall).2.2 t.id hold t.id (List.mem_map_of_mem ht)
  exact Nat.lt_irrefl _ hlt

/-! ### Turns found by their ids -/

/-- Where ids differ, a turn is found by its own. -/
theorem Conversation.turn?_of_mem {c : Conversation} (hids : (c.turns.map (·.id)).Nodup) {t : Turn}
    (ht : t ∈ c.turns) : c.turn? t.id = some t := by
  cases hfind : c.turn? t.id with
  | none =>
    have hnone := List.find?_eq_none.mp hfind t ht
    simp at hnone
  | some u =>
    have hu : u ∈ c.turns := List.mem_of_find?_eq_some hfind
    have hid : u.id = t.id := by simpa using List.find?_some hfind
    rw [List.inj_on_of_nodup_map hids hu ht hid]

theorem Conversation.turn?_eq_none {c : Conversation} {id : TurnId}
    (h : id ∉ c.turns.map (·.id)) : c.turn? id = none := by
  rw [turn?, List.find?_eq_none]
  intro t ht hid
  exact h (List.mem_map.mpr ⟨t, ht, by simpa using hid⟩)

namespace Scene

/-- No id is taken back. -/
theorem minted_prefix_run (s : Scene) (acts : List Act) :
    s.session.mint.minted <+: (s.run acts).session.mint.minted := by
  induction acts generalizing s with
  | nil => exact List.prefix_rfl
  | cons a acts ih => exact (Mint.minted_prefix (Gap.next_le_act s a)).trans (ih (s.act a))

/-- What a session held at any time before has an id that was minted. -/
theorem id_mem_minted_of_earlier (message : String) (earlier later : List Act) :
    let past := ((start message).run earlier).session
    let now := ((start message).run (earlier ++ later)).session
    (∀ t ∈ past.store.conversation.turns, t.id ∈ now.mint.minted) ∧
      ∀ r ∈ past.requests, r.turn ∈ now.mint.minted := by
  intro past now
  have hkept : past.mint.minted <+: now.mint.minted := by
    have hgrown := minted_prefix_run ((start message).run earlier) later
    rwa [← run_append] at hgrown
  have hminted := minted_run message earlier
  constructor
  · intro t ht
    exact hkept.mem (Mint.mem_minted.mpr (hminted.turns t ht))
  · intro r hr
    exact hkept.mem (Mint.mem_minted.mpr (hminted.requests r hr))

end Scene

/-- **Reconciling keeps every record.**  One turn comes of each record, in their order, and it
says what the record says: the question and the answer, with nothing pending and nothing that
failed, and of the record's documents the first of each key.  The other records make no
difference to it; so a document that is the first of its key in two records is in both turns,
and records that are reconciled in two parts say what they say together.

The ids of the turns are what is minted meanwhile, behind all ids that were minted before, and
all ids ascend in the order in which they were minted.  So when a chat is reopened, at any time
in any run, each turn that was restored is found by its id, and none is found by the id of a turn
that was in the store at any time before, or that a request was ever made for. -/
theorem reconcile_keeps_records (m : Mint) (records : List HistoryRecord) :
    (reconcile m records).1.length = records.length ∧
    (∀ (i : Nat) (r : HistoryRecord), records[i]? = some r →
      ∃ id, (reconcile m records).1[i]? = some {
        id, question := r.question, answer := r.answer, failure := none, isPending := false,
        sources := Source.dedupe r.docs }) ∧
    (∀ (i j : Nat) (r r' : HistoryRecord) (d : Source), records[i]? = some r →
      records[j]? = some r' → d ∈ Source.firsts r.docs → d ∈ Source.firsts r'.docs →
      ∃ t t', (reconcile m records).1[i]? = some t ∧ (reconcile m records).1[j]? = some t' ∧
        d ∈ t.sources ∧ d ∈ t'.sources ∧ (i ≠ j → t.id ≠ t'.id)) ∧
    (∀ more m₁ m₂, (reconcile m₁ (records ++ more)).1.map Turn.unnamed =
      (reconcile m records).1.map Turn.unnamed ++ (reconcile m₂ more).1.map Turn.unnamed) ∧
    (reconcile m records).2.minted = m.minted ++ (reconcile m records).1.map (·.id) ∧
    (reconcile m records).2.minted.Pairwise (·.serial < ·.serial) ∧
    ∀ message earlier later chatId,
      let past := ((Scene.start message).run earlier).session
      let s := (Scene.start message).run (earlier ++ later)
      let restored := (reconcile s.session.mint records).1
      let c := (s.act (.reopen chatId (.ok ⟨records⟩))).session.store.conversation
      c.turns = restored ∧ (∀ t ∈ restored, c.turn? t.id = some t) ∧
      (∀ t ∈ past.store.conversation.turns, c.turn? t.id = none) ∧
      ∀ r ∈ past.requests, c.turn? r.turn = none := by
  have hat : ∀ (i : Nat) (r : HistoryRecord), records[i]? = some r →
      (reconcile m records).1[i]? = some (r.turn ⟨m.next + i⟩) := by
    intro i r hr
    rw [getElem?_reconcile, hr, Option.map_some]
  refine ⟨(reconcile_restored m records).length_eq.symm, ?_, ?_, ?_, minted_reconcile m records,
    (reconcile m records).2.pairwise_minted, ?_⟩
  · intro i r hr
    exact ⟨_, hat i r hr⟩
  · intro i j r r' d hr hr' hd hd'
    rw [← Source.dedupe_eq_firsts] at hd hd'
    refine ⟨_, _, hat i r hr, hat j r' hr', hd, hd', ?_⟩
    intro hij hid
    have hserial : m.next + i = m.next + j := congrArg TurnId.serial hid
    omega
  · intro more m₁ m₂
    rw [unnamed_reconcile, unnamed_reconcile, unnamed_reconcile, List.map_append]
  · intro message earlier later chatId past s restored c
    have hturns : c.turns = restored := by
      have hopened := reopen_ok s.session.store s.session.mint chatId ⟨records⟩
      exact congrArg (fun r => r.store.conversation.turns) hopened
    have hids : (c.turns.map (·.id)).Nodup := by
      rw [hturns]
      refine (pairwise_ids_reconcile s.session.mint records).imp ?_
      intro id id' hlt hsame
      rw [hsame] at hlt
      exact Nat.lt_irrefl _ hlt
    have hunknown : ∀ id ∈ s.session.mint.minted, c.turn? id = none := by
      intro id hold
      refine Conversation.turn?_eq_none ?_
      rw [hturns]
      intro hid
      obtain ⟨t, ht, rfl⟩ := List.mem_map.mp hid
      exact id_not_mem_minted ht hold
    obtain ⟨hpast, hrequests⟩ := Scene.id_mem_minted_of_earlier message earlier later
    refine ⟨hturns, ?_, ?_, ?_⟩
    · intro t ht
      rw [← hturns] at ht
      exact Conversation.turn?_of_mem hids ht
    · intro t ht
      exact hunknown t.id (hpast t ht)
    · intro r hr
      exact hunknown r.turn (hrequests r hr)

end Dialogue
