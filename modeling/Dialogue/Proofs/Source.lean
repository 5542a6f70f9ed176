/-
The first document of each key.

Documents are sorted out with a set of the keys seen so far.  Only the members of that set
matter, and after some documents they are the keys of these documents.  So what becomes of the
documents behind depends on those in front by their keys alone, and keys are what sorting out
leaves as they are.  From this come all laws about sorting out twice.
-/
import Mathlib.Data.List.Induction
import Mathlib.Data.List.Nodup
import Mathlib.Data.Option.Basic
import Dialogue.Source

namespace Dialogue.Source

variable {seen seen' : List String} {s : Source}

/-- The keys of some documents, in their order. -/
def keys (docs : List Source) : List String := docs.filterMap citationKey

/-- The document has a key, and none of those before it has the same. -/
def NewAfter (before : List Source) (s : Source) : Prop :=
  ∃ key ∈ s.citationKey, key ∉ keys before

instance (before : List Source) (s : Source) : Decidable (s.NewAfter before) :=
  inferInstanceAs (Decidable (∃ key ∈ s.citationKey, key ∉ keys before))

theorem newAfter_iff (before : List Source) (s : Source) :
    s.NewAfter before ↔
      s.citationKey ≠ none ∧ ∀ t ∈ before, t.citationKey ≠ s.citationKey := by
  cases hkey : s.citationKey with
  | none => simp [NewAfter, hkey]
  | some key => simp [NewAfter, keys, hkey]

/-! ### What was seen -/

theorem dedupeFrom_congr (h : ∀ key, key ∈ seen ↔ key ∈ seen') (docs : List Source) :
    dedupeFrom seen docs = dedupeFrom seen' docs := by
  induction docs generalizing seen seen' with
  | nil => rfl
  | cons s docs ih =>
    unfold dedupeFrom
    split
    · exact ih h
    · rename_i key _
      have hcons : ∀ k, k ∈ key :: seen ↔ k ∈ key :: seen' := by
        intro k
        rw [List.mem_cons, List.mem_cons, h k]
      simp only [h key, ih h, ih hcons]

/-- Behind other documents, those are left out whose keys the others have. -/
theorem dedupeFrom_append (a b : List Source) :
    dedupeFrom seen (a ++ b) = dedupeFrom seen a ++ dedupeFrom (keys a ++ seen) b := by
  induction a generalizing seen with
  | nil => rfl
  | cons s a ih =>
    rw [List.cons_append]
    cases hkey : s.citationKey with
    | none =>
      have hkeys : keys (s :: a) = keys a := List.filterMap_cons_none hkey
      simp only [dedupeFrom, hkey, hkeys]
      exact ih
    | some key =>
      have hkeys : keys (s :: a) = key :: keys a := List.filterMap_cons_some hkey
      simp only [dedupeFrom, hkey, hkeys]
      split
      · rename_i hseen
        rw [ih]
        refine congrArg (dedupeFrom seen a ++ ·) (dedupeFrom_congr (fun k => ?_) b)
        simp only [List.cons_append, List.mem_cons, List.mem_append]
        refine ⟨Or.inr, ?_⟩
        rintro (rfl | hk)
        · exact Or.inr hseen
        · exact hk
      · rw [ih, List.cons_append]
        refine congrArg (s :: dedupeFrom (key :: seen) a ++ ·) (dedupeFrom_congr (fun k => ?_) b)
        simp only [List.cons_append, List.mem_cons, List.mem_append]
        exact or_left_comm

theorem dedupe_append (a b : List Source) :
    dedupe (a ++ b) = dedupe a ++ dedupeFrom (keys a) b := by
  rw [dedupe, dedupeFrom_append, List.append_nil]
  rfl

theorem dedupe_concat (docs : List Source) (s : Source) :
    dedupe (docs ++ [s]) = dedupe docs ++ if s.NewAfter docs then [s] else [] := by
  rw [dedupe_append]
  cases hkey : s.citationKey with
  | none => simp [dedupeFrom, NewAfter, hkey]
  | some key =>
    by_cases hseen : key ∈ keys docs
    · simp [dedupeFrom, NewAfter, hkey, hseen]
    · simp [dedupeFrom, NewAfter, hkey, hseen]

/-! ### What is kept -/

/-- The documents that have a key which none before them has, in their order. -/
def firsts (docs : List Source) : List Source :=
  (docs.zipIdx.filter fun p => p.1.NewAfter (docs.take p.2)).map (·.1)

theorem dedupe_eq_firsts (docs : List Source) : dedupe docs = firsts docs := by
  induction docs using List.reverseRecOn with
  | nil => rfl
  | append_singleton docs s ih =>
    -- In front of the last document nothing has changed for those before it.
    have hfront : (docs.zipIdx.filter fun p => p.1.NewAfter ((docs ++ [s]).take p.2)) =
        docs.zipIdx.filter fun p => p.1.NewAfter (docs.take p.2) := by
      refine List.filter_congr fun p hp => ?_
      have hlt : p.2 < docs.length := by
        have hplace := List.mem_zipIdx hp
        omega
      rw [List.take_append_of_le_length (Nat.le_of_lt hlt)]
    have htake : (docs ++ [s]).take docs.length = docs := List.take_left
    rw [dedupe_concat, ih, firsts, firsts, List.zipIdx_append, List.filter_append, hfront,
      List.map_append]
    refine congrArg (_ ++ ·) ?_
    by_cases hnew : s.NewAfter docs
    · simp [htake, hnew]
    · simp [htake, hnew]

/-- Keys are kept, each in the place where it comes first. -/
theorem map_citationKey_dedupeFrom (docs : List Source) :
    (dedupeFrom seen docs).map citationKey =
      ((keys docs).filter (· ∉ seen)).eraseDups.map some := by
  induction docs generalizing seen with
  | nil => rfl
  | cons s docs ih =>
    cases hkey : s.citationKey with
    | none =>
      have hkeys : keys (s :: docs) = keys docs := List.filterMap_cons_none hkey
      simp only [dedupeFrom, hkey, hkeys]
      exact ih
    | some key =>
      have hkeys : keys (s :: docs) = key :: keys docs := List.filterMap_cons_some hkey
      simp only [dedupeFrom, hkey, hkeys]
      by_cases hseen : key ∈ seen
      · rw [if_pos hseen, ih, List.filter_cons_of_neg (by simpa using hseen)]
      · rw [if_neg hseen, List.map_cons, ih, List.filter_cons_of_pos (by simpa using hseen),
          List.eraseDups_cons, List.map_cons, hkey, List.filter_filter]
        have hsame : (fun k => decide (k ∉ key :: seen)) =
            fun k => (!k == key) && decide (k ∉ seen) := by
          funext k
          by_cases hk : k = key
          · simp [hk]
          · simp [hk]
        rw [hsame]

theorem map_citationKey_dedupe (docs : List Source) :
    (dedupe docs).map citationKey = (keys docs).eraseDups.map some := by
  rw [dedupe, map_citationKey_dedupeFrom]
  simp

theorem keys_dedupe (docs : List Source) : keys (dedupe docs) = (keys docs).eraseDups := by
  have hkeys : keys (dedupe docs) = ((dedupe docs).map citationKey).filterMap id := by
    rw [keys, List.filterMap_map]
    rfl
  rw [hkeys, map_citationKey_dedupe, List.filterMap_map]
  simp

theorem mem_keys_dedupe {docs : List Source} {key : String} :
    key ∈ keys (dedupe docs) ↔ key ∈ keys docs := by
  rw [keys_dedupe, List.mem_eraseDups]

theorem nodup_keys_dedupe (docs : List Source) : (keys (dedupe docs)).Nodup := by
  induction docs using List.reverseRecOn with
  | nil => exact List.nodup_nil
  | append_singleton docs s ih =>
    rw [dedupe_concat]
    split
    · rename_i hnew
      obtain ⟨key, hkey, hfresh⟩ := hnew
      have hlast : keys [s] = [key] := List.filterMap_cons_some hkey
      have happend : keys (dedupe docs ++ [s]) = keys (dedupe docs) ++ [key] := by
        rw [keys, List.filterMap_append, ← keys, ← keys, hlast]
      rw [happend, List.nodup_append]
      refine ⟨ih, List.nodup_singleton key, fun k hk k' hk' => ?_⟩
      obtain rfl := List.mem_singleton.mp hk'
      rintro rfl
      exact hfresh (mem_keys_dedupe.mp hk)
    · rw [List.append_nil]
      exact ih

/-! ### Sorting out twice -/

/-- Where each document has a key of its own, all of them are kept. -/
theorem dedupe_eq_self {docs : List Source} (hkeys : ∀ s ∈ docs, s.citationKey ≠ none)
    (h : (keys docs).Nodup) : dedupe docs = docs := by
  induction docs using List.reverseRecOn with
  | nil => rfl
  | append_singleton docs s ih =>
    obtain ⟨key, hkey⟩ := Option.ne_none_iff_exists'.mp (hkeys s (by simp))
    have hlast : keys [s] = [key] := List.filterMap_cons_some hkey
    rw [keys, List.filterMap_append, ← keys, ← keys, hlast, List.nodup_append] at h
    obtain ⟨hdocs, -, hapart⟩ := h
    have hnew : s.NewAfter docs := ⟨key, hkey, fun hmem => hapart key hmem key (by simp) rfl⟩
    rw [dedupe_concat, if_pos hnew, ih (fun t ht => hkeys t (by simp [ht])) hdocs]

theorem dedupe_dedupe (docs : List Source) : dedupe (dedupe docs) = dedupe docs := by
  refine dedupe_eq_self (fun s hs hnone => ?_) (nodup_keys_dedupe docs)
  have hmem : none ∈ (dedupe docs).map citationKey := List.mem_map.mpr ⟨s, hs, hnone⟩
  rw [map_citationKey_dedupe] at hmem
  obtain ⟨key, -, hkey⟩ := List.mem_map.mp hmem
  cases hkey

/-- Of the documents those are kept, as they are and in their order, that have a key which none
before them has.  So their keys are all different, and they are the keys that there were, in the
order in which they first came.  Whether the first documents were sorted out before makes no
difference, neither alone nor with others behind them. -/
theorem dedupe_keeps_firsts (docs more : List Source) :
    dedupe docs = firsts docs ∧
      (dedupe docs).map citationKey = (keys docs).eraseDups.map some ∧
      ((dedupe docs).map citationKey).Nodup ∧
      dedupe (dedupe docs) = dedupe docs ∧
      dedupe (docs ++ more) = dedupe (dedupe docs ++ more) := by
  have hkeys := map_citationKey_dedupe docs
  refine ⟨dedupe_eq_firsts docs, hkeys, ?_, dedupe_dedupe docs, ?_⟩
  · rw [hkeys, ← keys_dedupe]
    exact (nodup_keys_dedupe docs).map (Option.some_injective String)
  · rw [dedupe_append, dedupe_append, dedupe_dedupe]
    exact congrArg (dedupe docs ++ ·) (dedupeFrom_congr (fun _ => mem_keys_dedupe.symm) more)

end Dialogue.Source
