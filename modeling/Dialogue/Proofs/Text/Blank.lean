/-
Trimming a text twice does no more than trimming it once.

At either end this is plain.  What is left to see is that cutting at the end uncovers no white
space at the start: the first character of a text is cut off last, and then nothing is left.
So a text of which nothing is left was white space all through.
-/
import Mathlib.Data.List.DropRight
import Dialogue.Text.Blank

namespace Dialogue.Text

/-- A text that starts with no white space has none at its start either when it was cut at
its end. -/
theorem trimStartChars_trimEndChars {cs : List Char} (h : trimStartChars cs = cs) :
    trimStartChars (trimEndChars cs) = trimEndChars cs := by
  obtain ⟨rest, hrest⟩ : trimEndChars cs <+: cs := cs.rdropWhile_prefix isBlank
  cases hcut : trimEndChars cs with
  | nil => rfl
  | cons c cut =>
    rw [hcut, List.cons_append] at hrest
    have hc : ¬ isBlank c = true := by
      intro hblank
      rw [← hrest, trimStartChars, List.dropWhile_cons_of_pos hblank] at h
      have hle := List.length_dropWhile_le isBlank (cut ++ rest)
      rw [h, List.length_cons] at hle
      omega
    exact List.dropWhile_cons_of_neg hc

theorem trimChars_trimChars (cs : List Char) : trimChars (trimChars cs) = trimChars cs := by
  have hstart : trimStartChars (trimStartChars cs) = trimStartChars cs :=
    cs.dropWhile_idempotent isBlank
  unfold trimChars
  rw [trimStartChars_trimEndChars hstart]
  exact (trimStartChars cs).rdropWhile_idempotent isBlank

theorem trim_trim (s : String) : trim (trim s) = trim s := by
  unfold trim
  rw [String.toList_ofList, trimChars_trimChars]

/-- Nothing is left of a blank text, and of no other. -/
theorem trim_eq_empty_iff {s : String} : trim s = "" ↔ isBlankText s = true := by
  rw [trim, String.ofList_eq_empty_iff, trimChars, trimEndChars, List.reverse_eq_nil_iff,
    List.dropWhile_eq_nil_iff, trimStartChars, isBlankText, List.all_eq_true]
  simp only [List.mem_reverse]
  constructor
  · intro hrest
    -- What is left at the start would begin with a character that is not blank.
    have hnil : s.toList.dropWhile isBlank = [] := by
      cases hcut : s.toList.dropWhile isBlank with
      | nil => rfl
      | cons c cs =>
        have hc : isBlank c = true := hrest c (by rw [hcut]; exact List.mem_cons_self)
        have hhead : ¬ isBlank ((s.toList.dropWhile isBlank).head (by simp [hcut])) = true := by
          simpa using List.head_dropWhile_not isBlank (by simp [hcut])
        exact absurd (by simpa [hcut] using hc) hhead
    exact List.dropWhile_eq_nil_iff.mp hnil
  · intro hall c hc
    exact hall c ((List.dropWhile_sublist isBlank).mem hc)

/-- A text without white space at its ends stays as it is. -/
theorem trim_eq_self {s : String} (hfirst : ∀ c ∈ s.toList.head?, isBlank c = false)
    (hlast : ∀ c ∈ s.toList.getLast?, isBlank c = false) : trim s = s := by
  have hkept : ∀ {cs : List Char}, (∀ c ∈ cs.head?, isBlank c = false) →
      cs.dropWhile isBlank = cs := by
    rintro (_ | ⟨c, cs⟩) h
    · rfl
    · exact List.dropWhile_cons_of_neg (by simp [h c rfl])
  rw [trim, trimChars, trimEndChars, trimStartChars, hkept hfirst, hkept (by simpa using hlast),
    List.reverse_reverse, String.ofList_toList]

theorem trim_of_no_blank {s : String} (h : ∀ c ∈ s.toList, isBlank c = false) : trim s = s :=
  trim_eq_self (fun c hc => h c (List.mem_of_mem_head? hc))
    (fun c hc => h c (List.mem_of_mem_getLast? hc))

/-- Nothing between the space and the next line is white space. -/
theorem isBlank_eq_false {c : Char} (hlow : 0x20 < c.toNat) (hhigh : c.toNat < 0x85) :
    isBlank c = false := by
  have hapart : ∀ r ∈ blankRanges, r.2 ≤ 0x20 ∨ 0x85 ≤ r.1 := by decide
  rw [isBlank, List.any_eq_false]
  intro r hr
  have := hapart r hr
  simp only [Bool.and_eq_true, decide_eq_true_eq]
  omega

theorem isBlank_of_isDigit {c : Char} (h : c.isDigit = true) : isBlank c = false := by
  obtain ⟨hlow, hhigh⟩ : 48 ≤ c.toNat ∧ c.toNat ≤ 57 := Char.isDigit_iff_toNat.mp h
  exact isBlank_eq_false (by omega) (by omega)

end Dialogue.Text
