/-
The first word of a text and what stands behind it.

White space around a text is no part of it (`trim_around`), and what is left when it is gone begins
and ends with something else (`trim_eq_self_iff`).  Such a text is one word, or a word, white space
behind it, and then a rest that is trimmed itself (`Parted`).  Cutting it at its first white space
finds such parts (`parted_firstWord`), and as there is no other way to take it apart, it finds those
it was put together from (`Parted.firstWord_eq`).
-/
import Dialogue.Proofs.Text.Blank
import Dialogue.Proofs.Text.Lines

namespace Dialogue.Text

/-! ### White space around a text -/

theorem trimChars_around {before after : List Char} (hbefore : ∀ c ∈ before, isBlank c = true)
    (hafter : ∀ c ∈ after, isBlank c = true) (cs : List Char) :
    trimChars (before ++ cs ++ after) = trimChars cs := by
  induction after using List.reverseRecOn with
  | nil =>
    have hstart : trimStartChars (before ++ cs) = trimStartChars cs :=
      List.dropWhile_append_of_pos hbefore
    rw [List.append_nil, trimChars, hstart, trimChars]
  | append_singleton after b ih =>
    have hb : isBlank b = true := hafter b (by simp)
    rw [← List.append_assoc, trimChars_append_blank _ hb]
    exact ih fun c hc => hafter c (by simp [hc])

/-- However much white space there is around a text, none of it is left. -/
theorem trim_around {before after : String} (hbefore : isBlankText before = true)
    (hafter : isBlankText after = true) (s : String) : trim (before ++ s ++ after) = trim s := by
  rw [isBlankText, List.all_eq_true] at hbefore hafter
  rw [trim, String.toList_append, String.toList_append, trimChars_around hbefore hafter, trim]

/-- A text is trimmed just if it begins and ends with no white space. -/
theorem trim_eq_self_iff {s : String} :
    trim s = s ↔ (∀ c ∈ s.toList.head?, isBlank c = false) ∧
      ∀ c ∈ s.toList.getLast?, isBlank c = false := by
  constructor
  · intro h
    have hchars : trimChars s.toList = s.toList := by
      rw [← String.toList_inj, trim, String.toList_ofList] at h
      exact h
    have hstart : trimStartChars s.toList = s.toList := by
      refine (List.dropWhile_suffix isBlank).eq_of_length_le ?_
      have hcut : trimEndChars (trimStartChars s.toList) <+: trimStartChars s.toList :=
        List.rdropWhile_prefix isBlank (trimStartChars s.toList)
      have hsame := congrArg List.length hchars
      exact hsame.symm.le.trans hcut.length_le
    rw [trimChars, hstart] at hchars
    constructor
    · intro c hc
      by_contra hblank
      obtain ⟨rest, hrest⟩ := List.head?_eq_some_iff.mp hc
      rw [trimStartChars, hrest, List.dropWhile_cons_of_pos (by simpa using hblank)] at hstart
      have hle := List.length_dropWhile_le isBlank rest
      rw [hstart, List.length_cons] at hle
      omega
    · intro c hc
      by_contra hblank
      obtain ⟨front, hfront⟩ := List.getLast?_eq_some_iff.mp hc
      rw [hfront, trimEndChars_append_blank _ (by simpa using hblank)] at hchars
      have hcut : trimEndChars front <+: front := List.rdropWhile_prefix isBlank front
      have hle := hcut.length_le
      rw [hchars, List.length_append, List.length_singleton] at hle
      omega
  · rintro ⟨hfirst, hlast⟩
    exact trim_eq_self hfirst hlast

/-- The first character of a text and the last are those of its parts. -/
theorem trim_append {front back : String} (hfront : front ≠ "") (hback : back ≠ "")
    (hfirst : ∀ c ∈ front.toList.head?, isBlank c = false) (htrim : trim back = back) :
    trim (front ++ back) = front ++ back := by
  have hhead : (front ++ back).toList.head? = front.toList.head? := by
    rw [String.toList_append]
    exact List.head?_append_of_ne_nil _ (String.toList_eq_nil_iff.not.mpr hfront)
  have hend : (front ++ back).toList.getLast? = back.toList.getLast? := by
    rw [String.toList_append]
    exact List.getLast?_append_of_ne_nil _ (String.toList_eq_nil_iff.not.mpr hback)
  rw [trim_eq_self_iff, hhead, hend]
  exact ⟨hfirst, (trim_eq_self_iff.mp htrim).2⟩

/-- What does not end with white space is white space and then the trimmed text. -/
theorem exists_gap_append_trim {s : String} (hlast : ∀ c ∈ s.toList.getLast?, isBlank c = false) :
    ∃ gap, isBlankText gap = true ∧ s = gap ++ trim s := by
  have hparts : s.toList = s.toList.takeWhile isBlank ++ trimStartChars s.toList :=
    List.takeWhile_append_dropWhile.symm
  have hkept : trimEndChars (trimStartChars s.toList) = trimStartChars s.toList := by
    refine List.rdropWhile_eq_self_iff.mpr fun hne => ?_
    have hend : s.toList.getLast? = some ((trimStartChars s.toList).getLast hne) := by
      have hwhole := congrArg List.getLast? hparts
      rw [List.getLast?_append, List.getLast?_eq_some_getLast hne, Option.some_or] at hwhole
      exact hwhole
    simp [hlast _ hend]
  refine ⟨String.ofList (s.toList.takeWhile isBlank), ?_, ?_⟩
  · rw [isBlankText, String.toList_ofList, List.all_eq_true]
    exact fun c hc => List.mem_takeWhile_imp hc
  · rw [← String.toList_inj, String.toList_append, String.toList_ofList, trim, trimChars, hkept,
      String.toList_ofList]
    exact hparts

/-! ### Words -/

/-- There is no white space in the text. -/
def Word (s : String) : Prop := ∀ c ∈ s.toList, isBlank c = false

instance (s : String) : Decidable (Word s) :=
  decidable_of_iff ((s.toList.all fun c => !isBlank c) = true) (by simp [Word])

/-- The first word and what stands behind it. -/
def firstWord (s : String) : String × String :=
  match splitAtBlank s with
  | some (word, rest) => (word, trim rest)
  | none => (s, "")

/-- How a text is a word and a rest. -/
inductive Parted : String → String → String → Prop
  | alone {word : String} (hword : Word word) : Parted word word ""
  | apart {word gap rest : String} (hword : Word word) (hgap : isBlankText gap = true)
      (hsome : gap ≠ "") (hrest : rest ≠ "") (htrim : trim rest = rest) :
      Parted (word ++ gap ++ rest) word rest

theorem word_or_split (cs : List Char) :
    (∀ c ∈ cs, isBlank c = false) ∨ ∃ front b rest, (∀ c ∈ front, isBlank c = false) ∧
      isBlank b = true ∧ cs = front ++ b :: rest := by
  induction cs with
  | nil => exact .inl (by simp)
  | cons c cs ih =>
    by_cases hc : isBlank c = true
    · exact .inr ⟨[], c, cs, by simp, hc, rfl⟩
    · rw [Bool.not_eq_true] at hc
      rcases ih with hword | ⟨front, b, rest, hfront, hb, rfl⟩
      · exact .inl (List.forall_mem_cons.mpr ⟨hc, hword⟩)
      · exact .inr ⟨c :: front, b, rest, List.forall_mem_cons.mpr ⟨hc, hfront⟩, hb, rfl⟩

theorem splitAtBlankChars_word {cs : List Char} (h : ∀ c ∈ cs, isBlank c = false) :
    splitAtBlankChars cs = none := by
  induction cs with
  | nil => rfl
  | cons c cs ih =>
    rw [List.forall_mem_cons] at h
    rw [splitAtBlankChars, h.1, if_neg Bool.false_ne_true, ih h.2, Option.map_none]

theorem splitAtBlankChars_word_append {front : List Char} (h : ∀ c ∈ front, isBlank c = false)
    {b : Char} (hb : isBlank b = true) (rest : List Char) :
    splitAtBlankChars (front ++ b :: rest) = some (front, rest) := by
  induction front with
  | nil => rw [List.nil_append, splitAtBlankChars, if_pos hb]
  | cons c front ih =>
    rw [List.forall_mem_cons] at h
    rw [List.cons_append, splitAtBlankChars, h.1, if_neg Bool.false_ne_true, ih h.2,
      Option.map_some]

/-! ### Both parts -/

theorem exists_blank_cons {gap : String} (hgap : isBlankText gap = true) (hsome : gap ≠ "") :
    ∃ b more, gap.toList = b :: more ∧ isBlank b = true ∧
      isBlankText (String.ofList more) = true := by
  obtain ⟨b, more, hmore⟩ : ∃ b more, gap.toList = b :: more :=
    List.exists_cons_of_ne_nil (String.toList_eq_nil_iff.not.mpr hsome)
  rw [isBlankText, hmore, List.all_cons, Bool.and_eq_true] at hgap
  refine ⟨b, more, hmore, hgap.1, ?_⟩
  rw [isBlankText, String.toList_ofList]
  exact hgap.2

theorem firstWord_of_word {s : String} (h : Word s) : firstWord s = (s, "") := by
  rw [firstWord, splitAtBlank, splitAtBlankChars_word h, Option.map_none]

/-- Whatever white space stands between the two parts, one character or many. -/
theorem firstWord_append {word gap : String} (hword : Word word) (hgap : isBlankText gap = true)
    (hsome : gap ≠ "") (rest : String) : firstWord (word ++ gap ++ rest) = (word, trim rest) := by
  obtain ⟨b, more, hmore, hb, hblank⟩ := exists_blank_cons hgap hsome
  have hsplit : splitAtBlankChars (word ++ gap ++ rest).toList =
      some (word.toList, more ++ rest.toList) := by
    rw [String.toList_append, String.toList_append, hmore, List.append_assoc, List.cons_append]
    exact splitAtBlankChars_word_append hword hb (more ++ rest.toList)
  have htrim : trim (String.ofList (more ++ rest.toList)) = trim rest := by
    have hjoined : String.ofList (more ++ rest.toList) = String.ofList more ++ rest ++ "" := by
      rw [String.append_empty, String.ofList_append, String.ofList_toList]
    rw [hjoined]
    exact trim_around hblank rfl rest
  rw [firstWord, splitAtBlank, hsplit, Option.map_some, String.ofList_toList]
  exact Prod.ext rfl htrim

theorem Parted.firstWord_eq {s word rest : String} (h : Parted s word rest) :
    firstWord s = (word, rest) := by
  cases h with
  | alone hword => exact firstWord_of_word hword
  | apart hword hgap hsome _ htrim => rw [firstWord_append hword hgap hsome, htrim]

theorem parted_firstWord {s : String} (hlast : ∀ c ∈ s.toList.getLast?, isBlank c = false) :
    Parted s (firstWord s).1 (firstWord s).2 := by
  rcases word_or_split s.toList with hword | ⟨front, b, more, hfront, hb, hs⟩
  · rw [firstWord_of_word hword]
    exact .alone hword
  · have hword : Word (String.ofList front) := by
      rwa [Word, String.toList_ofList]
    obtain ⟨back, hback⟩ : ∃ back : String, back.toList = b :: more :=
      ⟨String.ofList (b :: more), String.toList_ofList⟩
    have hend : ∀ c ∈ back.toList.getLast?, isBlank c = false := by
      intro c hc
      refine hlast c ?_
      rw [hs, List.getLast?_append, ← hback, hc]
      rfl
    obtain ⟨gap, hgap, hrest⟩ := exists_gap_append_trim hend
    have hsome : gap ≠ "" := by
      rintro rfl
      rw [String.empty_append] at hrest
      have hfirst := (trim_eq_self_iff.mp hrest.symm).1 b (by rw [hback]; rfl)
      rw [hb] at hfirst
      cases hfirst
    have hne : trim back ≠ "" := by
      rw [ne_eq, trim_eq_empty_iff, isBlankText, List.all_eq_true]
      intro hblank
      have hmem : back.toList.getLast? = some (back.toList.getLast (by simp [hback])) :=
        List.getLast?_eq_some_getLast _
      have hkept := hend _ hmem
      rw [hblank _ (List.getLast_mem _)] at hkept
      cases hkept
    have htext : s = String.ofList front ++ gap ++ trim back := by
      rw [String.append_assoc, ← hrest, ← String.toList_inj, String.toList_append,
        String.toList_ofList, hback, hs]
    rw [htext, firstWord_append hword hgap hsome, trim_trim]
    exact .apart hword hgap hsome hne (trim_trim back)

theorem Parted.word {s word rest : String} (h : Parted s word rest) : Word word := by
  cases h with
  | alone hword => exact hword
  | apart hword => exact hword

theorem Parted.trim_rest {s word rest : String} (h : Parted s word rest) : trim rest = rest := by
  cases h with
  | alone => rfl
  | apart _ _ _ _ htrim => exact htrim

/-- A text that does not begin with white space begins with a word, if it is not empty. -/
theorem Parted.rest_eq_empty {s word rest : String} (h : Parted s word rest)
    (hfirst : ∀ c ∈ s.toList.head?, isBlank c = false) (hempty : word = "") : rest = "" := by
  cases h with
  | alone => rfl
  | @apart _ gap _ hword hgap hsome =>
    obtain ⟨b, more, hmore, hb, -⟩ := exists_blank_cons hgap hsome
    have hkept : isBlank b = false := by
      apply hfirst
      rw [hempty, String.empty_append, String.toList_append, hmore]
      rfl
    rw [hb] at hkept
    cases hkept

end Dialogue.Text
