/-
Words, texts and numbers are passed over by their grammar.

What is passed over need not stand for anything: a text may hold half a surrogate, and a number
may be too great.  Where a text ends, and where a number may end, is the same.
-/
import Dialogue.Proofs.Json.Grammar.Items
import Dialogue.Proofs.Json.Grammar.Number

namespace Dialogue.Json

variable {bs rest : List UInt8}

/-! ### Texts -/

theorem skipTextBody_quote (rest : List UInt8) :
    skipTextBody (Byte.quote :: rest) = .ok rest := by
  rw [skipTextBody.eq_def]
  exact if_pos rfl

theorem skipTextBody_control {b : UInt8} (hquote : b ≠ Byte.quote) (hslash : b ≠ Byte.backslash)
    (hcontrol : b < 0x20) (bs : List UInt8) :
    skipTextBody (b :: bs) = fail .controlCharacter (b :: bs) := by
  rw [skipTextBody.eq_def]
  simp only [hquote, hslash, hcontrol, if_false, if_true]

theorem skipTextBody_plain {b : UInt8} (hb : IsPlain b) (bs : List UInt8) :
    skipTextBody (b :: bs) = skipTextBody bs := by
  rw [skipTextBody.eq_def]
  simp only [hb.1, hb.2.1, hb.2.2, if_false]

theorem skipTextBody_backslash (b : UInt8) (bs : List UInt8) :
    skipTextBody (Byte.backslash :: b :: bs) =
      if (simpleEscape? b).isSome then skipTextBody bs
      else if b = Byte.lowerU then
        match readHex4 bs with
        | .error f => .error f
        | .ok (_, rest) => skipTextBody rest
      else fail .invalidEscape bs := by
  have hquote : Byte.backslash ≠ Byte.quote := by decide
  rw [skipTextBody.eq_def]
  simp only [hquote, if_false, if_true]
  split_ifs
  · rfl
  · split <;> simp_all
  · rfl

theorem skipTextBody_letter {b : UInt8} (hb : (simpleEscape? b).isSome = true)
    (bs : List UInt8) : skipTextBody (Byte.backslash :: b :: bs) = skipTextBody bs := by
  rw [skipTextBody_backslash, if_pos hb]

theorem skipTextBody_lowerU (bs : List UInt8) :
    skipTextBody (Byte.backslash :: Byte.lowerU :: bs) =
      match readHex4 bs with
      | .error f => .error f
      | .ok (_, rest) => skipTextBody rest := by
  rw [skipTextBody_backslash, if_neg (by decide), if_pos rfl]

theorem skipTextBody_content {t : List UInt8} (h : AnyContent t) (rest : List UInt8) :
    skipTextBody (t ++ Byte.quote :: rest) = .ok rest := by
  induction h with
  | nil => exact skipTextBody_quote rest
  | plain hb _ ih => exact (skipTextBody_plain hb _).trans ih
  | letter hb _ ih => exact (skipTextBody_letter hb _).trans ih
  | @unit ds t n hds _ ih =>
    have hread : readHex4 (ds ++ (t ++ Byte.quote :: rest)) = .ok (n, t ++ Byte.quote :: rest) :=
      readHex4_eq_ok.mpr ⟨ds, hds, rfl⟩
    rw [List.cons_append, List.cons_append, List.append_assoc, skipTextBody_lowerU, hread]
    exact ih

theorem content_of_skipTextBody (h : skipTextBody bs = .ok rest) :
    ∃ t, AnyContent t ∧ bs = t ++ Byte.quote :: rest := by
  induction bs using skipTextBody.induct with
  | case1 =>
    rw [skipTextBody] at h
    cases h
  | case2 after =>
    rw [skipTextBody_quote] at h
    exact ⟨[], .nil, congrArg _ (Except.ok.inj h)⟩
  | case3 =>
    rw [skipTextBody] at h
    cases h
  | case4 b after hb _ ih =>
    rw [skipTextBody_letter hb] at h
    obtain ⟨t, ht, rfl⟩ := ih h
    exact ⟨_, .letter hb ht, rfl⟩
  | case5 bs f hread =>
    rw [skipTextBody_lowerU, hread] at h
    cases h
  | case6 bs n after hread _ _ ih =>
    rw [skipTextBody_lowerU, hread] at h
    obtain ⟨t, ht, rfl⟩ := ih h
    obtain ⟨ds, hds, rfl⟩ := readHex4_eq_ok.mp hread
    exact ⟨_, .unit hds ht, by simp⟩
  | case7 b after hletter hu =>
    rw [skipTextBody_backslash, if_neg hletter, if_neg hu] at h
    cases h
  | case8 b after hquote hslash hcontrol =>
    rw [skipTextBody_control hquote hslash hcontrol] at h
    cases h
  | case9 b after hquote hslash hcontrol ih =>
    have hb : IsPlain b := ⟨hquote, hslash, hcontrol⟩
    rw [skipTextBody_plain hb] at h
    obtain ⟨t, ht, rfl⟩ := ih h
    exact ⟨_, .plain hb ht, rfl⟩

theorem skipTextBody_eq_ok :
    skipTextBody bs = .ok rest ↔ AnyQuoted (Byte.quote :: bs) rest := by
  constructor
  · intro h
    obtain ⟨t, ht, rfl⟩ := content_of_skipTextBody h
    exact ⟨t, ht, rfl⟩
  · rintro ⟨t, ht, hbs⟩
    obtain ⟨-, rfl⟩ := List.cons.inj hbs
    exact skipTextBody_content ht rest

theorem AnyQuoted.shorter (h : AnyQuoted bs rest) : rest.length < bs.length := by
  obtain ⟨t, -, rfl⟩ := h
  rw [List.append_cons]
  exact length_lt_behind _ _ rest

/-! ### Numbers -/

theorem signedDigits_of_skipExponent (h : skipExponent bs = .ok rest) :
    ∃ t, SignedDigits t ∧ bs = t ++ rest := by
  unfold skipExponent at h
  split at h
  · cases h
  · rename_i d more hsign
    split_ifs at h with hd
    · obtain ⟨sign, rfl, hsigned, -⟩ := exists_takeExponentSign hsign hd
      obtain ⟨es, hes, hmore, -, -⟩ := exists_dropDigits 0 more
      rw [Except.ok.inj h] at hmore
      exact ⟨_, hsigned es hes, by simp [hmore]⟩
    · cases h

theorem skipExponent_signedDigits {t : List UInt8} (h : SignedDigits t)
    (hrest : startsWithDigit rest = false) : skipExponent (t ++ rest) = .ok rest := by
  have hskip : ∀ {ds bs}, Digits ds → (takeExponentSign bs).2 = ds ++ rest →
      skipExponent bs = .ok rest := by
    intro ds bs hds hsign
    obtain ⟨d, es, rfl, hd, hes⟩ := hds.exists_cons
    unfold skipExponent
    rw [hsign]
    simp only [List.cons_append, hd, if_true, dropDigits_append hes hrest]
  cases h with
  | plain hds => exact hskip hds (by rw [takeExponentSign_of_digit (hds.startsWithDigit rest)])
  | plus hds => exact hskip hds rfl
  | minus hds => exact hskip hds rfl

theorem decimalsEnd_of_skipDecimals (h : skipDecimals bs = .ok rest) :
    ∃ t, DecimalsEnd t ∧ bs = t ++ rest := by
  unfold skipDecimals at h
  obtain ⟨ds, hds, hbs, hcount, -⟩ := exists_dropDigits 0 bs
  rw [Nat.zero_add] at hcount
  dsimp only at h
  split_ifs at h with hzero
  · cases h
  · have hdigits : Digits ds := by
      refine ⟨?_, hds⟩
      rintro rfl
      exact hzero hcount
    split at h
    · rename_i b more hmore
      rw [hmore] at hbs
      split_ifs at h with hb
      · obtain ⟨t, ht, rfl⟩ := signedDigits_of_skipExponent h
        exact ⟨_, .intro hdigits (.some hb ht), by simpa using hbs⟩
      · rw [← Except.ok.inj h, hmore]
        exact ⟨_, .intro hdigits .none, by simpa using hbs⟩
    · rename_i hmore
      rw [hmore] at hbs
      rw [← Except.ok.inj h]
      exact ⟨_, .intro hdigits .none, by simpa using hbs⟩

theorem skipDecimals_decimalsEnd {t : List UInt8} (h : DecimalsEnd t) (hrest : EndsNumber rest) :
    skipDecimals (t ++ rest) = .ok rest := by
  obtain ⟨hds, he⟩ := h
  have hdrop := dropDigits_append hds.2 (he.not_digit hrest) 0
  unfold skipDecimals
  rw [List.append_assoc, hdrop]
  simp only [Nat.zero_add, List.length_eq_zero_iff, hds.1, if_false]
  cases he with
  | none =>
    cases rest with
    | nil => rfl
    | cons b rest => simp [(hrest b rfl).2.2]
  | some hb ht => simp [hb, skipExponent_signedDigits ht hrest.not_digit]

/-- What is passed over behind the whole part of a number. -/
def skipAfterWhole : List UInt8 → Except Fault (List UInt8)
  | [] => .ok []
  | b :: bs =>
    if b = Byte.dot then skipDecimals bs
    else if isExponentLetter b then skipExponent bs
    else .ok (b :: bs)

theorem wholeEnd_of_skipAfterWhole (h : skipAfterWhole bs = .ok rest) :
    ∃ t, WholeEnd t ∧ bs = t ++ rest := by
  cases bs with
  | nil => exact ⟨[], .intro .none .none, Except.ok.inj h⟩
  | cons b bs =>
    rw [skipAfterWhole] at h
    split_ifs at h with hdot hletter
    · obtain ⟨t, ⟨hds, he⟩, rfl⟩ := decimalsEnd_of_skipDecimals h
      rw [hdot]
      exact ⟨_, .intro (.some hds) he, rfl⟩
    · obtain ⟨t, ht, rfl⟩ := signedDigits_of_skipExponent h
      exact ⟨_, .intro .none (.some hletter ht), rfl⟩
    · exact ⟨[], .intro .none .none, Except.ok.inj h⟩

theorem skipAfterWhole_wholeEnd {t : List UInt8} (h : WholeEnd t) (hrest : EndsNumber rest) :
    skipAfterWhole (t ++ rest) = .ok rest := by
  obtain ⟨hds, he⟩ := h
  cases hds with
  | some hds =>
    rw [List.cons_append, List.cons_append, skipAfterWhole, if_pos rfl]
    exact skipDecimals_decimalsEnd (.intro hds he) hrest
  | none =>
    cases he with
    | @some b t hb ht =>
      have hdot : b ≠ Byte.dot := by
        rintro rfl
        exact absurd hb (by decide)
      rw [List.nil_append, List.cons_append, skipAfterWhole, if_neg hdot, if_pos hb]
      exact skipExponent_signedDigits ht hrest.not_digit
    | none =>
      cases rest with
      | nil => rfl
      | cons b rest =>
        obtain ⟨-, hdot, hletter⟩ := hrest b rfl
        simp [skipAfterWhole, hdot, hletter]

theorem skipUnsigned_zero (bs : List UInt8) : skipUnsigned (Byte.zero :: bs) =
    if startsWithDigit bs then failAhead .invalidNumber bs else skipAfterWhole bs := by
  rw [skipUnsigned, digit?_eq_some_zero_iff.mpr rfl]
  simp only [decide_true, Bool.true_and, if_true]
  cases bs <;> rfl

theorem skipUnsigned_digit {b : UInt8} (hb : (digit? b).isSome = true) (hzero : b ≠ Byte.zero)
    (bs : List UInt8) : skipUnsigned (b :: bs) = skipAfterWhole (dropDigits 0 bs).2 := by
  obtain ⟨d, hd⟩ := Option.isSome_iff_exists.mp hb
  have hne : d ≠ 0 := by
    rintro rfl
    exact hzero (digit?_eq_some_zero_iff.mp hd)
  rw [skipUnsigned, hd]
  simp only [hne, decide_false, Bool.false_and, Bool.false_eq_true, if_false]
  cases (dropDigits 0 bs).2 <;> rfl

theorem unsigned_of_skipUnsigned (h : skipUnsigned bs = .ok rest) :
    ∃ t, Unsigned t ∧ bs = t ++ rest := by
  cases bs with
  | nil => cases h
  | cons b bs =>
    by_cases hzero : b = Byte.zero
    · subst hzero
      rw [skipUnsigned_zero] at h
      split_ifs at h
      · cases h
      · obtain ⟨t, ht, rfl⟩ := wholeEnd_of_skipAfterWhole h
        exact ⟨_, WholePart.zero.unsigned ht, rfl⟩
    · by_cases hb : (digit? b).isSome = true
      · rw [skipUnsigned_digit hb hzero] at h
        obtain ⟨ds, hds, hbs, -, -⟩ := exists_dropDigits 0 bs
        obtain ⟨t, ht, hend⟩ := wholeEnd_of_skipAfterWhole h
        have hwhole : WholePart (b :: ds) := .digits (.cons hb hds) (by simpa using hzero)
        rw [hend] at hbs
        exact ⟨_, hwhole.unsigned ht, by simp [hbs]⟩
      · rw [Option.not_isSome_iff_eq_none] at hb
        simp only [skipUnsigned, hb] at h
        cases h

theorem skipUnsigned_unsigned {t : List UInt8} (h : Unsigned t) (hrest : EndsNumber rest) :
    skipUnsigned (t ++ rest) = .ok rest := by
  obtain ⟨hwhole, hds, he⟩ := h
  have hend : WholeEnd _ := .intro hds he
  have hstops := hend.not_digit hrest
  have hafter := skipAfterWhole_wholeEnd hend hrest
  rw [List.append_assoc]
  cases hwhole with
  | zero =>
    rw [List.singleton_append, skipUnsigned_zero, hstops]
    exact hafter
  | digits hdigits hzero =>
    obtain ⟨b, ds, rfl, hb, hds⟩ := hdigits.exists_cons
    rw [List.cons_append, skipUnsigned_digit hb (by simpa using hzero),
      dropDigits_append hds hstops]
    exact hafter

/-! ### Names -/

theorem skipName_eq_ok : skipName bs = .ok rest ↔
    ∃ bs₁ bs₂, Blanks bs bs₁ ∧ AnyQuoted bs₁ bs₂ ∧ Blanks bs₂ (Byte.colon :: rest) := by
  constructor
  · intro h
    unfold skipName at h
    split at h
    · cases h
    rename_i b more hskip
    split_ifs at h with hquote
    · split at h
      · cases h
      rename_i after htext
      split at h
      · cases h
      rename_i c more' hskip'
      split_ifs at h with hcolon
      · obtain rfl := Except.ok.inj h
        subst hquote hcolon
        exact ⟨_, after, (blanks_of_skipBlanks hskip).1, skipTextBody_eq_ok.mp htext,
          (blanks_of_skipBlanks hskip').1⟩
      · cases h
    · cases h
  · rintro ⟨bs₁, bs₂, hblanks, htext, hcolon⟩
    obtain ⟨t, ht, rfl⟩ := id htext
    simp only [skipName, hblanks.skipBlanks_eq (b := Byte.quote) (by decide), if_true,
      skipTextBody_eq_ok.mpr htext, hcolon.skipBlanks_eq (b := Byte.colon) (by decide)]

end Dialogue.Json
