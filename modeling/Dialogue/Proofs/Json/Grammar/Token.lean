/-
Words and texts are read by their grammar.
-/
import Dialogue.Proofs.Json.Grammar
import Dialogue.Proofs.Text.Lossy

namespace Dialogue.Json

open Text.Utf8

variable {bs rest : List UInt8}

/-! ### Words -/

theorem readWord_eq_ok {es : List UInt8} : readWord es bs = .ok rest ↔ bs = es ++ rest := by
  induction es generalizing bs with
  | nil => simp [readWord]
  | cons e es ih =>
    cases bs with
    | nil => simp [readWord, fail]
    | cons b bs =>
      by_cases hb : b = e
      · simp [readWord, hb, ih]
      · simp [readWord, hb, fail]

/-! ### Escapes -/

theorem readHex4_eq_ok {n : Nat} :
    readHex4 bs = .ok (n, rest) ↔ ∃ ds, Hex4 ds n ∧ bs = ds ++ rest := by
  constructor
  · intro h
    unfold readHex4 at h
    split at h
    · rename_i a b c d rest'
      split at h
      · rename_i i j k l hi hj hk hl
        obtain ⟨rfl, rfl⟩ := Prod.mk.inj (Except.ok.inj h)
        exact ⟨[a, b, c, d], ⟨a, b, c, d, rfl, i, j, k, l, hi, hj, hk, hl, rfl⟩, rfl⟩
      · cases h
    · cases h
  · rintro ⟨ds, ⟨a, b, c, d, rfl, i, j, k, l, hi, hj, hk, hl, rfl⟩, rfl⟩
    simp [readHex4, hi, hj, hk, hl]

theorem readInEscape_eq_ok {e : UInt8} : readInEscape e bs = .ok rest ↔ bs = e :: rest := by
  cases bs with
  | nil => simp [readInEscape, fail]
  | cons b bs =>
    by_cases hb : b = e
    · simp [readInEscape, hb]
    · simp [readInEscape, hb, fail]

theorem escape_of_readCodePoint {c : Char} (h : readCodePoint bs = .ok (c, rest)) :
    ∃ e, Escape (Byte.lowerU :: e) c ∧ bs = e ++ rest := by
  unfold readCodePoint at h
  split at h
  · cases h
  · rename_i n after hread
    obtain ⟨ds, hds, rfl⟩ := readHex4_eq_ok.mp hread
    split_ifs at h with hlow hhigh
    · cases h
    · split at h
      · cases h
      · rename_i after₁ hslash
        obtain rfl := readInEscape_eq_ok.mp hslash
        split at h
        · cases h
        · rename_i after₂ hu
          obtain rfl := readInEscape_eq_ok.mp hu
          split at h
          · cases h
          · rename_i m after₃ hread'
            obtain ⟨es, hes, rfl⟩ := readHex4_eq_ok.mp hread'
            split_ifs at h with hm
            · obtain ⟨rfl, rfl⟩ := Prod.mk.inj (Except.ok.inj h)
              exact ⟨_, .pair hds hhigh hes hm, by simp⟩
            · cases h
    · obtain ⟨rfl, rfl⟩ := Prod.mk.inj (Except.ok.inj h)
      exact ⟨ds, .unit hds (eq_false_of_ne_true hhigh) (eq_false_of_ne_true hlow), rfl⟩

theorem not_low_of_high {n : Nat} (h : isHighSurrogate n = true) : isLowSurrogate n = false := by
  simp only [isHighSurrogate, Bool.and_eq_true, decide_eq_true_eq] at h
  simp only [isLowSurrogate, Bool.and_eq_false_iff, decide_eq_false_iff_not]
  omega

theorem simpleEscape?_lowerU : simpleEscape? Byte.lowerU = none := by decide

theorem readEscape_eq_ok {c : Char} :
    readEscape bs = .ok (c, rest) ↔ ∃ e, Escape e c ∧ bs = e ++ rest := by
  constructor
  · intro h
    cases bs with
    | nil => cases h
    | cons b bs =>
      simp only [readEscape] at h
      split at h
      · rename_i d hd
        obtain ⟨rfl, rfl⟩ := Prod.mk.inj (Except.ok.inj h)
        exact ⟨[b], .letter hd, rfl⟩
      · split_ifs at h with hu
        · subst hu
          obtain ⟨e, he, rfl⟩ := escape_of_readCodePoint h
          exact ⟨_, he, rfl⟩
        · cases h
  · rintro ⟨e, he, rfl⟩
    cases he with
    | letter hb => simp [readEscape, hb]
    | @unit ds n hds hhigh hlow =>
      have hread : readHex4 (ds ++ rest) = .ok (n, rest) := readHex4_eq_ok.mpr ⟨ds, hds, rfl⟩
      simp [readEscape, simpleEscape?_lowerU, readCodePoint, hread, hhigh, hlow]
    | @pair ds es n m hds hhigh hes hlow =>
      have hread : readHex4 (ds ++ Byte.backslash :: Byte.lowerU :: (es ++ rest)) =
          .ok (n, Byte.backslash :: Byte.lowerU :: (es ++ rest)) :=
        readHex4_eq_ok.mpr ⟨ds, hds, rfl⟩
      have hread' : readHex4 (es ++ rest) = .ok (m, rest) := readHex4_eq_ok.mpr ⟨es, hes, rfl⟩
      have hnot := not_low_of_high hhigh
      simp [readEscape, simpleEscape?_lowerU, readCodePoint, hread, hread', hhigh, hnot, hlow,
        readInEscape]

/-! ### Texts -/

theorem readTextBytes_content {t bytes : List UInt8} (h : Content t bytes)
    (acc rest : List UInt8) :
    readTextBytes acc (t ++ Byte.quote :: rest) = .ok (acc.reverse ++ bytes, rest) := by
  induction h generalizing acc with
  | nil => simpa using readTextBytes_quote acc rest
  | plain hb _ ih =>
    rw [List.cons_append, readTextBytes_plain hb.1 hb.2.1 hb.2.2, ih]
    simp
  | @escape e t bytes c he _ ih =>
    have hread : readEscape (e ++ (t ++ Byte.quote :: rest)) = .ok (c, t ++ Byte.quote :: rest) :=
      readEscape_eq_ok.mpr ⟨e, he, rfl⟩
    rw [List.cons_append, List.append_assoc, readTextBytes_escape hread, ih]
    simp

theorem content_of_readTextBytes {acc content : List UInt8}
    (h : readTextBytes acc bs = .ok (content, rest)) :
    ∃ t bytes, Content t bytes ∧ bs = t ++ Byte.quote :: rest ∧
      content = acc.reverse ++ bytes := by
  induction acc, bs using readTextBytes.induct with
  | case1 acc =>
    rw [readTextBytes] at h
    cases h
  | case2 acc rest' =>
    rw [readTextBytes_quote] at h
    obtain ⟨rfl, rfl⟩ := Prod.mk.inj (Except.ok.inj h)
    exact ⟨[], [], .nil, rfl, by simp⟩
  | case3 acc bs e hescape _ =>
    rw [readTextBytes, if_neg (by decide), if_pos rfl] at h
    split at h <;> simp_all
  | case4 acc bs c after hescape _ ih =>
    rw [readTextBytes_escape hescape] at h
    obtain ⟨t, bytes, ht, rfl, rfl⟩ := ih h
    obtain ⟨e, he, rfl⟩ := readEscape_eq_ok.mp hescape
    exact ⟨_, _, .escape he ht, by simp, by simp⟩
  | case5 acc b bs hquote hslash hcontrol =>
    rw [readTextBytes, if_neg hquote, if_neg hslash, if_pos hcontrol] at h
    cases h
  | case6 acc b bs hquote hslash hcontrol ih =>
    rw [readTextBytes_plain hquote hslash hcontrol] at h
    obtain ⟨t, bytes, ht, rfl, rfl⟩ := ih h
    exact ⟨_, _, .plain ⟨hquote, hslash, hcontrol⟩ ht, rfl, by simp⟩

theorem readTextBody_eq_ok {s : String} :
    readTextBody bs = .ok (s, rest) ↔ TextOf s (Byte.quote :: bs) rest := by
  constructor
  · intro h
    unfold readTextBody at h
    split at h
    · cases h
    · rename_i content after hread
      split at h
      · rename_i s' hs
        obtain ⟨rfl, rfl⟩ := Prod.mk.inj (Except.ok.inj h)
        obtain ⟨t, bytes, ht, rfl, rfl⟩ := content_of_readTextBytes hread
        rw [strict?_eq_some_iff] at hs
        exact ⟨t, hs ▸ ht, rfl⟩
      · cases h
  · rintro ⟨t, ht, hbs⟩
    obtain ⟨-, rfl⟩ := List.cons.inj hbs
    have hread := readTextBytes_content ht [] rest
    rw [List.reverse_nil, List.nil_append] at hread
    simp only [readTextBody, hread, strict?_encode]

end Dialogue.Json
