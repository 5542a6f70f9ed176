/-
A text survives being written as bytes.

`front` is given the bytes of a character with anything behind them, and finds that character:
there is one lemma for each number of bytes, which says what `front` makes of bytes in the
right ranges, and the bytes of a character are in them.  So `strict?` reads back whatever was
encoded.

Readers of bytes look for marks, and all marks are ASCII.  A character of ASCII is one byte
of its own value, and no byte of any other character is below `0x80`; this is all that such a
reader has to know.
-/
import Mathlib.Tactic.Common
import Dialogue.Text.Utf8

namespace Dialogue.Text.Utf8

/-! ### First bytes -/

theorem lead?_two {b : UInt8} (low : 0xC2 ≤ b.toNat) (high : b.toNat ≤ 0xDF) :
    lead? b = some ⟨1, 0x80, 0xBF⟩ := by
  unfold lead?
  rw [if_pos]
  exact ⟨UInt8.le_iff_toNat_le.mpr low, UInt8.le_iff_toNat_le.mpr high⟩

theorem lead?_three {b : UInt8} (low : 0xE0 ≤ b.toNat) (high : b.toNat ≤ 0xEF) :
    lead? b = some ⟨2, if b.toNat = 0xE0 then 0xA0 else 0x80,
      if b.toNat = 0xED then 0x9F else 0xBF⟩ := by
  unfold lead?
  simp only [UInt8.le_iff_toNat_le, ← UInt8.toNat_inj, UInt8.reduceToNat]
  split_ifs <;> first | rfl | omega

theorem lead?_four {b : UInt8} (low : 0xF0 ≤ b.toNat) (high : b.toNat ≤ 0xF4) :
    lead? b = some ⟨3, if b.toNat = 0xF0 then 0x90 else 0x80,
      if b.toNat = 0xF4 then 0x8F else 0xBF⟩ := by
  unfold lead?
  simp only [UInt8.le_iff_toNat_le, ← UInt8.toNat_inj, UInt8.reduceToNat]
  split_ifs <;> first | rfl | omega

/-! ### Characters of some bytes -/

variable {b b1 b2 b3 : UInt8} {c : Char} (rest : List UInt8)

theorem isTail_of_le (low : 0x80 ≤ b.toNat) (high : b.toNat ≤ 0xBF) : isTail b = true :=
  decide_eq_true ⟨UInt8.le_iff_toNat_le.mpr low, UInt8.le_iff_toNat_le.mpr high⟩

theorem not_lt_of_le (low : 0x80 ≤ b.toNat) : ¬ b < 0x80 := by
  simp only [UInt8.lt_iff_toNat_lt, UInt8.reduceToNat]
  omega

theorem front_one (high : b.toNat < 0x80) (hc : b.toNat = c.toNat) :
    front (b :: rest) = .char c rest := by
  have hb : b < 0x80 := UInt8.lt_iff_toNat_lt.mpr high
  simp only [front, hb, if_true, hc, Char.ofNat_toNat]

theorem front_two (low : 0xC2 ≤ b.toNat) (high : b.toNat ≤ 0xDF) (low1 : 0x80 ≤ b1.toNat)
    (high1 : b1.toNat ≤ 0xBF) (hc : b.toNat % 32 * 64 + b1.toNat % 64 = c.toNat) :
    front (b :: b1 :: rest) = .char c rest := by
  have hb := not_lt_of_le (Nat.le_trans (by decide) low)
  have hrange : 0x80 ≤ b1 ∧ b1 ≤ 0xBF :=
    ⟨UInt8.le_iff_toNat_le.mpr low1, UInt8.le_iff_toNat_le.mpr high1⟩
  have hvalue : b.toNat % 32 * 64 + low6 b1 = c.toNat := hc
  simp only [front, hb, if_false, lead?_two low high, frontLong, hrange, and_self, if_true, hvalue,
    Char.ofNat_toNat]

/-- The second byte of three keeps out what two bytes can say, and surrogates. -/
theorem front_three (low : 0xE0 ≤ b.toNat) (high : b.toNat ≤ 0xEF)
    (low1 : (if b.toNat = 0xE0 then 0xA0 else 0x80) ≤ b1.toNat)
    (high1 : b1.toNat ≤ if b.toNat = 0xED then 0x9F else 0xBF) (low2 : 0x80 ≤ b2.toNat)
    (high2 : b2.toNat ≤ 0xBF)
    (hc : b.toNat % 16 * 4096 + b1.toNat % 64 * 64 + b2.toNat % 64 = c.toNat) :
    front (b :: b1 :: b2 :: rest) = .char c rest := by
  have hb := not_lt_of_le (Nat.le_trans (by decide) low)
  have hrange : (if b.toNat = 0xE0 then 0xA0 else 0x80 : UInt8) ≤ b1 ∧
      b1 ≤ (if b.toNat = 0xED then 0x9F else 0xBF : UInt8) := by
    simp only [UInt8.le_iff_toNat_le]
    split_ifs at low1 high1 ⊢ <;> exact ⟨low1, high1⟩
  have hvalue : b.toNat % 16 * 4096 + low6 b1 * 64 + low6 b2 = c.toNat := hc
  simp only [front, hb, if_false, lead?_three low high, frontLong, hrange, and_self, if_true,
    isTail_of_le low2 high2, hvalue, Char.ofNat_toNat]
  rfl

/-- The second byte of four keeps out what three bytes can say, and what no character is. -/
theorem front_four (low : 0xF0 ≤ b.toNat) (high : b.toNat ≤ 0xF4)
    (low1 : (if b.toNat = 0xF0 then 0x90 else 0x80) ≤ b1.toNat)
    (high1 : b1.toNat ≤ if b.toNat = 0xF4 then 0x8F else 0xBF) (low2 : 0x80 ≤ b2.toNat)
    (high2 : b2.toNat ≤ 0xBF) (low3 : 0x80 ≤ b3.toNat) (high3 : b3.toNat ≤ 0xBF)
    (hc : b.toNat % 8 * 262144 + b1.toNat % 64 * 4096 + b2.toNat % 64 * 64 + b3.toNat % 64 =
      c.toNat) : front (b :: b1 :: b2 :: b3 :: rest) = .char c rest := by
  have hb := not_lt_of_le (Nat.le_trans (by decide) low)
  have hrange : (if b.toNat = 0xF0 then 0x90 else 0x80 : UInt8) ≤ b1 ∧
      b1 ≤ (if b.toNat = 0xF4 then 0x8F else 0xBF : UInt8) := by
    simp only [UInt8.le_iff_toNat_le]
    split_ifs at low1 high1 ⊢ <;> exact ⟨low1, high1⟩
  have hvalue : b.toNat % 8 * 262144 + low6 b1 * 4096 + low6 b2 * 64 + low6 b3 = c.toNat := hc
  simp only [front, hb, if_false, lead?_four low high, frontLong, hrange, and_self, if_true,
    isTail_of_le low2 high2, isTail_of_le low3 high3, hvalue, Char.ofNat_toNat]
  rfl

/-! ### What was encoded -/

theorem toNat_ofNat_of_lt {n : Nat} (h : n < 256) : (UInt8.ofNat n).toNat = n := by
  rw [UInt8.toNat_ofNat']
  omega

/-- The first character of some bytes is the one whose encoding they start with. -/
theorem front_encodeChar (c : Char) (rest : List UInt8) :
    front (String.utf8EncodeChar c ++ rest) = .char c rest := by
  have hvalid : c.toNat < 0xD800 ∨ 0xDFFF < c.toNat ∧ c.toNat < 0x110000 := c.valid
  have hval : c.val.toNat = c.toNat := rfl
  fun_cases String.utf8EncodeChar c
  case case1 v hv =>
    have hb := toNat_ofNat_of_lt (n := v) (by omega)
    exact front_one rest (by omega) (by omega)
  case case2 v hv hv' =>
    have hb := toNat_ofNat_of_lt (n := v / 64 % 32 + 192) (by omega)
    have hb1 := toNat_ofNat_of_lt (n := v % 64 + 128) (by omega)
    exact front_two rest (by omega) (by omega) (by omega) (by omega) (by omega)
  case case3 v hv hv' hv'' =>
    have hb := toNat_ofNat_of_lt (n := v / 4096 % 16 + 224) (by omega)
    have hb1 := toNat_ofNat_of_lt (n := v / 64 % 64 + 128) (by omega)
    have hb2 := toNat_ofNat_of_lt (n := v % 64 + 128) (by omega)
    exact front_three rest (by omega) (by omega) (by split <;> omega) (by split <;> omega)
      (by omega) (by omega) (by omega)
  case case4 v hv hv' hv'' =>
    have hb := toNat_ofNat_of_lt (n := v / 262144 % 8 + 240) (by omega)
    have hb1 := toNat_ofNat_of_lt (n := v / 4096 % 64 + 128) (by omega)
    have hb2 := toNat_ofNat_of_lt (n := v / 64 % 64 + 128) (by omega)
    have hb3 := toNat_ofNat_of_lt (n := v % 64 + 128) (by omega)
    exact front_four rest (by omega) (by omega) (by split <;> omega) (by split <;> omega)
      (by omega) (by omega) (by omega) (by omega) (by omega)

theorem encode_cons (c : Char) (cs : List Char) :
    encode (c :: cs) = String.utf8EncodeChar c ++ encode cs := rfl

theorem encode_append (cs more : List Char) : encode (cs ++ more) = encode cs ++ encode more :=
  List.flatMap_append

theorem strictChars?_of_char {bs rest : List UInt8} {c : Char} (h : front bs = .char c rest) :
    strictChars? bs = (strictChars? rest).map (c :: ·) := by
  rw [strictChars?]
  split <;> simp_all

theorem strictChars?_encode (cs : List Char) : strictChars? (encode cs) = some cs := by
  induction cs with
  | nil =>
    rw [strictChars?]
    rfl
  | cons c cs ih =>
    rw [encode_cons, strictChars?_of_char (front_encodeChar c (encode cs)), ih]
    rfl

/-- What was encoded is read back. -/
theorem strict?_encode (s : String) : strict? (encode s.toList) = some s := by
  rw [strict?, strictChars?_encode, Option.map_some, String.ofList_toList]

/-! ### ASCII -/

theorem encodeChar_of_ascii (h : c.toNat < 0x80) :
    String.utf8EncodeChar c = [UInt8.ofNat c.toNat] := by
  have hv : c.val.toNat ≤ 0x7F := Nat.le_of_lt_succ h
  unfold String.utf8EncodeChar
  exact if_pos hv

theorem encode_of_ascii {cs : List Char} (h : ∀ c ∈ cs, c.toNat < 0x80) :
    encode cs = cs.map fun c => UInt8.ofNat c.toNat := by
  induction cs with
  | nil => rfl
  | cons c cs ih =>
    rw [encode_cons, encodeChar_of_ascii (h c (by simp)), ih fun x hx => h x (by simp [hx])]
    rfl

/-- No byte of another character can be taken for ASCII. -/
theorem high_of_mem_encodeChar (h : 0x80 ≤ c.toNat) :
    ∀ b ∈ String.utf8EncodeChar c, 0x80 ≤ b.toNat := by
  have hval : c.val.toNat = c.toNat := rfl
  fun_cases String.utf8EncodeChar c
  case case1 v hv => omega
  all_goals
    simp only [List.forall_mem_cons, List.not_mem_nil, false_imp_iff, implies_true, and_true,
      UInt8.toNat_ofNat']
    omega

/-- A byte below 0x80 is there for a character. -/
theorem exists_of_ascii_mem_encode {b : UInt8} {cs : List Char} (hb : b.toNat < 0x80)
    (h : b ∈ encode cs) : ∃ c ∈ cs, c.toNat = b.toNat := by
  obtain ⟨c, hc, hbc⟩ := List.mem_flatMap.mp h
  refine ⟨c, hc, ?_⟩
  by_cases hascii : c.toNat < 0x80
  · rw [encodeChar_of_ascii hascii, List.mem_singleton] at hbc
    rw [hbc, toNat_ofNat_of_lt (by omega)]
  · have hhigh := high_of_mem_encodeChar (Nat.le_of_not_lt hascii) b hbc
    omega

end Dialogue.Text.Utf8
