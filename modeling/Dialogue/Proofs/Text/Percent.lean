/-
Percent encoding loses nothing, and leaves nothing that should be escaped.

A text that was encoded is a row of pieces, one for each byte: an escape, or one character that
stands for itself.  A reader looks for percent signs alone, so the bytes are read back if the
percent sign is itself escaped wherever it stands for itself.  All other laws here are about one
piece, and are taken from there to the whole text.
-/
import Dialogue.Proofs.Text.Encoding
import Dialogue.Text.Percent

namespace Dialogue.Text

/-! ### Hexadecimal digits -/

theorem hexValue?_upperHex : ∀ n < 16, hexValue? (upperHex n) = some n := by decide

theorem upperHex_ascii : ∀ n < 16, (upperHex n).toNat < 0x80 := by decide

/-- The two digits of a byte say that byte. -/
theorem hexNatural?_upperHex (b : UInt8) :
    hexNatural? [upperHex (b.toNat / 16), upperHex (b.toNat % 16)] = some b.toNat := by
  have hb := b.toNat_lt
  have hhigh := hexValue?_upperHex (b.toNat / 16) (by omega)
  have hlow := hexValue?_upperHex (b.toNat % 16) (by omega)
  simp only [hexNatural?, List.isEmpty_cons, Bool.false_eq_true, if_false, List.foldl_cons,
    List.foldl_nil, appendDigit, hhigh, hlow, Option.bind_eq_bind, Option.bind_some, pure]
  congr 1
  omega

namespace Percent

/-! ### One byte -/

/-- What is written for a byte. -/
def piece (p : UInt8 → Bool) (b : UInt8) : List Char :=
  if 0x80 ≤ b || p b then escape b else [Char.ofNat b.toNat]

theorem encodeBytes_cons (p : UInt8 → Bool) (b : UInt8) (bs : List UInt8) :
    encodeBytes p (b :: bs) = piece p b ++ encodeBytes p bs := rfl

theorem toNat_ofNat_of_ascii {n : Nat} (h : n < 0x80) : (Char.ofNat n).toNat = n := by
  rw [Char.ofNat, dif_pos (Or.inl (Nat.lt_trans h (by decide)))]
  rfl

/-- A byte is escaped, or it is a character that need not be. -/
theorem piece_cases (p : UInt8 → Bool) (b : UInt8) :
    piece p b = escape b ∧ (0x80 ≤ b.toNat ∨ p b = true) ∨
      ∃ c : Char, piece p b = [c] ∧ c.toNat = b.toNat ∧ b.toNat < 0x80 ∧ p b = false := by
  unfold piece
  by_cases hescaped : (0x80 ≤ b || p b) = true
  · rw [if_pos hescaped]
    rw [Bool.or_eq_true, decide_eq_true_eq, UInt8.le_iff_toNat_le] at hescaped
    exact Or.inl ⟨rfl, hescaped⟩
  · rw [if_neg hescaped]
    rw [Bool.or_eq_true, decide_eq_true_eq, UInt8.le_iff_toNat_le, not_or] at hescaped
    have hlow : b.toNat < 0x80 := Nat.lt_of_not_le hescaped.1
    exact Or.inr ⟨_, rfl, toNat_ofNat_of_ascii hlow, hlow, by simpa using hescaped.2⟩

theorem mem_escape {b : UInt8} {c : Char} (h : c ∈ escape b) :
    c = '%' ∨ ∃ n < 16, c = upperHex n := by
  have hb := b.toNat_lt
  simp only [escape, List.mem_cons, List.not_mem_nil, or_false] at h
  rcases h with h | h | h
  · exact Or.inl h
  · exact Or.inr ⟨_, by omega, h⟩
  · exact Or.inr ⟨_, by omega, h⟩

/-! ### Texts that were encoded -/

variable {p : UInt8 → Bool} {bs : List UInt8} {c : Char}

/-- A character of an encoded text begins an escape, is a digit of one, or need not be
escaped. -/
theorem mem_encodeBytes (h : c ∈ encodeBytes p bs) :
    c = '%' ∨ (∃ n < 16, c = upperHex n) ∨
      c.toNat < 0x80 ∧ p (UInt8.ofNat c.toNat) = false := by
  obtain ⟨b, -, hc⟩ := List.mem_flatMap.mp h
  rcases piece_cases p b with ⟨hpiece, -⟩ | ⟨d, hpiece, hd, hlow, hspared⟩
  · rcases mem_escape (hpiece ▸ hc : c ∈ escape b) with hc | hc
    · exact Or.inl hc
    · exact Or.inr (Or.inl hc)
  · obtain rfl : c = d := List.mem_singleton.mp (hpiece ▸ hc : c ∈ [d])
    refine Or.inr (Or.inr ⟨hd ▸ hlow, ?_⟩)
    rwa [hd, UInt8.ofNat_toNat]

theorem ascii_of_mem_encodeBytes (h : c ∈ encodeBytes p bs) : c.toNat < 0x80 := by
  rcases mem_encodeBytes h with rfl | ⟨n, hn, rfl⟩ | ⟨hc, -⟩
  · decide
  · exact upperHex_ascii n hn
  · exact hc

/-- A percent sign is there only with the digits of a byte that had to be escaped. -/
theorem escape_of_percent (hpercent : p 0x25 = true) {before after : List Char}
    (h : encodeBytes p bs = before ++ '%' :: after) :
    ∃ b rest, '%' :: after = escape b ++ rest ∧ (0x80 ≤ b.toNat ∨ p b = true) := by
  induction bs generalizing before with
  | nil => simp [encodeBytes] at h
  | cons b bs ih =>
    rw [encodeBytes_cons] at h
    rcases piece_cases p b with ⟨hpiece, hescaped⟩ | ⟨c, hpiece, hc, -, hspared⟩
    · rw [hpiece, escape, List.cons_append, List.cons_append, List.cons_append,
        List.nil_append] at h
      have hb := b.toNat_lt
      have hdigit : ∀ n < 16, upperHex n ≠ '%' := by decide
      -- The sign is the first of this piece or stands behind it.
      rcases before with _ | ⟨_, _ | ⟨_, _ | ⟨_, before⟩⟩⟩
      · exact ⟨b, _, h.symm, hescaped⟩
      · simp only [List.cons_append, List.nil_append, List.cons.injEq] at h
        exact absurd h.2.1 (hdigit _ (by omega))
      · simp only [List.cons_append, List.nil_append, List.cons.injEq] at h
        exact absurd h.2.2.1 (hdigit _ (by omega))
      · simp only [List.cons_append, List.cons.injEq] at h
        exact ih h.2.2.2
    · rw [hpiece, List.singleton_append] at h
      rcases before with _ | ⟨_, before⟩
      · obtain ⟨rfl, -⟩ := List.cons.inj h
        have hsign : b = 0x25 := UInt8.toNat_inj.mp hc.symm
        rw [hsign, hpercent] at hspared
        cases hspared
      · exact ih (List.cons.inj h).2

/-- The byte that an ASCII character is. -/
def byteOf (c : Char) : UInt8 := UInt8.ofNat c.toNat

theorem ofNat_toNat_byteOf (h : c.toNat < 0x80) : Char.ofNat (byteOf c).toNat = c := by
  rw [byteOf, Utf8.toNat_ofNat_of_lt (by omega), Char.ofNat_toNat]

/-- A text of characters that need not be escaped stays as it is. -/
theorem encode_of_spared {cs : List Char}
    (h : ∀ c ∈ cs, c.toNat < 0x80 ∧ p (byteOf c) = false) : encode p cs = cs := by
  rw [encode, Utf8.encode_of_ascii fun c hc => (h c hc).1]
  induction cs with
  | nil => rfl
  | cons c cs ih =>
    obtain ⟨hascii, hspared⟩ := h c List.mem_cons_self
    have hlow : ¬ 0x80 ≤ byteOf c := by
      rw [UInt8.le_iff_toNat_le, byteOf, Utf8.toNat_ofNat_of_lt (by omega)]
      exact Nat.not_le_of_lt hascii
    have hpiece : piece p (byteOf c) = [c] := by
      simp [piece, hlow, hspared, ofNat_toNat_byteOf hascii]
    rw [List.map_cons]
    refine (encodeBytes_cons p (byteOf c) _).trans ?_
    rw [hpiece, ih fun d hd => h d (List.mem_cons_of_mem c hd), List.singleton_append]

/-! ### Reading -/

theorem decodeBytes_escape (b : UInt8) (bytes : List UInt8) :
    decodeBytes ((escape b).map byteOf ++ bytes) = b :: decodeBytes bytes := by
  have hb := b.toNat_lt
  have hhigh := ofNat_toNat_byteOf (upperHex_ascii (b.toNat / 16) (by omega))
  have hlow := ofNat_toNat_byteOf (upperHex_ascii (b.toNat % 16) (by omega))
  have hsign : byteOf '%' = 0x25 := by decide
  simp only [escape, List.map_cons, List.map_nil, List.cons_append, List.nil_append, hsign,
    decodeBytes, hhigh, hlow, hexNatural?_upperHex, UInt8.ofNat_toNat]

theorem decodeBytes_cons_of_ne {b : UInt8} (h : b ≠ 0x25) (bytes : List UInt8) :
    decodeBytes (b :: bytes) = b :: decodeBytes bytes := by
  rw [decodeBytes]
  exact fun _ _ _ hb => absurd hb h

/-- Bytes that were encoded are read back, if a percent sign never stands for itself. -/
theorem decode_encodeBytes (hpercent : p 0x25 = true) (bs : List UInt8) :
    decode (encodeBytes p bs) = bs := by
  have hbytes : decode (encodeBytes p bs) = decodeBytes ((encodeBytes p bs).map byteOf) :=
    congrArg decodeBytes (Utf8.encode_of_ascii fun c hc => ascii_of_mem_encodeBytes hc)
  rw [hbytes]
  clear hbytes
  induction bs with
  | nil => rfl
  | cons b bs ih =>
    rw [encodeBytes_cons, List.map_append]
    rcases piece_cases p b with ⟨hpiece, -⟩ | ⟨c, hpiece, hc, -, hspared⟩
    · rw [hpiece, decodeBytes_escape, ih]
    · have hb : byteOf c = b := by rw [byteOf, hc, UInt8.ofNat_toNat]
      have hne : b ≠ 0x25 := by
        rintro rfl
        rw [hpercent] at hspared
        cases hspared
      rw [hpiece, List.map_singleton, List.singleton_append, hb, decodeBytes_cons_of_ne hne, ih]

end Percent

end Dialogue.Text
