/-
Tokens survive being written.

A text is written with escapes for the few characters that cannot stand for themselves between
quotes, and a whole number in its decimal digits.  The reader goes over bytes, so for each
character there is one lemma about the bytes that are written for it: the reader goes over all
of them and has the bytes of the character itself.  The text follows by induction, because the
reader keeps what it has read so far.

A number has no mark at its end.  It ends where the bytes behind it cannot belong to it, and
that is all that is asked of them (`EndsNumber`).  Digits are counted in as long as they fit,
and the value only grows on the way, so if all of it fits, nothing is ever left out.
-/
import Dialogue.Json.Reader
import Dialogue.Json.Value
import Dialogue.Proofs.Text.Encoding

namespace Dialogue.Json

open Text.Utf8

/-! ### Texts -/

theorem readTextBytes_quote (acc rest : List UInt8) :
    readTextBytes acc (Byte.quote :: rest) = .ok (acc.reverse, rest) := by
  rw [readTextBytes, if_pos rfl]

theorem readTextBytes_escape {c : Char} {bs after : List UInt8} (h : readEscape bs = .ok (c, after))
    (acc : List UInt8) : readTextBytes acc (Byte.backslash :: bs) =
      readTextBytes ((String.utf8EncodeChar c).reverse ++ acc) after := by
  rw [readTextBytes, if_neg (by decide), if_pos rfl]
  split <;> simp_all

theorem readTextBytes_plain {b : UInt8} (hquote : b ≠ Byte.quote) (hslash : b ≠ Byte.backslash)
    (hplain : ¬ b < 0x20) (acc rest : List UInt8) :
    readTextBytes acc (b :: rest) = readTextBytes (b :: acc) rest := by
  rw [readTextBytes, if_neg hquote, if_neg hslash, if_neg hplain]

/-- Bytes that no mark is among are taken as they are. -/
theorem readTextBytes_high {bs : List UInt8} (h : ∀ b ∈ bs, 0x80 ≤ b.toNat)
    (acc rest : List UInt8) :
    readTextBytes acc (bs ++ rest) = readTextBytes (bs.reverse ++ acc) rest := by
  induction bs generalizing acc with
  | nil => rfl
  | cons b bs ih =>
    have hb := h b (by simp)
    rw [List.cons_append, readTextBytes_plain, ih fun x hx => h x (by simp [hx])]
    · simp
    · rintro rfl
      exact absurd hb (by decide)
    · rintro rfl
      exact absurd hb (by decide)
    · rw [UInt8.lt_iff_toNat_lt]
      exact Nat.not_lt.mpr (Nat.le_trans (by decide) hb)

theorem digitChar_ascii {n : Nat} (h : n < 16) : (Nat.digitChar n).toNat < 0x80 := by
  revert n
  decide

theorem hexDigit?_digitChar {n : Nat} (h : n < 16) :
    hexDigit? (UInt8.ofNat (Nat.digitChar n).toNat) = some n := by
  revert n
  decide

/-- The escape of a control is read back. -/
theorem readEscape_control {c : Char} (h : c.toNat < 32) (rest : List UInt8) :
    readEscape (encode ['u', '0', '0', Nat.digitChar (c.toNat / 16), Nat.digitChar (c.toNat % 16)]
      ++ rest) = .ok (c, rest) := by
  have hhigh : c.toNat / 16 < 16 := by omega
  have hlow : c.toNat % 16 < 16 := by omega
  have hbytes : encode
      ['u', '0', '0', Nat.digitChar (c.toNat / 16), Nat.digitChar (c.toNat % 16)] ++ rest =
        0x75 :: 0x30 :: 0x30 :: UInt8.ofNat (Nat.digitChar (c.toNat / 16)).toNat ::
          UInt8.ofNat (Nat.digitChar (c.toNat % 16)).toNat :: rest := by
    rw [encode_of_ascii]
    · rfl
    · simp [digitChar_ascii hhigh, digitChar_ascii hlow]
  have hzero : hexDigit? 0x30 = some 0 := by decide
  have hvalue : ((0 * 16 + 0) * 16 + c.toNat / 16) * 16 + c.toNat % 16 = c.toNat := by omega
  have hhex : readHex4 (0x30 :: 0x30 :: UInt8.ofNat (Nat.digitChar (c.toNat / 16)).toNat ::
      UInt8.ofNat (Nat.digitChar (c.toNat % 16)).toNat :: rest) = .ok (c.toNat, rest) := by
    simp only [readHex4, hzero, hexDigit?_digitChar hhigh, hexDigit?_digitChar hlow, hvalue]
  have hsurrogate : isLowSurrogate c.toNat = false ∧ isHighSurrogate c.toNat = false := by
    unfold isLowSurrogate isHighSurrogate
    simp
    omega
  have hsimple : simpleEscape? 0x75 = none := by decide
  rw [hbytes, readEscape, hsimple]
  simp [readCodePoint, hhex, hsurrogate, Char.ofNat_toNat]

/-- A letter behind a backslash stands for one character. -/
theorem readTextBytes_simple {c e : Char} (he : e.toNat < 0x80)
    (hc : simpleEscape? (UInt8.ofNat e.toNat) = some c) (acc rest : List UInt8) :
    readTextBytes acc (encode ['\\', e] ++ rest) =
      readTextBytes ((String.utf8EncodeChar c).reverse ++ acc) rest := by
  have hbytes : encode ['\\', e] ++ rest = Byte.backslash :: UInt8.ofNat e.toNat :: rest := by
    rw [encode_of_ascii]
    · rfl
    · simp [he]
  rw [hbytes]
  refine readTextBytes_escape ?_ acc
  rw [readEscape, hc]

/-- A character that needs no escape is read as it stands. -/
theorem readTextBytes_unescaped {c : Char} (hquote : c ≠ '"') (hslash : c ≠ '\\')
    (hcontrol : ¬ c.toNat < 32) (acc rest : List UInt8) :
    readTextBytes acc (encode [c] ++ rest) =
      readTextBytes ((String.utf8EncodeChar c).reverse ++ acc) rest := by
  rw [encode, List.flatMap_singleton]
  by_cases hascii : c.toNat < 0x80
  · rw [encodeChar_of_ascii hascii]
    have hvalue := toNat_ofNat_of_lt (n := c.toNat) (by omega)
    refine readTextBytes_plain ?_ ?_ ?_ acc rest
    · intro hb
      rw [hb] at hvalue
      exact hquote (Char.toNat_inj.mp hvalue.symm)
    · intro hb
      rw [hb] at hvalue
      exact hslash (Char.toNat_inj.mp hvalue.symm)
    · rw [UInt8.lt_iff_toNat_lt, hvalue]
      exact hcontrol
  · exact readTextBytes_high (high_of_mem_encodeChar (Nat.le_of_not_lt hascii)) acc rest

/-- Whatever is written for a character, is read as that character. -/
theorem readTextBytes_escapeChar (c : Char) (acc rest : List UInt8) :
    readTextBytes acc (encode (escapeChar c) ++ rest) =
      readTextBytes ((String.utf8EncodeChar c).reverse ++ acc) rest := by
  unfold escapeChar
  split_ifs with hquote hslash hback hform hnew hreturn htab hcontrol
  · subst hquote
    exact readTextBytes_simple (by decide) (by decide) acc rest
  · subst hslash
    exact readTextBytes_simple (by decide) (by decide) acc rest
  · obtain rfl : c = Char.ofNat 8 := Char.toNat_inj.mp hback
    exact readTextBytes_simple (by decide) (by decide) acc rest
  · obtain rfl : c = Char.ofNat 12 := Char.toNat_inj.mp hform
    exact readTextBytes_simple (by decide) (by decide) acc rest
  · subst hnew
    exact readTextBytes_simple (by decide) (by decide) acc rest
  · subst hreturn
    exact readTextBytes_simple (by decide) (by decide) acc rest
  · subst htab
    exact readTextBytes_simple (by decide) (by decide) acc rest
  · exact readTextBytes_escape (readEscape_control hcontrol rest) acc
  · exact readTextBytes_unescaped hquote hslash hcontrol acc rest

theorem readTextBytes_written (cs : List Char) (acc rest : List UInt8) :
    readTextBytes acc (encode (cs.flatMap escapeChar) ++ Byte.quote :: rest) =
      .ok (acc.reverse ++ encode cs, rest) := by
  induction cs generalizing acc with
  | nil =>
    rw [List.flatMap_nil]
    exact (readTextBytes_quote acc rest).trans (by simp [encode])
  | cons c cs ih =>
    rw [List.flatMap_cons, encode_append, List.append_assoc, readTextBytes_escapeChar, ih,
      encode_cons, List.reverse_append, List.reverse_reverse, List.append_assoc]

/-- A text is read back from what was written for it. -/
theorem readTextBody_writeText (s : String) (rest : List UInt8) :
    ∃ body, encode (writeText s) = Byte.quote :: body ∧
      readTextBody (body ++ rest) = .ok (s, rest) := by
  refine ⟨encode (s.toList.flatMap escapeChar) ++ [Byte.quote], ?_, ?_⟩
  · rw [writeText, List.cons_append, encode_cons, encode_append]
    rfl
  · have hread := readTextBytes_written s.toList [] rest
    rw [readTextBody, List.append_assoc, List.singleton_append, hread]
    simp only [List.reverse_nil, List.nil_append, strict?_encode]

/-! ### Whole numbers -/

/-- The byte behind a number, if there is one, is not part of it. -/
def EndsNumber (rest : List UInt8) : Prop :=
  ∀ b ∈ rest.head?, digit? b = none ∧ b ≠ Byte.dot ∧ isExponentLetter b = false

theorem endsNumber_nil : EndsNumber [] := by simp [EndsNumber]

theorem endsNumber_cons {b : UInt8} {rest : List UInt8} : EndsNumber (b :: rest) ↔
    digit? b = none ∧ b ≠ Byte.dot ∧ isExponentLetter b = false := by
  simp [EndsNumber]

theorem EndsNumber.not_digit {rest : List UInt8} (h : EndsNumber rest) :
    startsWithDigit rest = false := by
  cases rest with
  | nil => rfl
  | cons b rest =>
    have hb := (h b rfl).1
    simp [startsWithDigit, hb]

theorem digit?_of_isDigit {c : Char} (h : c.isDigit = true) :
    digit? (UInt8.ofNat c.toNat) = some (c.toNat - 48) := by
  obtain ⟨hlow, hhigh⟩ := Char.isDigit_iff_toNat.mp h
  have hvalue := toNat_ofNat_of_lt (n := c.toNat) (Nat.lt_of_le_of_lt hhigh (by decide))
  unfold digit?
  rw [if_pos, hvalue]
  rw [UInt8.le_iff_toNat_le, UInt8.le_iff_toNat_le, hvalue]
  exact ⟨hlow, hhigh⟩

/-- The value of digits is not less than what it began with. -/
theorem le_ofDigitChars (cs : List Char) (n : Nat) : n ≤ Nat.ofDigitChars 10 cs n := by
  induction cs generalizing n with
  | nil => simp
  | cons c cs ih =>
    rw [Nat.ofDigitChars_cons]
    have := ih (10 * n + (c.toNat - '0'.toNat))
    omega

/-- Digits that fit are all counted in. -/
theorem takeDigits_digits {cs : List Char} (hdigits : ∀ c ∈ cs, c.isDigit = true) {n : Nat}
    (hfits : Nat.ofDigitChars 10 cs n < 0x10000000000000000) {rest : List UInt8}
    (hrest : EndsNumber rest) (count : Nat) :
    takeDigits n count ((cs.map fun c => UInt8.ofNat c.toNat) ++ rest) =
      (Nat.ofDigitChars 10 cs n, count + cs.length, rest) := by
  induction cs generalizing n count with
  | nil =>
    cases rest with
    | nil => simp [takeDigits]
    | cons b rest =>
      have hb := (hrest b rfl).1
      simp [takeDigits, hb]
  | cons c cs ih =>
    have hc := digit?_of_isDigit (hdigits c (by simp))
    rw [Nat.ofDigitChars_cons, Nat.mul_comm] at hfits
    have hnow := le_ofDigitChars cs (n * 10 + (c.toNat - '0'.toNat))
    have hsmall : ¬ 0x10000000000000000 ≤ n * 10 + (c.toNat - 48) :=
      Nat.not_le.mpr (Nat.lt_of_le_of_lt hnow hfits)
    have hnext := ih (fun x hx => hdigits x (by simp [hx])) hfits (count + 1)
    simp only [List.map_cons, List.cons_append, takeDigits, hc, hsmall, if_false]
    refine hnext.trans ?_
    rw [Nat.ofDigitChars_cons, Nat.mul_comm 10 n, List.length_cons, Nat.add_right_comm]
    rfl

/-- No number but zero starts with a zero. -/
theorem decimal_eq_cons {n : Nat} (h : 0 < n) :
    ∃ c cs, Text.decimal n = c :: cs ∧ c.isDigit = true ∧ c.toNat - 48 ≠ 0 := by
  unfold Text.decimal
  induction n using Nat.strongRecOn with
  | ind n ih =>
    by_cases hn : n < 10
    · refine ⟨Nat.digitChar n, [], Nat.toDigits_of_lt_base hn, ?_, ?_⟩
      · exact Nat.isDigit_of_mem_toDigits (b := 10) (n := n) (by decide) (by decide)
          (by simp [Nat.toDigits_of_lt_base hn])
      · rw [Nat.toNat_digitChar_sub_48_of_lt_ten hn]
        omega
    · obtain ⟨c, cs, htens, hdigit, hne⟩ := ih (n / 10) (by omega) (by omega)
      rw [Nat.toDigits_of_base_le (by decide) (Nat.le_of_not_lt hn), htens]
      exact ⟨c, _, rfl, hdigit, hne⟩

theorem encode_decimal (n : Nat) :
    encode (Text.decimal n) = (Text.decimal n).map fun c => UInt8.ofNat c.toNat := by
  refine encode_of_ascii fun c hc => ?_
  have hdigit := Nat.isDigit_of_mem_toDigits (by decide) (by decide) hc
  exact Nat.lt_of_le_of_lt (Char.isDigit_iff_toNat.mp hdigit).2 (by decide)

/-- Digits without a sign are read up to the end of the number. -/
theorem readUnsigned_decimal {n : Nat} (h : n < 0x10000000000000000) (negative : Bool)
    {rest : List UInt8} (hrest : EndsNumber rest) :
    readUnsigned negative (encode (Text.decimal n) ++ rest) =
      readAfterWhole negative n 0 rest := by
  rw [encode_decimal]
  rcases Nat.eq_zero_or_pos n with rfl | hpos
  · have hzero : digit? 0x30 = some 0 := by decide
    have hbytes : ((Text.decimal 0).map fun c => UInt8.ofNat c.toNat) ++ rest = 0x30 :: rest := rfl
    rw [hbytes]
    simp [readUnsigned, hzero, hrest.not_digit]
  · obtain ⟨c, cs, hcs, hdigit, hne⟩ := decimal_eq_cons hpos
    have hdigits : ∀ x ∈ cs, x.isDigit = true := fun x hx =>
      Nat.isDigit_of_mem_toDigits (b := 10) (n := n) (by decide) (by decide)
        (by rw [← Text.decimal, hcs]; exact List.mem_cons_of_mem _ hx)
    have hvalue : Nat.ofDigitChars 10 cs (c.toNat - 48) = n := by
      have hall : Nat.ofDigitChars 10 (Text.decimal n) 0 = n := Nat.ofDigitChars_ten_toDigits
      rw [hcs, Nat.ofDigitChars_cons] at hall
      simpa using hall
    have htake := takeDigits_digits hdigits (n := c.toNat - 48) (by omega) hrest 0
    rw [hvalue] at htake
    rw [hcs, List.map_cons, List.cons_append, readUnsigned, digit?_of_isDigit hdigit]
    generalize hd : c.toNat - 48 = d at *
    cases d with
    | zero => exact absurd rfl hne
    | succ d => simp [htake, hrest.not_digit]

/-- A whole number of sixty-four bits, with or without a sign. -/
def Number.Fits : Number → Prop
  | .integer i => -0x8000000000000000 ≤ i ∧ i < 0x10000000000000000
  | .real _ => False

theorem readAfterWhole_of_endsNumber {rest : List UInt8} (hrest : EndsNumber rest) {n : Nat} :
    readAfterWhole false n 0 rest = .ok (.integer n, rest) ∧
      (0 < n → n ≤ 0x8000000000000000 →
        readAfterWhole true n 0 rest = .ok (.integer (-n), rest)) := by
  unfold readAfterWhole
  cases rest with
  | nil =>
    refine ⟨by simp, fun hpos hle => ?_⟩
    have hnot : ¬ (n = 0 ∨ 0x8000000000000000 < n) := by omega
    simp [hnot]
  | cons b rest =>
    obtain ⟨-, hdot, hletter⟩ := hrest b rfl
    refine ⟨by simp [hdot, hletter], fun hpos hle => ?_⟩
    have hnot : ¬ (n = 0 ∨ 0x8000000000000000 < n) := by omega
    simp [hdot, hletter, hnot]

/-- A number starts with a digit, or with a sign before the digits of another. -/
theorem encode_decimal_cons (n : Nat) :
    ∃ b bs, encode (Text.decimal n) = b :: bs ∧ (digit? b).isSome = true := by
  cases hcs : Text.decimal n with
  | nil => exact absurd hcs Nat.toDigits_ne_nil
  | cons c cs =>
    have hdigit : c.isDigit = true :=
      Nat.isDigit_of_mem_toDigits (b := 10) (n := n) (by decide) (by decide)
        (by rw [← Text.decimal, hcs]; exact List.mem_cons_self)
    have hbytes := encode_decimal n
    rw [hcs, List.map_cons] at hbytes
    refine ⟨_, _, hbytes, ?_⟩
    rw [digit?_of_isDigit hdigit]
    rfl

theorem encode_write_cons {x : Number} (h : x.Fits) :
    ∃ b bs, encode x.write = b :: bs ∧ startsNumber b = true := by
  match x, h with
  | .integer (.ofNat n), _ =>
    obtain ⟨b, bs, hbytes, hdigit⟩ := encode_decimal_cons n
    exact ⟨b, bs, hbytes, by simp [startsNumber, hdigit]⟩
  | .integer (.negSucc n), _ => exact ⟨Byte.minus, _, rfl, rfl⟩

/-- What fits is read back. -/
theorem readNumber_write {x : Number} (h : x.Fits) {rest : List UInt8} (hrest : EndsNumber rest) :
    readNumber (encode x.write ++ rest) = .ok (x, rest) := by
  match x, h with
  | .integer (.ofNat n), ⟨_, hhigh⟩ =>
    have hn : n < 0x10000000000000000 := Int.ofNat_lt.mp hhigh
    obtain ⟨b, bs, hbytes, hdigit⟩ := encode_decimal_cons n
    have hminus : b ≠ Byte.minus := by
      rintro rfl
      exact absurd hdigit (by decide)
    have hread := readUnsigned_decimal hn false hrest
    rw [(readAfterWhole_of_endsNumber hrest).1, hbytes] at hread
    have hwrite : encode (Number.integer (.ofNat n)).write = b :: bs := hbytes
    rw [hwrite, List.cons_append, readNumber, if_neg hminus]
    exact hread
  | .integer (.negSucc n), ⟨hlow, _⟩ =>
    have hn : n + 1 ≤ 0x8000000000000000 := by omega
    have hread := readUnsigned_decimal (n := n + 1) (by omega) true hrest
    rw [(readAfterWhole_of_endsNumber hrest).2 (Nat.succ_pos n) hn] at hread
    have hwrite : encode (Number.integer (.negSucc n)).write ++ rest =
        Byte.minus :: (encode (Text.decimal (n + 1)) ++ rest) := rfl
    rw [hwrite, readNumber, if_pos rfl]
    exact hread

/-! ### What is read as a whole number

Only a number without a point and an exponent is read as one, and only as long as it fits. -/

/-- The number is a double. -/
def Number.IsReal : Number → Prop
  | .integer _ => False
  | .real _ => True

theorem finishReal_isReal {negative : Bool} {n : Nat} {power : Int} {bs rest : List UInt8}
    {x : Number} (h : finishReal negative n power bs = .ok (x, rest)) : x.IsReal := by
  unfold finishReal at h
  split at h
  · obtain ⟨rfl, -⟩ := Prod.mk.inj (Except.ok.inj h)
    trivial
  · cases h

theorem readExponent_isReal {negative : Bool} {n : Nat} {power : Int} {bs rest : List UInt8}
    {x : Number} (h : readExponent negative n power bs = .ok (x, rest)) : x.IsReal := by
  unfold readExponent at h
  dsimp only at h
  split at h
  · cases h
  · split at h
    · cases h
    · split at h
      · exact finishReal_isReal h
      · split at h
        · cases h
        · obtain ⟨rfl, -⟩ := Prod.mk.inj (Except.ok.inj h)
          trivial

theorem readExponentOrEnd_isReal {negative : Bool} {n : Nat} {power : Int} {bs rest : List UInt8}
    {x : Number} (h : readExponentOrEnd negative n power bs = .ok (x, rest)) : x.IsReal := by
  unfold readExponentOrEnd at h
  split at h
  · split at h
    · exact readExponent_isReal h
    · exact finishReal_isReal h
  · exact finishReal_isReal h

theorem readDecimals_isReal {negative : Bool} {n : Nat} {power : Int} {bs rest : List UInt8}
    {x : Number} (h : readDecimals negative n power bs = .ok (x, rest)) : x.IsReal := by
  unfold readDecimals at h
  dsimp only at h
  split at h
  · exact readExponentOrEnd_isReal h
  · split at h
    · split at h
      · cases h
      · cases h
    · exact readExponentOrEnd_isReal h

theorem takeDigits_lt {n : Nat} (h : n < 0x10000000000000000) (count : Nat) (bs : List UInt8) :
    (takeDigits n count bs).1 < 0x10000000000000000 := by
  induction bs generalizing n count with
  | nil => exact h
  | cons b bs ih =>
    unfold takeDigits
    split
    · exact h
    · split
      · exact h
      · exact ih (by omega) _

theorem readAfterWhole_fits {negative : Bool} {n power : Nat} (hn : n < 0x10000000000000000)
    {bs rest : List UInt8} {i : Int}
    (h : readAfterWhole negative n power bs = .ok (.integer i, rest)) :
    (Number.integer i).Fits := by
  have hreal : ∀ {x : Except Fault (Number × List UInt8)},
      (∀ y rest, x = .ok (y, rest) → y.IsReal) → x ≠ .ok (.integer i, rest) :=
    fun hx heq => hx _ _ heq
  have hwhole : ∀ bs, (if power ≠ 0 then finishReal negative n power bs
      else if !negative then .ok (.integer n, bs)
      else if n = 0 || 0x8000000000000000 < n then .ok (withSign true (Binary64.ofNat n), bs)
      else .ok (.integer (-n), bs)) = .ok (.integer i, rest) → (Number.integer i).Fits := by
    intro bs hbs
    split at hbs
    · exact absurd hbs (hreal fun _ _ => finishReal_isReal)
    · split at hbs
      · cases hbs
        exact ⟨by omega, by omega⟩
      · split at hbs
        · cases hbs
        · rename_i hsmall
          simp only [Bool.or_eq_true, decide_eq_true_eq, not_or] at hsmall
          cases hbs
          exact ⟨by omega, by omega⟩
  unfold readAfterWhole at h
  dsimp only at h
  split at h
  · split at h
    · exact absurd h (hreal fun _ _ => readDecimals_isReal)
    · split at h
      · exact absurd h (hreal fun _ _ => readExponent_isReal)
      · exact hwhole _ h
  · exact hwhole _ h

theorem digit?_le {b : UInt8} {d : Nat} (h : digit? b = some d) : d ≤ 9 := by
  unfold digit? at h
  split at h
  · rename_i hb
    have hle := UInt8.le_iff_toNat_le.mp hb.2
    rw [Option.some.injEq] at h
    simp only [UInt8.reduceToNat] at hle
    omega
  · cases h

theorem readUnsigned_fits {negative : Bool} {bs rest : List UInt8} {i : Int}
    (h : readUnsigned negative bs = .ok (.integer i, rest)) : (Number.integer i).Fits := by
  cases bs with
  | nil => cases h
  | cons b bs =>
    cases hdigit : digit? b with
    | none =>
      simp only [readUnsigned, hdigit] at h
      cases h
    | some d =>
      have hd := digit?_le hdigit
      have hlt := takeDigits_lt (n := d) (by omega) 0 bs
      cases d with
      | zero =>
        simp only [readUnsigned, hdigit] at h
        split at h
        · cases h
        · exact readAfterWhole_fits (by decide) h
      | succ d =>
        simp only [readUnsigned, hdigit] at h
        split at h
        · exact readAfterWhole_fits hlt h
        · exact readAfterWhole_fits hlt h

/-- What is read as a whole number fits. -/
theorem readNumber_fits {bs rest : List UInt8} {i : Int}
    (h : readNumber bs = .ok (.integer i, rest)) : (Number.integer i).Fits := by
  unfold readNumber at h
  split at h
  · split at h
    · exact readUnsigned_fits h
    · exact readUnsigned_fits h
  · cases h

end Dialogue.Json
