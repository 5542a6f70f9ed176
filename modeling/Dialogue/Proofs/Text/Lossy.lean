/-
What unreadable bytes are read as.

Bytes from which no character can be told are replaced piece by piece, each piece by one U+FFFD,
and there is one rule for where such a piece ends: it is as long as the longest beginning of a
character that stands there, and a single byte if not even the first can begin one (`Broken`).
The rule speaks of characters and their bytes and of nothing else; `Lossy` says of bytes and a
text that the text follows it.  What is shown here is that `lossyChars` follows the rule and that
no other text does.

So `front`, which decides by ranges of bytes, has to be turned around: what it calls a character
is the encoding of that character, what it calls unfinished can be completed to one, and what it
calls broken can not be, nor can any bytes behind it make up for it.
-/
import Dialogue.Proofs.Text.Encoding
import Dialogue.Proofs.Text.Utf8

namespace Dialogue.Text.Utf8

/-! ### First bytes -/

/-- The first bytes of two, of three and of four. -/
theorem lead?_cases {b : UInt8} {l : Lead} (h : lead? b = some l) :
    (0xC2 ≤ b.toNat ∧ b.toNat ≤ 0xDF ∧ l = ⟨1, 0x80, 0xBF⟩) ∨
      (0xE0 ≤ b.toNat ∧ b.toNat ≤ 0xEF ∧ l = ⟨2, if b.toNat = 0xE0 then 0xA0 else 0x80,
        if b.toNat = 0xED then 0x9F else 0xBF⟩) ∨
      (0xF0 ≤ b.toNat ∧ b.toNat ≤ 0xF4 ∧ l = ⟨3, if b.toNat = 0xF0 then 0x90 else 0x80,
        if b.toNat = 0xF4 then 0x8F else 0xBF⟩) := by
  by_cases htwo : 0xC2 ≤ b.toNat ∧ b.toNat ≤ 0xDF
  · rw [lead?_two htwo.1 htwo.2, Option.some.injEq] at h
    exact Or.inl ⟨htwo.1, htwo.2, h.symm⟩
  by_cases hthree : 0xE0 ≤ b.toNat ∧ b.toNat ≤ 0xEF
  · rw [lead?_three hthree.1 hthree.2, Option.some.injEq] at h
    exact Or.inr (Or.inl ⟨hthree.1, hthree.2, h.symm⟩)
  by_cases hfour : 0xF0 ≤ b.toNat ∧ b.toNat ≤ 0xF4
  · rw [lead?_four hfour.1 hfour.2, Option.some.injEq] at h
    exact Or.inr (Or.inr ⟨hfour.1, hfour.2, h.symm⟩)
  · unfold lead? at h
    simp only [UInt8.le_iff_toNat_le, ← UInt8.toNat_inj, UInt8.reduceToNat] at h
    split_ifs at h <;> omega

theorem toNat_ite (p : Prop) [Decidable p] (x y : UInt8) :
    (if p then x else y).toNat = if p then x.toNat else y.toNat := apply_ite UInt8.toNat p x y

/-- What a second byte has to be: its range keeps out what fewer bytes can say, surrogates and
what no character is. -/
theorem second_of_lead? {b b1 : UInt8} {l : Lead} (hl : lead? b = some l)
    (h1 : l.low ≤ b1 ∧ b1 ≤ l.high) :
    0x80 ≤ b1.toNat ∧ b1.toNat ≤ 0xBF ∧
      (l.more = 1 ∧ 0xC2 ≤ b.toNat ∧ b.toNat ≤ 0xDF ∨
        l.more = 2 ∧ 0xE0 ≤ b.toNat ∧ b.toNat ≤ 0xEF ∧ (b.toNat = 0xE0 → 0xA0 ≤ b1.toNat) ∧
          (b.toNat = 0xED → b1.toNat ≤ 0x9F) ∨
        l.more = 3 ∧ 0xF0 ≤ b.toNat ∧ b.toNat ≤ 0xF4 ∧ (b.toNat = 0xF0 → 0x90 ≤ b1.toNat) ∧
          (b.toNat = 0xF4 → b1.toNat ≤ 0x8F)) := by
  rw [UInt8.le_iff_toNat_le, UInt8.le_iff_toNat_le] at h1
  rcases lead?_cases hl with ⟨low, high, rfl⟩ | ⟨low, high, rfl⟩ | ⟨low, high, rfl⟩
  · simp only [UInt8.reduceToNat] at h1
    exact ⟨h1.1, h1.2, Or.inl ⟨rfl, low, high⟩⟩
  · simp only [toNat_ite, UInt8.reduceToNat] at h1
    have hrange : 0x80 ≤ b1.toNat ∧ b1.toNat ≤ 0xBF ∧ (b.toNat = 0xE0 → 0xA0 ≤ b1.toNat) ∧
        (b.toNat = 0xED → b1.toNat ≤ 0x9F) := by
      split at h1 <;> split at h1 <;> omega
    exact ⟨hrange.1, hrange.2.1, Or.inr (Or.inl ⟨rfl, low, high, hrange.2.2⟩)⟩
  · simp only [toNat_ite, UInt8.reduceToNat] at h1
    have hrange : 0x80 ≤ b1.toNat ∧ b1.toNat ≤ 0xBF ∧ (b.toNat = 0xF0 → 0x90 ≤ b1.toNat) ∧
        (b.toNat = 0xF4 → b1.toNat ≤ 0x8F) := by
      split at h1 <;> split at h1 <;> omega
    exact ⟨hrange.1, hrange.2.1, Or.inr (Or.inr ⟨rfl, low, high, hrange.2.2⟩)⟩

/-- Some byte is in the range of the second. -/
theorem low_le_high_of_lead? {b : UInt8} {l : Lead} (hl : lead? b = some l) : l.low ≤ l.high := by
  rw [UInt8.le_iff_toNat_le]
  rcases lead?_cases hl with ⟨-, -, rfl⟩ | ⟨-, -, rfl⟩ | ⟨-, -, rfl⟩
  · decide
  all_goals
    simp only [toNat_ite, UInt8.reduceToNat]
    split <;> split <;> omega

theorem toNat_of_isTail {b : UInt8} (h : isTail b = true) : 0x80 ≤ b.toNat ∧ b.toNat ≤ 0xBF := by
  obtain ⟨hlow, hhigh⟩ := of_decide_eq_true h
  exact ⟨UInt8.le_iff_toNat_le.mp hlow, UInt8.le_iff_toNat_le.mp hhigh⟩

/-! ### The bytes of a character, from its number -/

section

variable {b b1 b2 b3 : UInt8} {l : Lead} {n : Nat}

theorem toNat_ofNat_of_valid (h : n.isValidChar) : (Char.ofNat n).val.toNat = n := by
  rw [Char.ofNat, dif_pos h]
  rfl

theorem ofNat_eq (h : n = b.toNat) : UInt8.ofNat n = b := by rw [h, UInt8.ofNat_toNat]

theorem encodeChar_one (high : b.toNat < 0x80) :
    String.utf8EncodeChar (Char.ofNat b.toNat) = [b] := by
  have hv := toNat_ofNat_of_valid (n := b.toNat) (Or.inl (by omega))
  unfold String.utf8EncodeChar
  simp only [hv]
  rw [if_pos (by omega), UInt8.ofNat_toNat]

theorem encodeChar_two (hl : lead? b = some l) (h1 : l.low ≤ b1 ∧ b1 ≤ l.high)
    (hone : l.more = 1) :
    String.utf8EncodeChar (Char.ofNat (b.toNat % 32 * 64 + low6 b1)) = [b, b1] := by
  have hsecond := second_of_lead? hl h1
  rw [low6]
  generalize hn : b.toNat % 32 * 64 + b1.toNat % 64 = n
  have hv := toNat_ofNat_of_valid (n := n) (Or.inl (by omega))
  unfold String.utf8EncodeChar
  simp only [hv]
  rw [if_neg (by omega), if_pos (by omega), ofNat_eq (b := b) (by omega),
    ofNat_eq (b := b1) (by omega)]

theorem encodeChar_three (hl : lead? b = some l) (h1 : l.low ≤ b1 ∧ b1 ≤ l.high)
    (h2 : isTail b2 = true) (htwo : l.more = 2) :
    String.utf8EncodeChar (Char.ofNat (b.toNat % 16 * 4096 + low6 b1 * 64 + low6 b2)) =
      [b, b1, b2] := by
  have hsecond := second_of_lead? hl h1
  have hthird := toNat_of_isTail h2
  rw [low6, low6]
  generalize hn : b.toNat % 16 * 4096 + b1.toNat % 64 * 64 + b2.toNat % 64 = n
  have hvalid : n.isValidChar := by
    unfold Nat.isValidChar
    omega
  have hv := toNat_ofNat_of_valid hvalid
  unfold String.utf8EncodeChar
  simp only [hv]
  rw [if_neg (by omega), if_neg (by omega), if_pos (by omega), ofNat_eq (b := b) (by omega),
    ofNat_eq (b := b1) (by omega), ofNat_eq (b := b2) (by omega)]

theorem encodeChar_four (hl : lead? b = some l) (h1 : l.low ≤ b1 ∧ b1 ≤ l.high)
    (h2 : isTail b2 = true) (h3 : isTail b3 = true) (hmore : l.more ≠ 1 ∧ l.more ≠ 2) :
    String.utf8EncodeChar (Char.ofNat
      (b.toNat % 8 * 262144 + low6 b1 * 4096 + low6 b2 * 64 + low6 b3)) = [b, b1, b2, b3] := by
  have hsecond := second_of_lead? hl h1
  have hthird := toNat_of_isTail h2
  have hfourth := toNat_of_isTail h3
  rw [low6, low6, low6]
  generalize hn :
    b.toNat % 8 * 262144 + b1.toNat % 64 * 4096 + b2.toNat % 64 * 64 + b3.toNat % 64 = n
  have hv := toNat_ofNat_of_valid (n := n) (Or.inr (by omega))
  unfold String.utf8EncodeChar
  simp only [hv]
  rw [if_neg (by omega), if_neg (by omega), if_neg (by omega), ofNat_eq (b := b) (by omega),
    ofNat_eq (b := b1) (by omega), ofNat_eq (b := b2) (by omega), ofNat_eq (b := b3) (by omega)]

end

/-! ### What stands behind a first byte -/

/-- The ways in which reading behind a first byte can go: the character is there, or the bytes
end before it does, or one of them does not belong to it. -/
inductive Long (b : UInt8) (l : Lead) : List UInt8 → Front → Prop
  | two {b1 rest} (h1 : l.low ≤ b1 ∧ b1 ≤ l.high) (hl : l.more = 1) :
      Long b l (b1 :: rest) (.char (Char.ofNat (b.toNat % 32 * 64 + low6 b1)) rest)
  | three {b1 b2 rest} (h1 : l.low ≤ b1 ∧ b1 ≤ l.high) (h2 : isTail b2 = true) (hl : l.more = 2) :
      Long b l (b1 :: b2 :: rest)
        (.char (Char.ofNat (b.toNat % 16 * 4096 + low6 b1 * 64 + low6 b2)) rest)
  | four {b1 b2 b3 rest} (h1 : l.low ≤ b1 ∧ b1 ≤ l.high) (h2 : isTail b2 = true)
      (h3 : isTail b3 = true) (hl : l.more ≠ 1 ∧ l.more ≠ 2) :
      Long b l (b1 :: b2 :: b3 :: rest) (.char (Char.ofNat
        (b.toNat % 8 * 262144 + low6 b1 * 4096 + low6 b2 * 64 + low6 b3)) rest)
  | endsAtOnce : Long b l [] .unfinished
  | endsSecond {b1} (h1 : l.low ≤ b1 ∧ b1 ≤ l.high) (hl : l.more ≠ 1) : Long b l [b1] .unfinished
  | endsThird {b1 b2} (h1 : l.low ≤ b1 ∧ b1 ≤ l.high) (h2 : isTail b2 = true)
      (hl : l.more ≠ 1 ∧ l.more ≠ 2) : Long b l [b1, b2] .unfinished
  | spoilsSecond {b1 rest} (h1 : ¬ (l.low ≤ b1 ∧ b1 ≤ l.high)) :
      Long b l (b1 :: rest) (.broken (b1 :: rest))
  | spoilsThird {b1 b2 rest} (h1 : l.low ≤ b1 ∧ b1 ≤ l.high) (h2 : isTail b2 = false)
      (hl : l.more ≠ 1) : Long b l (b1 :: b2 :: rest) (.broken (b2 :: rest))
  | spoilsFourth {b1 b2 b3 rest} (h1 : l.low ≤ b1 ∧ b1 ≤ l.high) (h2 : isTail b2 = true)
      (h3 : isTail b3 = false) (hl : l.more ≠ 1 ∧ l.more ≠ 2) :
      Long b l (b1 :: b2 :: b3 :: rest) (.broken (b3 :: rest))

theorem long_frontLong (b : UInt8) (l : Lead) (bs : List UInt8) :
    Long b l bs (frontLong b l bs) := by
  rcases bs with _ | ⟨b1, bs⟩
  · exact .endsAtOnce
  by_cases h1 : l.low ≤ b1 ∧ b1 ≤ l.high
  swap
  · simp only [frontLong, h1, if_false]
    exact .spoilsSecond h1
  by_cases hone : l.more = 1
  · simp only [frontLong, h1, and_self, if_true, hone]
    exact .two h1 hone
  rcases bs with _ | ⟨b2, bs⟩
  · simp only [frontLong, h1, and_self, if_true, hone, if_false]
    exact .endsSecond h1 hone
  cases h2 : isTail b2 with
  | false =>
    simp only [frontLong, h1, and_self, if_true, hone, if_false, h2, Bool.false_eq_true]
    exact .spoilsThird h1 h2 hone
  | true =>
    by_cases htwo : l.more = 2
    · simp only [frontLong, h1, and_self, if_true, h2, htwo]
      exact .three h1 h2 htwo
    rcases bs with _ | ⟨b3, bs⟩
    · simp only [frontLong, h1, and_self, if_true, hone, if_false, h2, htwo]
      exact .endsThird h1 h2 ⟨hone, htwo⟩
    cases h3 : isTail b3 with
    | false =>
      simp only [frontLong, h1, and_self, if_true, hone, if_false, h2, htwo, h3, Bool.false_eq_true]
      exact .spoilsFourth h1 h2 h3 ⟨hone, htwo⟩
    | true =>
      simp only [frontLong, h1, and_self, if_true, hone, if_false, h2, htwo, h3]
      exact .four h1 h2 h3 ⟨hone, htwo⟩

/-- What the first byte decides, whatever stands behind it: that it is a character, that it is
broken, or how many bytes are to follow. -/
theorem front_cons_cases (b : UInt8) :
    (b < 0x80 ∧ ∀ bs, front (b :: bs) = .char (Char.ofNat b.toNat) bs) ∨
      (∀ bs, front (b :: bs) = .broken bs) ∨
      ∃ l, lead? b = some l ∧ ∀ bs, front (b :: bs) = frontLong b l bs := by
  by_cases hb : b < 0x80
  · exact Or.inl ⟨hb, fun bs => by simp [front, hb]⟩
  cases hl : lead? b with
  | none => exact Or.inr (Or.inl fun bs => by simp [front, hb, hl])
  | some l => exact Or.inr (Or.inr ⟨l, rfl, fun bs => by simp [front, hb, hl]⟩)

/-! ### Characters -/

/-- What is found to be a character is the encoding of that character. -/
theorem eq_encodeChar_of_front {bs rest : List UInt8} {c : Char} (h : front bs = .char c rest) :
    bs = String.utf8EncodeChar c ++ rest := by
  cases bs with
  | nil => exact absurd h (by simp [front])
  | cons b bs =>
    rcases front_cons_cases b with ⟨hb, hfront⟩ | hfront | ⟨l, hl, hfront⟩ <;> rw [hfront] at h
    · obtain ⟨rfl, rfl⟩ := Front.char.inj h
      rw [encodeChar_one (UInt8.lt_iff_toNat_lt.mp hb)]
      rfl
    · exact absurd h (by simp)
    · have hlong := long_frontLong b l bs
      rw [h] at hlong
      cases hlong with
      | two h1 hone =>
        rw [encodeChar_two hl h1 hone]
        rfl
      | three h1 h2 htwo =>
        rw [encodeChar_three hl h1 h2 htwo]
        rfl
      | four h1 h2 h3 hmore =>
        rw [encodeChar_four hl h1 h2 h3 hmore]
        rfl

/-- Bytes that read as a text are the encoding of that text. -/
theorem strict?_eq_some_iff {bs : List UInt8} {s : String} :
    strict? bs = some s ↔ bs = encode s.toList := by
  refine ⟨fun h => ?_, fun h => by rw [h, strict?_encode]⟩
  have hchars : ∀ bs cs, strictChars? bs = some cs → bs = encode cs := by
    intro bs
    induction bs using strictChars?.induct with
    | case1 bs hfront =>
      intro cs h
      rw [front_eq_empty_iff] at hfront
      rw [hfront, strictChars?] at h
      rw [hfront, ← Option.some.inj h]
      rfl
    | case2 bs c rest hfront ih =>
      intro cs h
      rw [strictChars?_of_char hfront, Option.map_eq_some_iff] at h
      obtain ⟨more, hmore, rfl⟩ := h
      rw [encode_cons, ← ih more hmore]
      exact eq_encodeChar_of_front hfront
    | case3 bs rest hfront =>
      intro cs h
      rw [strictChars?] at h
      split at h <;> simp_all
    | case4 bs hfront =>
      intro cs h
      rw [strictChars?] at h
      split at h <;> simp_all
  rw [strict?, Option.map_eq_some_iff] at h
  obtain ⟨cs, hcs, rfl⟩ := h
  rw [String.toList_ofList]
  exact hchars bs cs hcs

/-! ### Beginnings of characters -/

/-- Bytes with which a character begins, but does not end. -/
def Begins (p : List UInt8) : Prop :=
  p ≠ [] ∧ ∃ c more, more ≠ [] ∧ String.utf8EncodeChar c = p ++ more

/-- A character has at most four bytes. -/
theorem Begins.length_le {p : List UInt8} (h : Begins p) : p.length ≤ 3 := by
  obtain ⟨-, c, more, hmore, hc⟩ := h
  have hlength : (p ++ more).length ≤ 4 := by
    rw [← hc, String.length_utf8EncodeChar]
    exact c.utf8Size_le_four
  have hpos := List.length_pos_iff.mpr hmore
  rw [List.length_append] at hlength
  omega

/-- What is found to be unfinished is the beginning of a character. -/
theorem begins_of_front {bs : List UInt8} (h : front bs = .unfinished) : Begins bs := by
  cases bs with
  | nil => exact absurd h (by simp [front])
  | cons b bs =>
    refine ⟨List.cons_ne_nil b bs, ?_⟩
    rcases front_cons_cases b with ⟨-, hfront⟩ | hfront | ⟨l, hl, hfront⟩ <;> rw [hfront] at h
    · exact absurd h (by simp)
    · exact absurd h (by simp)
    · have htail : isTail 0x80 = true := by decide
      have hlow : l.low ≤ l.low ∧ l.low ≤ l.high := ⟨UInt8.le_refl _, low_le_high_of_lead? hl⟩
      have hlong := long_frontLong b l bs
      rw [h] at hlong
      cases hlong with
      | endsAtOnce =>
        by_cases hone : l.more = 1
        · exact ⟨_, [l.low], by simp, encodeChar_two hl hlow hone⟩
        by_cases htwo : l.more = 2
        · exact ⟨_, [l.low, 0x80], by simp, encodeChar_three hl hlow htail htwo⟩
        · exact ⟨_, [l.low, 0x80, 0x80], by simp,
            encodeChar_four hl hlow htail htail ⟨hone, htwo⟩⟩
      | endsSecond h1 hone =>
        by_cases htwo : l.more = 2
        · exact ⟨_, [0x80], by simp, encodeChar_three hl h1 htail htwo⟩
        · exact ⟨_, [0x80, 0x80], by simp, encodeChar_four hl h1 htail htail ⟨hone, htwo⟩⟩
      | endsThird h1 h2 hmore =>
        exact ⟨_, [0x80], by simp, encodeChar_four hl h1 h2 htail hmore⟩

/-! ### Where no character can be told -/

/-- No character stands at the front of `bad ++ rest`, and `bad` is all of it that one U+FFFD
stands for. -/
structure Broken (bad rest : List UInt8) : Prop where
  no_char : ∀ c more, String.utf8EncodeChar c ++ more ≠ bad ++ rest
  /-- It is the beginning of a character, or a single byte. -/
  kind : Begins bad ∨ bad.length = 1
  /-- No beginning of a character is longer there. -/
  longest : ∀ p more, Begins p → p ++ more = bad ++ rest → p.length ≤ bad.length

theorem Broken.ne_nil {bad rest : List UInt8} (h : Broken bad rest) : bad ≠ [] := by
  rintro rfl
  rcases h.kind with hbegins | hlength
  · exact hbegins.1 rfl
  · exact absurd hlength (by simp)

/-- Bytes that end too early are one piece. -/
theorem broken_of_unfinished {bs : List UInt8} (h : front bs = .unfinished) : Broken bs [] := by
  refine ⟨?_, Or.inl (begins_of_front h), ?_⟩
  · intro c more hc
    rw [List.append_nil] at hc
    rw [← hc, front_encodeChar] at h
    exact absurd h (by simp)
  · intro p more _ hp
    have hlength := congrArg List.length hp
    simp only [List.length_append, List.length_nil] at hlength
    omega

/-- The byte that spoils a character spoils it whatever comes behind it. -/
theorem exists_bad_of_front {bs rest : List UInt8} (h : front bs = .broken rest) :
    ∃ bad, bs = bad ++ rest ∧ (Begins bad ∨ bad.length = 1) ∧
      ∀ b behind, rest = b :: behind → front (bad ++ [b]) = .broken [b] := by
  cases bs with
  | nil => exact absurd h (by simp [front])
  | cons b bs =>
    rcases front_cons_cases b with ⟨-, hfront⟩ | hfront | ⟨l, hl, hfront⟩ <;> rw [hfront] at h
    · exact absurd h (by simp)
    · obtain rfl := Front.broken.inj h
      exact ⟨[b], rfl, Or.inr rfl, fun b1 _ _ => hfront [b1]⟩
    · have hlong := long_frontLong b l bs
      rw [h] at hlong
      cases hlong with
      | @spoilsSecond b1 behind h1 =>
        refine ⟨[b], rfl, Or.inr rfl, ?_⟩
        rintro _ _ ⟨rfl, rfl⟩
        rw [List.singleton_append, hfront]
        simp [frontLong, h1]
      | @spoilsThird b1 b2 behind h1 h2 hone =>
        have hbegins : front [b, b1] = .unfinished := by
          rw [hfront]
          simp [frontLong, h1, hone]
        refine ⟨[b, b1], rfl, Or.inl (begins_of_front hbegins), ?_⟩
        rintro _ _ ⟨rfl, rfl⟩
        rw [List.cons_append, hfront]
        simp [frontLong, h1, hone, h2]
      | @spoilsFourth b1 b2 b3 behind h1 h2 h3 hmore =>
        have hbegins : front [b, b1, b2] = .unfinished := by
          rw [hfront]
          simp [frontLong, h1, hmore.1, hmore.2, h2]
        refine ⟨[b, b1, b2], rfl, Or.inl (begins_of_front hbegins), ?_⟩
        rintro _ _ ⟨rfl, rfl⟩
        rw [List.cons_append, hfront]
        simp [frontLong, h1, hmore.1, hmore.2, h2, h3]

/-- What is found to be broken is what one U+FFFD stands for. -/
theorem broken_of_front {bs rest : List UInt8} (h : front bs = .broken rest) :
    ∃ bad, bs = bad ++ rest ∧ Broken bad rest := by
  obtain ⟨bad, rfl, hkind, hspoils⟩ := exists_bad_of_front h
  refine ⟨bad, rfl, ?_, hkind, ?_⟩
  · intro c more hc
    rw [← hc, front_encodeChar] at h
    exact absurd h (by simp)
  · -- A longer beginning would hold the byte that spoils it.
    intro p more hbegins hp
    obtain ⟨-, c, rest', -, hc⟩ := hbegins
    rcases List.append_eq_append_iff.mp hp with ⟨behind, rfl, -⟩ | ⟨behind, rfl, hrest⟩
    · simp
    · cases behind with
      | nil => simp
      | cons b behind =>
        have hspoiled : front (bad ++ [b]) = .broken [b] := hspoils b _ hrest
        have hne : bad ++ [b] ≠ [] := by simp
        have hlonger := front_append hne (by simp [hspoiled]) (behind ++ rest')
        have hchar := front_encodeChar c []
        rw [hc] at hchar
        rw [hspoiled] at hlonger
        simp only [List.append_assoc, List.cons_append, List.nil_append, List.append_nil]
          at hchar hlonger
        rw [hchar] at hlonger
        exact absurd hlonger (by simp [Front.before])

/-! ### Whole texts -/

/-- The text follows the rule: a character for the bytes of a character, and U+FFFD for each piece
of others. -/
inductive Lossy : List UInt8 → List Char → Prop
  | nil : Lossy [] []
  | char {c : Char} {rest : List UInt8} {cs : List Char} (h : Lossy rest cs) :
      Lossy (String.utf8EncodeChar c ++ rest) (c :: cs)
  | broken {bad rest : List UInt8} {cs : List Char} (hbad : Broken bad rest) (h : Lossy rest cs) :
      Lossy (bad ++ rest) (replacement :: cs)

/-- There is such a text. -/
theorem lossy_lossyChars (bs : List UInt8) : Lossy bs (lossyChars bs) := by
  induction h : bs.length using Nat.strongRecOn generalizing bs with
  | _ n ih =>
    cases hf : front bs with
    | empty =>
      rw [lossyChars_of_empty hf, front_eq_empty_iff.mp hf]
      exact .nil
    | char c rest =>
      rw [lossyChars_of_char hf, eq_encodeChar_of_front hf]
      exact .char (ih rest.length (h ▸ front_char_length hf) rest rfl)
    | broken rest =>
      obtain ⟨bad, hbs, hbad⟩ := broken_of_front hf
      rw [lossyChars_of_broken hf, hbs]
      exact .broken hbad (ih rest.length (h ▸ front_broken_length hf) rest rfl)
    | unfinished =>
      rw [lossyChars_of_unfinished hf, ← List.append_nil bs]
      exact .broken (broken_of_unfinished hf) .nil

/-- Two pieces that start at the same place end at the same place. -/
theorem Broken.length_le {bad rest bad' rest' : List UInt8} (h : Broken bad rest)
    (h' : Broken bad' rest') (heq : bad ++ rest = bad' ++ rest') : bad.length ≤ bad'.length := by
  rcases h.kind with hbegins | hsingle
  · exact h'.longest bad rest hbegins heq
  · have hpos := List.length_pos_iff.mpr h'.ne_nil
    omega

theorem Broken.unique {bad rest bad' rest' : List UInt8} (h : Broken bad rest)
    (h' : Broken bad' rest') (heq : bad ++ rest = bad' ++ rest') : rest = rest' :=
  (List.append_inj heq (Nat.le_antisymm (h.length_le h' heq) (h'.length_le h heq.symm))).2

/-- What remains to be read behind a piece. -/
theorem lossyChars_of_piece {bad rest : List UInt8} (h : Broken bad rest) :
    lossyChars (bad ++ rest) = replacement :: lossyChars rest := by
  cases hf : front (bad ++ rest) with
  | empty =>
    rw [front_eq_empty_iff, List.append_eq_nil_iff] at hf
    exact absurd hf.1 h.ne_nil
  | char c behind => exact absurd (eq_encodeChar_of_front hf).symm (h.no_char c behind)
  | broken behind =>
    obtain ⟨bad', hbs, hbad'⟩ := broken_of_front hf
    rw [lossyChars_of_broken hf, h.unique hbad' hbs]
  | unfinished =>
    have hrest : rest = [] :=
      h.unique (broken_of_unfinished hf) (List.append_nil (bad ++ rest)).symm
    rw [lossyChars_of_unfinished hf, hrest, @lossyChars_of_empty [] rfl]

/-- **Bytes are read by the rule**, and the rule leaves no choice. -/
theorem lossy_iff {bs : List UInt8} {cs : List Char} : Lossy bs cs ↔ cs = lossyChars bs := by
  constructor
  · intro h
    induction h with
    | nil => rw [@lossyChars_of_empty [] rfl]
    | @char c rest cs _ ih => rw [lossyChars_of_char (front_encodeChar c rest), ih]
    | broken hbad _ ih => rw [lossyChars_of_piece hbad, ih]
  · rintro rfl
    exact lossy_lossyChars bs

end Dialogue.Text.Utf8
