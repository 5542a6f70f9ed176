/-
UTF-8, read from bytes that arrive in pieces.

`front` looks at the first character of some bytes and says which of four things stands
there: nothing, a character, bytes that no character starts with, or a beginning that
more bytes could complete.  An ill-formed sequence is as long as the longest beginning
of a character that it holds, so the byte that spoils a character is looked at again.

A decoder keeps an unfinished beginning and puts it before the next piece.  `lossy`
reads all bytes at once, with U+FFFD for each ill-formed sequence and for an unfinished
beginning at the end; `strict?` refuses both.
-/
namespace Dialogue.Text.Utf8

/-- U+FFFD stands for what could not be read. -/
def replacement : Char := '\uFFFD'

/-! ### One character -/

/-- What a first byte asks for: the number of bytes to follow and the range of the first
of them. -/
structure Lead where
  more : Nat
  low : UInt8
  high : UInt8
  deriving Repr, DecidableEq

/-- The first bytes of characters above U+007F.  The ranges keep out overlong forms,
surrogates and code points above U+10FFFF. -/
def lead? (b : UInt8) : Option Lead :=
  if 0xC2 ≤ b ∧ b ≤ 0xDF then some ⟨1, 0x80, 0xBF⟩
  else if b = 0xE0 then some ⟨2, 0xA0, 0xBF⟩
  else if b = 0xED then some ⟨2, 0x80, 0x9F⟩
  else if 0xE1 ≤ b ∧ b ≤ 0xEF then some ⟨2, 0x80, 0xBF⟩
  else if b = 0xF0 then some ⟨3, 0x90, 0xBF⟩
  else if 0xF1 ≤ b ∧ b ≤ 0xF3 then some ⟨3, 0x80, 0xBF⟩
  else if b = 0xF4 then some ⟨3, 0x80, 0x8F⟩
  else none

/-- Can the byte follow the first one of a character? -/
def isTail (b : UInt8) : Bool := 0x80 ≤ b ∧ b ≤ 0xBF

/-- The six low bits of a following byte. -/
def low6 (b : UInt8) : Nat := b.toNat % 64

/-- What stands at the start of some bytes. -/
inductive Front where
  /-- No bytes. -/
  | empty
  /-- A character and what follows it. -/
  | char (c : Char) (rest : List UInt8)
  /-- An ill-formed sequence and what follows it. -/
  | broken (rest : List UInt8)
  /-- All bytes are the beginning of one character. -/
  | unfinished
  deriving Repr, DecidableEq

/-- The character that starts with `b`, for which `l` holds; `bs` are the bytes behind `b`. -/
def frontLong (b : UInt8) (l : Lead) (bs : List UInt8) : Front :=
  match bs with
  | [] => .unfinished
  | b1 :: r1 =>
    if l.low ≤ b1 ∧ b1 ≤ l.high then
      if l.more = 1 then .char (Char.ofNat (b.toNat % 32 * 64 + low6 b1)) r1
      else match r1 with
        | [] => .unfinished
        | b2 :: r2 =>
          if isTail b2 then
            if l.more = 2 then
              .char (Char.ofNat (b.toNat % 16 * 4096 + low6 b1 * 64 + low6 b2)) r2
            else match r2 with
              | [] => .unfinished
              | b3 :: r3 =>
                if isTail b3 then
                  .char (Char.ofNat
                    (b.toNat % 8 * 262144 + low6 b1 * 4096 + low6 b2 * 64 + low6 b3)) r3
                else .broken r2
          else .broken r1
    else .broken bs

/-- Looks at the first character of some bytes. -/
def front : List UInt8 → Front
  | [] => .empty
  | b :: bs =>
    if b < 0x80 then .char (Char.ofNat b.toNat) bs
    else match lead? b with
      | none => .broken bs
      | some l => frontLong b l bs

/-! ### Reading makes progress -/

theorem frontLong_char_length {b : UInt8} {l : Lead} {bs rest : List UInt8} {c : Char}
    (h : frontLong b l bs = .char c rest) : rest.length ≤ bs.length := by
  unfold frontLong at h
  repeat' split at h
  all_goals simp at h
  all_goals grind

theorem frontLong_broken_length {b : UInt8} {l : Lead} {bs rest : List UInt8}
    (h : frontLong b l bs = .broken rest) : rest.length ≤ bs.length := by
  unfold frontLong at h
  repeat' split at h
  all_goals simp at h
  all_goals grind

theorem front_char_length {bs rest : List UInt8} {c : Char} (h : front bs = .char c rest) :
    rest.length < bs.length := by
  cases bs with
  | nil => simp [front] at h
  | cons b bs =>
    simp only [front] at h
    split at h
    · simp only [Front.char.injEq] at h
      simp [← h.2]
    · split at h
      · simp at h
      · have := frontLong_char_length h
        simp; omega

theorem front_broken_length {bs rest : List UInt8} (h : front bs = .broken rest) :
    rest.length < bs.length := by
  cases bs with
  | nil => simp [front] at h
  | cons b bs =>
    simp only [front] at h
    split at h
    · simp at h
    · split at h
      · simp only [Front.broken.injEq] at h
        simp [← h]
      · have := frontLong_broken_length h
        simp; omega

/-! ### Whole texts -/

/-- The text of complete bytes, with U+FFFD for what is ill-formed. -/
def lossyChars (bs : List UInt8) : List Char :=
  match _h : front bs with
  | .empty => []
  | .char c rest => c :: lossyChars rest
  | .broken rest => replacement :: lossyChars rest
  | .unfinished => [replacement]
termination_by bs.length
decreasing_by
  · exact front_char_length _h
  · exact front_broken_length _h

/-- The text of any bytes, with U+FFFD for what is not well-formed. -/
def lossy (bs : List UInt8) : String := String.ofList (lossyChars bs)

/-- The text of well-formed bytes. -/
def strictChars? (bs : List UInt8) : Option (List Char) :=
  match _h : front bs with
  | .empty => some []
  | .char c rest => (strictChars? rest).map (c :: ·)
  | .broken _ => none
  | .unfinished => none
termination_by bs.length
decreasing_by exact front_char_length _h

/-- The text of bytes that are well-formed throughout. -/
def strict? (bs : List UInt8) : Option String := (strictChars? bs).map String.ofList

/-- The bytes of a text. -/
def encode (cs : List Char) : List UInt8 := cs.flatMap String.utf8EncodeChar

/-! ### Pieces -/

/-- The text that can be told already, and the unfinished beginning behind it. -/
def split (bs : List UInt8) : List Char × List UInt8 :=
  match _h : front bs with
  | .empty => ([], [])
  | .char c rest => let r := split rest; (c :: r.1, r.2)
  | .broken rest => let r := split rest; (replacement :: r.1, r.2)
  | .unfinished => ([], bs)
termination_by bs.length
decreasing_by
  · exact front_char_length _h
  · exact front_broken_length _h

/-- Reads text from pieces; `held` is the beginning of a character whose end has not come. -/
structure Decoder where
  held : List UInt8 := []
  deriving Repr, DecidableEq

namespace Decoder

/-- Is the beginning of a character held back? -/
def hasPending (d : Decoder) : Bool := !d.held.isEmpty

/-- Takes bytes in, and gives the text that can be told. -/
def push (d : Decoder) (bs : List UInt8) : List Char × Decoder :=
  let r := split (d.held ++ bs)
  (r.1, ⟨r.2⟩)

/-- No more bytes come: what is held back is given up as unreadable. -/
def finish (d : Decoder) : List Char × Decoder := (lossyChars d.held, {})

end Decoder

end Dialogue.Text.Utf8
