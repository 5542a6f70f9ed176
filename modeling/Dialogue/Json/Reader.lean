/-
Readers, and the tokens of JSON.

A reader takes the bytes that are left and gives a value with the bytes left behind it,
or a fault.  Positions are never carried along: how far a text was read is known from how
much of it is left.  A fault is either `placed`, with the number of bytes left at its
place, or `loose`: it was found by a rule about a whole structure, and it is placed where
the reader of that structure stops.
-/
import Dialogue.Json.Problem
import Dialogue.Text.Utf8
import Dialogue.Decimal.Scaled

namespace Dialogue.Json

/-- Why a reader stopped: at a place, or at one that the reader of a structure will tell. -/
inductive Fault where
  | placed (cause : Cause) (left : Nat)
  | loose (cause : Cause) (rest : List UInt8)
  deriving Repr, DecidableEq

/-- Takes bytes from the front of a text, and gives a value with those left behind it. -/
abbrev Reader (α : Type) := List UInt8 → Except Fault (α × List UInt8)

namespace Byte

/-! The bytes that mean something in the texts of JSON. -/

abbrev quote : UInt8 := 0x22
abbrev comma : UInt8 := 0x2C
abbrev minus : UInt8 := 0x2D
abbrev plus : UInt8 := 0x2B
abbrev dot : UInt8 := 0x2E
abbrev zero : UInt8 := 0x30
abbrev colon : UInt8 := 0x3A
abbrev openBracket : UInt8 := 0x5B
abbrev backslash : UInt8 := 0x5C
abbrev closeBracket : UInt8 := 0x5D
abbrev openBrace : UInt8 := 0x7B
abbrev closeBrace : UInt8 := 0x7D
abbrev lowerE : UInt8 := 0x65
abbrev upperE : UInt8 := 0x45
abbrev lowerF : UInt8 := 0x66
abbrev lowerN : UInt8 := 0x6E
abbrev lowerT : UInt8 := 0x74
abbrev lowerU : UInt8 := 0x75

end Byte

/-! ### Faults with their places -/

/-- A fault in what was just read. -/
def fail {α : Type} (cause : Cause) (rest : List UInt8) : Except Fault α :=
  .error (.placed cause rest.length)

/-- A fault in the byte that comes next; at the end of the text it is the end itself. -/
def failAhead {α : Type} (cause : Cause) (rest : List UInt8) : Except Fault α :=
  .error (.placed cause (rest.length - 1))

/-- Places a fault that has no place yet. -/
def Fault.place : Fault → Fault
  | .loose cause rest => .placed cause rest.length
  | f => f

/-! ### Blanks and words -/

/-- Is the byte one of the four blanks of JSON? -/
def isJsonBlank (b : UInt8) : Bool := b = 0x20 || b = 0x0A || b = 0x09 || b = 0x0D

/-- Passes over the blanks at the front. -/
def skipBlanks (bs : List UInt8) : List UInt8 := bs.dropWhile isJsonBlank

/-- The rest of a word whose first letter was read. -/
def readWord : List UInt8 → List UInt8 → Except Fault (List UInt8)
  | [], rest => .ok rest
  | _ :: _, [] => fail .endInValue []
  | e :: es, b :: bs => if b = e then readWord es bs else fail .expectedWord bs

/-- What follows the first letter of `null`. -/
def afterN : List UInt8 := [0x75, 0x6C, 0x6C]

/-- What follows the first letter of `true`. -/
def afterT : List UInt8 := [0x72, 0x75, 0x65]

/-- What follows the first letter of `false`. -/
def afterF : List UInt8 := [0x61, 0x6C, 0x73, 0x65]

/-! ### Texts -/

/-- The value of a hexadecimal digit, in either case. -/
def hexDigit? (b : UInt8) : Option Nat := Text.hexValue? (Char.ofNat b.toNat)

/-- The four hexadecimal digits of an escape. -/
def readHex4 : Reader Nat
  | a :: b :: c :: d :: rest =>
    match hexDigit? a, hexDigit? b, hexDigit? c, hexDigit? d with
    | some a, some b, some c, some d => .ok (((a * 16 + b) * 16 + c) * 16 + d, rest)
    | _, _, _, _ => fail .invalidEscape rest
  | _ => fail .endInText []

/-- Is the number the first half of a pair? -/
def isHighSurrogate (n : Nat) : Bool := 0xD800 ≤ n && n ≤ 0xDBFF

/-- Is the number the second half of a pair? -/
def isLowSurrogate (n : Nat) : Bool := 0xDC00 ≤ n && n ≤ 0xDFFF

/-- The byte that `expected` must be; another one is read all the same. -/
def readInEscape (expected : UInt8) : List UInt8 → Except Fault (List UInt8)
  | [] => fail .endInText []
  | b :: rest => if b = expected then .ok rest else fail .unexpectedEndOfEscape rest

/-- The code point of an escape behind its `u`: one of two surrogates needs the other. -/
def readCodePoint (bs : List UInt8) : Except Fault (Char × List UInt8) :=
  match readHex4 bs with
  | .error e => .error e
  | .ok (n, rest) =>
    if isLowSurrogate n then fail .loneSurrogate rest
    else if isHighSurrogate n then
      match readInEscape Byte.backslash rest with
      | .error e => .error e
      | .ok rest =>
        match readInEscape Byte.lowerU rest with
        | .error e => .error e
        | .ok rest =>
          match readHex4 rest with
          | .error e => .error e
          | .ok (m, rest) =>
            if isLowSurrogate m then
              .ok (Char.ofNat (0x10000 + (n - 0xD800) * 0x400 + (m - 0xDC00)), rest)
            else fail .loneSurrogate rest
    else .ok (Char.ofNat n, rest)

/-- The character that a letter behind a backslash stands for. -/
def simpleEscape? (b : UInt8) : Option Char :=
  if b = 0x22 then some '"'
  else if b = 0x5C then some '\\'
  else if b = 0x2F then some '/'
  else if b = 0x62 then some (Char.ofNat 8)
  else if b = 0x66 then some (Char.ofNat 12)
  else if b = 0x6E then some '\n'
  else if b = 0x72 then some '\r'
  else if b = 0x74 then some '\t'
  else none

/-- An escape behind its backslash. -/
def readEscape : List UInt8 → Except Fault (Char × List UInt8)
  | [] => fail .endInText []
  | b :: bs =>
    match simpleEscape? b with
    | some c => .ok (c, bs)
    | none => if b = Byte.lowerU then readCodePoint bs else fail .invalidEscape bs

theorem readHex4_length {bs rest : List UInt8} {n : Nat} (h : readHex4 bs = .ok (n, rest)) :
    rest.length < bs.length := by
  unfold readHex4 at h
  split at h
  · split at h
    · simp only [Except.ok.injEq, Prod.mk.injEq] at h
      simp only [← h.2, List.length_cons]; omega
    · simp [fail] at h
  · simp [fail] at h

theorem readInEscape_length {e : UInt8} {bs rest : List UInt8}
    (h : readInEscape e bs = .ok rest) : rest.length < bs.length := by
  cases bs with
  | nil => simp [readInEscape, fail] at h
  | cons b bs =>
    simp only [readInEscape] at h
    split at h
    · simp only [Except.ok.injEq] at h
      simp [← h]
    · simp [fail] at h

theorem readCodePoint_length {bs rest : List UInt8} {c : Char}
    (h : readCodePoint bs = .ok (c, rest)) : rest.length < bs.length := by
  unfold readCodePoint at h
  split at h
  · simp at h
  · rename_i n r hr
    have h0 := readHex4_length hr
    split at h
    · simp [fail] at h
    · split at h
      · split at h
        · simp at h
        · rename_i r1 h1
          have := readInEscape_length h1
          split at h
          · simp at h
          · rename_i r2 h2
            have := readInEscape_length h2
            split at h
            · simp at h
            · rename_i m r3 h3
              have := readHex4_length h3
              split at h
              · simp only [Except.ok.injEq, Prod.mk.injEq] at h
                rw [← h.2]; omega
              · simp [fail] at h
      · simp only [Except.ok.injEq, Prod.mk.injEq] at h
        rw [← h.2]; exact h0

theorem readEscape_length {bs rest : List UInt8} {c : Char}
    (h : readEscape bs = .ok (c, rest)) : rest.length < bs.length := by
  cases bs with
  | nil => simp [readEscape, fail] at h
  | cons b bs =>
    simp only [readEscape] at h
    split at h
    · simp only [Except.ok.injEq, Prod.mk.injEq] at h
      simp [← h.2]
    · split at h
      · have := readCodePoint_length h
        simp; omega
      · simp [fail] at h

/-- The bytes of a text up to its closing quote; `acc` holds those read so far, the last
one first. -/
def readTextBytes (acc : List UInt8) (bs : List UInt8) : Except Fault (List UInt8 × List UInt8) :=
  match bs with
  | [] => fail .endInText []
  | b :: rest =>
    if b = Byte.quote then .ok (acc.reverse, rest)
    else if b = Byte.backslash then
      match _h : readEscape rest with
      | .error e => .error e
      | .ok (c, after) => readTextBytes ((String.utf8EncodeChar c).reverse ++ acc) after
    else if b < 0x20 then fail .controlCharacter rest
    else readTextBytes (b :: acc) rest
termination_by bs.length
decreasing_by
  · have := readEscape_length _h; simp; omega
  · simp

/-- A text behind its opening quote. -/
def readTextBody : Reader String := fun bs =>
  match readTextBytes [] bs with
  | .error e => .error e
  | .ok (content, rest) =>
    match Text.Utf8.strict? content with
    | some s => .ok (s, rest)
    | none => fail .invalidCodePoint rest

/-! ### Numbers

A whole number that fits sixty-four bits keeps its value; any other is a double.  While
digits fit they count into the significand; those behind only move the point. -/

/-- The value of a decimal digit. -/
def digit? (b : UInt8) : Option Nat :=
  if 0x30 ≤ b ∧ b ≤ 0x39 then some (b.toNat - 48) else none

/-- Does a digit come next? -/
def startsWithDigit : List UInt8 → Bool
  | [] => false
  | b :: _ => (digit? b).isSome

/-- Takes digits while the significand fits; gives it with the number of digits taken. -/
def takeDigits (significand count : Nat) : List UInt8 → Nat × Nat × List UInt8
  | [] => (significand, count, [])
  | b :: bs =>
    match digit? b with
    | none => (significand, count, b :: bs)
    | some d =>
      if 0x10000000000000000 ≤ significand * 10 + d then (significand, count, b :: bs)
      else takeDigits (significand * 10 + d) (count + 1) bs

/-- Passes over digits and counts them. -/
def dropDigits (count : Nat) : List UInt8 → Nat × List UInt8
  | [] => (count, [])
  | b :: bs => if (digit? b).isSome then dropDigits (count + 1) bs else (count, b :: bs)

/-- A double as a number, with its sign. -/
def withSign (negative : Bool) (b : Binary64) : Number :=
  .real (if negative then b.neg else b)

/-- The end of a number: the double nearest to `significand * 10 ^ power`, if there is a
finite one. -/
def finishReal (negative : Bool) (significand : Nat) (power : Int) : Reader Number := fun rest =>
  match Decimal.toBinary64? significand power with
  | some b => .ok (withSign negative b, rest)
  | none => fail .numberOutOfRange rest

/-- The greatest exponent that is counted out. -/
def greatestExponent : Nat := 2147483647

/-- The digits of an exponent: `none` with the bytes behind the digit at which it became
too great. -/
def takeExponent (exponent : Nat) : List UInt8 → Option Nat × List UInt8
  | [] => (some exponent, [])
  | b :: bs =>
    match digit? b with
    | none => (some exponent, b :: bs)
    | some d =>
      if greatestExponent < exponent * 10 + d then (none, bs)
      else takeExponent (exponent * 10 + d) bs

/-- The sign of an exponent. -/
def takeExponentSign : List UInt8 → Bool × List UInt8
  | [] => (false, [])
  | b :: bs =>
    if b = Byte.plus then (false, bs)
    else if b = Byte.minus then (true, bs)
    else (false, b :: bs)

/-- The exponent behind its letter. -/
def readExponent (negative : Bool) (significand : Nat) (power : Int) : Reader Number := fun bs =>
  let (down, bs) := takeExponentSign bs
  match bs with
  | [] => fail .endInValue []
  | b :: bs =>
    match digit? b with
    | none => fail .invalidNumber bs
    | some d =>
      match takeExponent d bs with
      | (some e, rest) =>
        finishReal negative significand (if down then power - e else power + e) rest
      | (none, rest) =>
        if significand ≠ 0 && !down then fail .numberOutOfRange rest
        else .ok (withSign negative (Binary64.ofNat 0), (dropDigits 0 rest).2)

/-- Does the byte begin an exponent? -/
def isExponentLetter (b : UInt8) : Bool := b = Byte.lowerE || b = Byte.upperE

/-- An exponent, if one stands there, or the end of the number. -/
def readExponentOrEnd (negative : Bool) (significand : Nat) (power : Int) : Reader Number
  | b :: bs =>
    if isExponentLetter b then readExponent negative significand power bs
    else finishReal negative significand power (b :: bs)
  | [] => finishReal negative significand power []

/-- The decimals behind their point. -/
def readDecimals (negative : Bool) (significand : Nat) (power : Int) : Reader Number := fun bs =>
  let (significand, count, rest) := takeDigits significand 0 bs
  if startsWithDigit rest then
    readExponentOrEnd negative significand (power - count) (dropDigits 0 rest).2
  else if count = 0 then
    match rest with
    | [] => failAhead .endInValue []
    | _ => failAhead .invalidNumber rest
  else readExponentOrEnd negative significand (power - count) rest

/-- What follows the whole part of a number; `power` is not zero if digits were left out
of the significand. -/
def readAfterWhole (negative : Bool) (significand : Nat) (power : Nat) : Reader Number := fun bs =>
  let whole : Except Fault (Number × List UInt8) :=
    if power ≠ 0 then finishReal negative significand power bs
    else if !negative then .ok (.integer significand, bs)
    else if significand = 0 || 0x8000000000000000 < significand then
      .ok (withSign true (Binary64.ofNat significand), bs)
    else .ok (.integer (-significand), bs)
  match bs with
  | b :: rest =>
    if b = Byte.dot then readDecimals negative significand power rest
    else if isExponentLetter b then readExponent negative significand power rest
    else whole
  | [] => whole

/-- A number behind its sign. -/
def readUnsigned (negative : Bool) : Reader Number
  | [] => fail .endInValue []
  | b :: bs =>
    match digit? b with
    | none => fail .invalidNumber bs
    | some 0 =>
      if startsWithDigit bs then failAhead .invalidNumber bs
      else readAfterWhole negative 0 0 bs
    | some d =>
      let (significand, _, rest) := takeDigits d 0 bs
      if startsWithDigit rest then
        let (left, rest) := dropDigits 0 rest
        readAfterWhole negative significand left rest
      else readAfterWhole negative significand 0 rest

/-- A number at its first byte, a sign or a digit. -/
def readNumber : Reader Number
  | b :: bs => if b = Byte.minus then readUnsigned true bs else readUnsigned false (b :: bs)
  | [] => fail .endInValue []

/-- Can a number begin with the byte? -/
def startsNumber (b : UInt8) : Bool := b = Byte.minus || (digit? b).isSome

end Dialogue.Json
