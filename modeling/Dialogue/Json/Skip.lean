/-
Passing over a value that nobody wants.

A value that is passed over is held to less than one that is read: its nesting has no
limit, a number in it may be too great for a double, and an escape needs its four digits
but no partner.  The open lists and objects are a stack, the innermost first.
-/
import Dialogue.Json.Reader

namespace Dialogue.Json

/-- Passes over a text behind its opening quote. -/
def skipTextBody (bs : List UInt8) : Except Fault (List UInt8) :=
  match bs with
  | [] => fail .endInText []
  | b :: rest =>
    if b = Byte.quote then .ok rest
    else if b = Byte.backslash then
      match rest with
      | [] => fail .endInText []
      | e :: rest =>
        if (simpleEscape? e).isSome then skipTextBody rest
        else if e = Byte.lowerU then
          match _h : readHex4 rest with
          | .error f => .error f
          | .ok (_, rest) => skipTextBody rest
        else fail .invalidEscape rest
    else if b < 0x20 then fail .controlCharacter (b :: rest)
    else skipTextBody rest
termination_by bs.length
decreasing_by
  · simp only [List.length_cons]; omega
  · have := readHex4_length _h; simp only [List.length_cons]; omega
  · simp only [List.length_cons]; omega

/-- Passes over an exponent behind its letter. -/
def skipExponent (bs : List UInt8) : Except Fault (List UInt8) :=
  match (takeExponentSign bs).2 with
  | [] => fail .invalidNumber []
  | b :: bs => if (digit? b).isSome then .ok (dropDigits 0 bs).2 else fail .invalidNumber bs

/-- Passes over the decimals behind their point. -/
def skipDecimals (bs : List UInt8) : Except Fault (List UInt8) :=
  let (count, rest) := dropDigits 0 bs
  if count = 0 then failAhead .invalidNumber rest
  else match rest with
    | b :: more => if isExponentLetter b then skipExponent more else .ok rest
    | [] => .ok []

/-- Passes over a number behind its sign. -/
def skipUnsigned : List UInt8 → Except Fault (List UInt8)
  | [] => fail .invalidNumber []
  | b :: bs =>
    match digit? b with
    | none => fail .invalidNumber bs
    | some d =>
      if d = 0 && startsWithDigit bs then failAhead .invalidNumber bs
      else
        let rest := if d = 0 then bs else (dropDigits 0 bs).2
        match rest with
        | c :: more =>
          if c = Byte.dot then skipDecimals more
          else if isExponentLetter c then skipExponent more
          else .ok rest
        | [] => .ok []

/-- An open structure. -/
inductive Frame where
  | list
  | object
  deriving Repr, DecidableEq

/-- Passes over a name and its colon. -/
def skipName (bs : List UInt8) : Except Fault (List UInt8) :=
  match skipBlanks bs with
  | [] => failAhead .endInObject []
  | b :: rest =>
    if b = Byte.quote then
      match skipTextBody rest with
      | .error f => .error f
      | .ok rest =>
        match skipBlanks rest with
        | [] => failAhead .endInObject []
        | c :: more =>
          if c = Byte.colon then .ok more else failAhead .expectedColon (c :: more)
    else failAhead .nameMustBeText (b :: rest)

/-- Where passing over goes on. -/
inductive SkipStep where
  /-- The value has ended. -/
  | done (rest : List UInt8)
  /-- A value comes next, inside these structures. -/
  | value (stack : List Frame) (rest : List UInt8)

/-- The next item or member of the innermost structure is to come. -/
def skipToValue (frame : Frame) (stack : List Frame) (bs : List UInt8) : Except Fault SkipStep :=
  match frame with
  | .list => .ok (.value (frame :: stack) bs)
  | .object =>
    match skipName bs with
    | .error f => .error f
    | .ok rest => .ok (.value (frame :: stack) rest)

/-- The bracket that closes a structure. -/
def Frame.closing : Frame → UInt8
  | .list => Byte.closeBracket
  | .object => Byte.closeBrace

/-- Closes structures as long as closing brackets come; `comma` says whether a comma may
come first. -/
def skipClosings (comma : Bool) : List Frame → List UInt8 → Except Fault SkipStep
  | [], bs => .ok (.done bs)
  | frame :: stack, bs =>
    match skipBlanks bs with
    | [] => failAhead (match frame with | .list => .endInList | .object => .endInObject) []
    | b :: rest =>
      if comma && b = Byte.comma then skipToValue frame stack rest
      else if b = frame.closing then skipClosings true stack rest
      else if comma then
        failAhead (match frame with
          | .list => .expectedCommaOrBracket
          | .object => .expectedCommaOrBrace) (b :: rest)
      else skipToValue frame stack (b :: rest)

/-- Passes over the next token of a value. -/
def skipToken (stack : List Frame) (bs : List UInt8) : Except Fault SkipStep :=
  let after : Except Fault (List UInt8) → Except Fault SkipStep
    | .error f => .error f
    | .ok rest => skipClosings true stack rest
  match skipBlanks bs with
  | [] => failAhead .endInValue []
  | b :: rest =>
    if b = Byte.lowerN then after (readWord afterN rest)
    else if b = Byte.lowerT then after (readWord afterT rest)
    else if b = Byte.lowerF then after (readWord afterF rest)
    else if b = Byte.minus then after (skipUnsigned rest)
    else if (digit? b).isSome then after (skipUnsigned (b :: rest))
    else if b = Byte.quote then after (skipTextBody rest)
    else if b = Byte.openBracket then skipClosings false (.list :: stack) rest
    else if b = Byte.openBrace then skipClosings false (.object :: stack) rest
    else failAhead .expectedValue (b :: rest)

/-- Every token takes at least one byte, so as many steps as there are bytes suffice. -/
def skipSteps : Nat → List Frame → List UInt8 → Except Fault (List UInt8)
  | 0, _, bs => failAhead .endInValue bs
  | fuel + 1, stack, bs =>
    match skipToken stack bs with
    | .error f => .error f
    | .ok (.done rest) => .ok rest
    | .ok (.value stack rest) => skipSteps fuel stack rest

/-- Passes over one value. -/
def skipValue : Reader Unit := fun bs =>
  match skipSteps (bs.length + 1) [] bs with
  | .error f => .error f
  | .ok rest => .ok ((), rest)

end Dialogue.Json
