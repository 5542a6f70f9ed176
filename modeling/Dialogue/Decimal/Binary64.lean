/-
Double precision numbers, kept as their sixty-four bits.

A number is its bits, so two of them are equal exactly when nothing can tell them apart:
`-0.0` and `0.0` differ here.  Arithmetic is done on `Float`; what is said about a number
in exact terms - its sign, and its size as `significand * 2 ^ scale` - is read off the
bits in `Nat`.
-/
namespace Dialogue

/-- A double, as the bits that it is made of. -/
structure Binary64 where
  bits : UInt64
  deriving DecidableEq, Repr, Inhabited

namespace Binary64

/-- The bits of a double. -/
def ofFloat (f : Float) : Binary64 := ⟨f.toBits⟩

/-- The double that the bits make, for arithmetic. -/
def toFloat (b : Binary64) : Float := Float.ofBits b.bits

/-- The number that is nearest to a natural number of sixty-four bits. -/
def ofNat (n : Nat) : Binary64 := ofFloat (UInt64.ofNat n).toFloat

/-- Is the sign bit set?  So it is for `-0.0`, too. -/
def isNegative (b : Binary64) : Bool := 0x8000000000000000 ≤ b.bits.toNat

/-- The same size with the other sign. -/
def neg (b : Binary64) : Binary64 := ⟨b.bits ^^^ 0x8000000000000000⟩

/-- The eleven bits behind the sign. -/
def exponentField (b : Binary64) : Nat := b.bits.toNat / 0x10000000000000 % 2048

/-- The fifty-two bits behind the exponent. -/
def fractionField (b : Binary64) : Nat := b.bits.toNat % 0x10000000000000

/-- Zero of either sign. -/
def isZero (b : Binary64) : Bool := b.bits.toNat % 0x8000000000000000 = 0

/-- The size of a finite number is `significand * 2 ^ scale`. -/
def significand (b : Binary64) : Nat :=
  if b.exponentField = 0 then b.fractionField else b.fractionField + 0x10000000000000

/-- The exponent of two in that size; the numbers below the normal ones share the least. -/
def scale (b : Binary64) : Int :=
  (if b.exponentField = 0 then 1 else (b.exponentField : Int)) - 1075

/-- Is the gap to the next smaller number half the gap to the next greater one?  So it is
at the powers of two, the smallest normal one apart. -/
def isLowerGapNarrow (b : Binary64) : Bool := b.fractionField = 0 && 1 < b.exponentField

/-- The bits in sixteen hexadecimal digits. -/
def hexText (b : Binary64) : String :=
  let digits := Nat.toDigits 16 b.bits.toNat
  String.ofList (List.replicate (16 - digits.length) '0' ++ digits)

end Binary64

end Dialogue
