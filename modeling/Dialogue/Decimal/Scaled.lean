/-
From a decimal significand and a power of ten to a double.

The significand is rounded to a double first and then multiplied or divided by a power
of ten that is itself a rounded double, so the result can be one place off the nearest
double.  A result too great for a double is none; one too small is zero.
-/
import Dialogue.Decimal.Binary64

namespace Dialogue.Decimal

/-- The greatest power of ten that a double holds. -/
def greatestPower : Nat := 308

/-- The double nearest to `10 ^ n`. -/
def tenTo (n : Nat) : Float := Float.ofScientific 1 false n

/-- Divides by `10 ^ n`, in steps of the greatest power. -/
def shrink (f : Float) (n : Nat) : Float :=
  if n ≤ greatestPower then f / tenTo n
  else if f == 0 then f
  else shrink (f / tenTo greatestPower) (n - greatestPower)
termination_by n
decreasing_by simp [greatestPower] at *; omega

/-- Multiplies by `10 ^ n`. -/
def grow? (f : Float) (n : Nat) : Option Float :=
  if n ≤ greatestPower then
    let g := f * tenTo n
    if g.isInf then none else some g
  else if f == 0 then some f
  else none

/-- The double read for `significand * 10 ^ power`; the significand has sixty-four bits. -/
def toBinary64? (significand : Nat) (power : Int) : Option Binary64 :=
  let f := (UInt64.ofNat significand).toFloat
  (if power < 0 then some (shrink f (-power).toNat) else grow? f power.toNat).map Binary64.ofFloat

end Dialogue.Decimal
