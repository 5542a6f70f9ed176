/-
The shortest decimal text that reads back as the same double.

All reals that lie nearer to a number than to its neighbours read back as that number;
the two ends of that interval do so exactly when the significand is even.  For one digit,
two digits and so on, the two points of that decimal grid around the number are tried;
the first grid with a point in the interval wins, and of two points the nearer one.
Everything is exact arithmetic in `Nat`.

How the digits are then laid out is a record, `Layout`.
-/
import Dialogue.Decimal.Binary64

namespace Dialogue.Decimal

/-- A decimal number `digits * 10 ^ power`. -/
structure Scaled where
  digits : Nat
  power : Int
  deriving Repr, DecidableEq

/-- A fraction of naturals times a power of ten, as a fraction of naturals. -/
def timesTen (num den : Nat) (power : Int) : Nat × Nat :=
  if power < 0 then (num, den * Nat.pow 10 (-power).toNat) else (num * Nat.pow 10 power.toNat, den)

/-- Exponent of the leading digit of `num / den`, a positive number above `10 ^ (-340)`. -/
def leadingExponent (num den : Nat) : Int :=
  ((Nat.toDigits 10 (num * Nat.pow 10 340 / den)).length : Int) - 341

/-- The interval around a number whose points read back as it: over the common denominator
`den` lie the number itself, the least point and the greatest one. -/
structure Interval where
  value : Nat
  least : Nat
  greatest : Nat
  den : Nat
  closed : Bool

/-- Works in quarters of the last place, in which both half gaps are whole. -/
def Interval.of (b : Binary64) : Interval :=
  let m := 4 * b.significand
  let below := if b.isLowerGapNarrow then 1 else 2
  let q := b.scale - 2
  let up := if q < 0 then 1 else Nat.pow 2 q.toNat
  { value := m * up, least := (m - below) * up, greatest := (m + 2) * up
    den := if q < 0 then Nat.pow 2 (-q).toNat else 1
    closed := b.significand % 2 = 0 }

/-- Does `d * 10 ^ power` read back as the number? -/
def Interval.holds (i : Interval) (d : Nat) (power : Int) : Bool :=
  let p := timesTen d 1 power
  -- compares `p.1 / p.2` with `least / den` and `greatest / den`
  let x := p.1 * i.den
  if i.closed then i.least * p.2 ≤ x && x ≤ i.greatest * p.2
  else i.least * p.2 < x && x < i.greatest * p.2

/-- The point of the grid of step `10 ^ power` that reads back as the number: of the two
around it the nearer one, and at equal distance the even one. -/
def Interval.nearest? (i : Interval) (power : Int) : Option Nat :=
  let q := timesTen i.value i.den (-power)
  let d := q.1 / q.2
  let r := q.1 % q.2
  let below := i.holds d power
  let above := i.holds (d + 1) power
  if below && above then
    some (if 2 * r < q.2 || (2 * r = q.2 && d % 2 = 0) then d else d + 1)
  else if below then some d
  else if above then some (d + 1)
  else none

/-- The first grid that holds a point, from the coarse to the fine. -/
def Interval.search (i : Interval) (lead : Int) : Nat → Nat → Scaled
  | 0, _ => ⟨0, 0⟩
  | fuel + 1, count =>
    let power := lead + 1 - count
    match i.nearest? power with
    | some d => ⟨d, power⟩
    | none => i.search lead fuel (count + 1)

/-- Seventeen digits always suffice. -/
def shortest (b : Binary64) : Scaled :=
  let i := Interval.of b
  i.search (leadingExponent i.value i.den) 17 1

/-- How a decimal number is written. -/
structure Layout where
  /-- The exponents of the leading digit that are written without a power of ten. -/
  leastPlain : Int
  greatestPlain : Int
  /-- The sign before a power of ten that is not negative. -/
  plus : String

/-- Drops the zeros at the end of the digits. -/
def stripZeros (ds : List Char) : List Char := (ds.reverse.dropWhile (· = '0')).reverse

/-- A point stands behind the digit of exponent zero, and a digit behind the point. -/
def Layout.plain (ds : List Char) (lead : Int) : List Char :=
  if lead < 0 then
    '0' :: '.' :: List.replicate ((-lead).toNat - 1) '0' ++ ds
  else
    let whole := lead.toNat + 1
    let front := ds.take whole ++ List.replicate (whole - ds.length) '0'
    let back := ds.drop whole
    front ++ '.' :: (if back.isEmpty then ['0'] else back)

/-- A point stands behind the leading digit, unless it is the only one, and a power of ten
behind all. -/
def Layout.power (l : Layout) (ds : List Char) (lead : Int) : List Char :=
  let mantissa := match ds with
    | [] => []
    | [d] => [d]
    | d :: more => d :: '.' :: more
  let sign := if lead < 0 then ['-'] else l.plus.toList
  mantissa ++ 'e' :: sign ++ Nat.toDigits 10 lead.natAbs

/-- The digits with a power of ten or without, as the layout has it for the exponent of the
leading one. -/
def Layout.digits (l : Layout) (ds : List Char) (lead : Int) : List Char :=
  if l.leastPlain ≤ lead && lead ≤ l.greatestPlain then Layout.plain ds lead
  else l.power ds lead

/-- The text of a finite number. -/
def Layout.write (l : Layout) (b : Binary64) : String :=
  let sign := if b.isNegative then ['-'] else []
  if b.isZero then String.ofList (sign ++ ['0', '.', '0'])
  else
    let s := shortest b
    let all := Nat.toDigits 10 s.digits
    let lead := s.power + (all.length : Int) - 1
    String.ofList (sign ++ l.digits (stripZeros all) lead)

/-- Numbers stand without a power of ten from `0.00001` up to sixteen whole digits, with
at least one decimal; else the power is written with its sign. -/
def jsonLayout : Layout := ⟨-5, 15, "+"⟩

end Dialogue.Decimal
