/-
Digits of naturals, as text and back.
-/
namespace Dialogue.Text

/-- The decimal digits of a natural. -/
def decimal (n : Nat) : List Char := Nat.toDigits 10 n

/-- The value of a decimal digit. -/
def decimalValue? (c : Char) : Option Nat :=
  if '0' ≤ c ∧ c ≤ '9' then some (c.toNat - 48) else none

/-- The value of a hexadecimal digit in either case. -/
def hexValue? (c : Char) : Option Nat :=
  if '0' ≤ c ∧ c ≤ '9' then some (c.toNat - 48)
  else if 'a' ≤ c ∧ c ≤ 'f' then some (c.toNat - 87)
  else if 'A' ≤ c ∧ c ≤ 'F' then some (c.toNat - 55)
  else none

/-- Reads one more digit behind a number. -/
def appendDigit (base : Nat) (value? : Char → Option Nat) (n : Option Nat) (c : Char) :
    Option Nat := do
  let n ← n
  let d ← value? c
  return n * base + d

/-- The natural that some decimal digits write; no digits write none. -/
def natural? (cs : List Char) : Option Nat :=
  if cs.isEmpty then none else cs.foldl (appendDigit 10 decimalValue?) (some 0)

/-- The natural that some hexadecimal digits write; no digits write none. -/
def hexNatural? (cs : List Char) : Option Nat :=
  if cs.isEmpty then none else cs.foldl (appendDigit 16 hexValue?) (some 0)

/-- An upper-case hexadecimal digit. -/
def upperHex (n : Nat) : Char :=
  if n < 10 then Char.ofNat (48 + n) else Char.ofNat (55 + n)

/-- A natural of at most sixty-four bits, with an optional plus sign. -/
def natural64? (s : String) : Option Nat := do
  let cs := match s.toList with
    | '+' :: more => more
    | cs => cs
  let n ← natural? cs
  if n < 0x10000000000000000 then some n else none

end Dialogue.Text
