/-
Bytes in sixty-four letters.

Three bytes are four letters of six bits each; one or two bytes at the end are two or
three letters, with equals signs up to four.
-/
namespace Dialogue.Text.Base64

/-- The letter for six bits. -/
def letter (n : Nat) : Char :=
  if n < 26 then Char.ofNat (65 + n)
  else if n < 52 then Char.ofNat (97 + (n - 26))
  else if n < 62 then Char.ofNat (48 + (n - 52))
  else if n = 62 then '+'
  else '/'

/-- The letter at a place of a number of twenty-four bits, counted from the left. -/
def letterAt (n place : Nat) : Char := letter (n / Nat.pow 64 (3 - place) % 64)

/-- Bytes as letters. -/
def encode : List UInt8 → List Char
  | [] => []
  | [a] =>
    let n := a.toNat * 65536
    [letterAt n 0, letterAt n 1, '=', '=']
  | [a, b] =>
    let n := a.toNat * 65536 + b.toNat * 256
    [letterAt n 0, letterAt n 1, letterAt n 2, '=']
  | a :: b :: c :: rest =>
    let n := a.toNat * 65536 + b.toNat * 256 + c.toNat
    letterAt n 0 :: letterAt n 1 :: letterAt n 2 :: letterAt n 3 :: encode rest

end Dialogue.Text.Base64
