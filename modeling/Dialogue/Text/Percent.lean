/-
Percent encoding.

A byte is written as a percent sign and two upper-case hexadecimal digits if it is not
ASCII or if the place where it is written needs that; any other byte stands for itself.
Reading takes digits of either case, and leaves a percent sign without two digits alone.
-/
import Dialogue.Text.Digits
import Dialogue.Text.Utf8

namespace Dialogue.Text.Percent

/-- A byte as a percent sign and two digits. -/
def escape (b : UInt8) : List Char := ['%', upperHex (b.toNat / 16), upperHex (b.toNat % 16)]

/-- Some bytes as ASCII; `p` tells which of ASCII to escape. -/
def encodeBytes (p : UInt8 → Bool) (bs : List UInt8) : List Char :=
  bs.flatMap fun b => if 0x80 ≤ b || p b then escape b else [Char.ofNat b.toNat]

/-- A text as ASCII; `p` tells which of ASCII to escape. -/
def encode (p : UInt8 → Bool) (cs : List Char) : List Char := encodeBytes p (Utf8.encode cs)

/-- The bytes of a text with its escapes told. -/
def decodeBytes : List UInt8 → List UInt8
  | [] => []
  | 0x25 :: a :: b :: rest =>
    match hexNatural? [Char.ofNat a.toNat, Char.ofNat b.toNat] with
    | some n => UInt8.ofNat n :: decodeBytes rest
    | none => 0x25 :: decodeBytes (a :: b :: rest)
  | b :: rest => b :: decodeBytes rest

/-- The bytes that a text stands for. -/
def decode (cs : List Char) : List UInt8 := decodeBytes (Utf8.encode cs)

/-! ### Sets -/

/-- The bytes of some ASCII characters. -/
def anyOf (cs : List Char) (b : UInt8) : Bool := cs.any fun c => c.toNat = b.toNat

/-- The controls of ASCII. -/
def isControl (b : UInt8) : Bool := b < 0x20 || b = 0x7F

end Dialogue.Text.Percent
