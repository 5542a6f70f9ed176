/-
Reading the host of an address.

A host whose last label is a number is an address of four bytes, which may be written
with fewer parts and in other bases; one in brackets is an address of eight pieces of
sixteen bits; any other is a name, which has a form in ASCII.
-/
import Dialogue.Http.Name
import Dialogue.Text.Percent

namespace Dialogue.Http.Url

open Dialogue.Text (splitOn)

/-! ### Four bytes -/

/-- The digits of a base, as far as a part of an address may use them. -/
def numberIn? (base : Nat) (cs : List Char) : Option Nat :=
  cs.foldl (fun n c => do
    let n ← n
    let d ← Text.hexValue? c
    if d < base then some (n * base + d) else none) (some 0)

/-- A part of an address: hexadecimal behind `0x`, octal behind `0`, else decimal. -/
def partNumber? : List Char → Option Nat
  | [] => none
  | '0' :: 'x' :: cs => numberIn? 16 cs
  | '0' :: 'X' :: cs => numberIn? 16 cs
  | '0' :: c :: cs => numberIn? 8 (c :: cs)
  | cs => numberIn? 10 cs

/-- The labels of a name, less an empty one at the end. -/
def labels (cs : List Char) : List (List Char) :=
  let ls := splitOn '.' cs
  match ls.getLast? with
  | some [] => if ls.length = 1 then ls else ls.dropLast
  | _ => ls

/-- Is the last label a number? -/
def endsInNumber (cs : List Char) : Bool :=
  match (labels cs).getLast? with
  | none => false
  | some l =>
    (!l.isEmpty && l.all fun c => (Text.decimalValue? c).isSome) ||
      ((l.take 2 = ['0', 'x'] || l.take 2 = ['0', 'X']) && (partNumber? l).isSome)

/-- The number of an address of some parts: each is a byte but the last one, which fills
the bytes that are left. -/
def joinParts (parts : List Nat) : Option Nat :=
  let last := parts.getLastD 0
  let front := parts.dropLast
  if 4 < parts.length || front.any (255 < ·) || Nat.pow 256 (5 - parts.length) ≤ last then none
  else some (front.foldl (fun n p => n * 256 + p) 0 * Nat.pow 256 (4 - front.length) + last)

/-- An address of four bytes in decimal, with dots between them. -/
def fourBytes (n : Nat) : List Char :=
  let byte (i : Nat) : List Char := Text.decimal (n / Nat.pow 256 i % 256)
  byte 3 ++ '.' :: byte 2 ++ '.' :: byte 1 ++ '.' :: byte 0

/-- An address of four bytes, however it is written, in its usual form. -/
def readFourBytes? (cs : List Char) : Option (List Char) := do
  let n ← joinParts (← (labels cs).mapM partNumber?)
  return fourBytes n

/-! ### Eight pieces -/

/-- A piece of at most four hexadecimal digits. -/
def piece? (cs : List Char) : Option Nat :=
  if cs.isEmpty || 4 < cs.length then none else Text.hexNatural? cs

/-- A byte in decimal, without a zero before it. -/
def byte? (cs : List Char) : Option Nat := do
  let n ← Text.natural? cs
  if 255 < n || (1 < cs.length && cs.head? = some '0') then none else some n

/-- Pieces with colons between them; the last one may be an address of four bytes, which
is two pieces. -/
def pieces? : List (List Char) → Option (List Nat)
  | [] => some []
  | [l] =>
    if l.contains '.' then
      match (splitOn '.' l).mapM byte? with
      | some [a, b, c, d] => some [a * 256 + b, c * 256 + d]
      | _ => none
    else (piece? l).map fun n => [n]
  | l :: ls => do return (← piece? l) :: (← pieces? ls)

/-- The parts before and behind a doubled colon. -/
def splitAtDouble : List Char → Option (List Char × List Char)
  | [] => none
  | ':' :: ':' :: cs => some ([], cs)
  | c :: cs => (splitAtDouble cs).map fun p => (c :: p.1, p.2)

/-- The pieces on one side of a doubled colon; there may be none. -/
def side? (cs : List Char) : Option (List Nat) :=
  if cs.isEmpty then some [] else pieces? (splitOn ':' cs)

/-- The eight pieces of an address, in which a doubled colon stands for zeros. -/
def readEight? (cs : List Char) : Option (List Nat) :=
  match splitAtDouble cs with
  | none => do
    let ps ← side? cs
    if ps.length = 8 then some ps else none
  | some (front, back) => do
    let before ← if front.contains '.' then none else side? front
    let behind ← side? back
    if 7 < before.length + behind.length then none
    else some (before ++ List.replicate (8 - before.length - behind.length) 0 ++ behind)

/-- The length of the run of zeros at the start. -/
def zeroRun (ps : List Nat) : Nat := (ps.takeWhile (· = 0)).length

/-- The first of the longest runs of zeros, by its place and its length. -/
def longestZeros (ps : List Nat) : Nat × Nat :=
  (List.range ps.length).foldl (fun best i =>
    let n := zeroRun (ps.drop i)
    if best.2 < n then (i, n) else best) (0, 0)

/-- Pieces in hexadecimal, with colons between them. -/
def writePieces (ps : List Nat) : List Char :=
  List.intercalate [':'] (ps.map (Nat.toDigits 16))

/-- An address of eight pieces; the longest run of at least two zeros is a doubled colon. -/
def writeEight (ps : List Nat) : List Char :=
  let (start, n) := longestZeros ps
  if n < 2 then writePieces ps
  else writePieces (ps.take start) ++ ':' :: ':' :: writePieces (ps.drop (start + n))

/-! ### Hosts -/

/-- What stands in brackets, if the text begins with one; then it has to end with one. -/
def bracketed? : List Char → Option (Option (List Char))
  | '[' :: inner =>
    match inner.reverse with
    | ']' :: pieces => some (some pieces.reverse)
    | _ => none
  | _ => some none

/-- An address of eight pieces in normal form, with its brackets. -/
def readPieces? (cs : List Char) : Option String :=
  (readEight? cs).map fun ps => String.ofList ('[' :: writeEight ps ++ [']'])

/-- The host of a usual scheme in normal form. -/
def readHost? (cs : List Char) : Option String := do
  match ← bracketed? cs with
  | some pieces => readPieces? pieces
  | none =>
    let name ← Name.ascii? (Text.Percent.decode cs)
    if name.isEmpty then none
    else if endsInNumber name then (readFourBytes? name).map String.ofList
    else some (String.ofList name)

/-- The host of another scheme, which is not read any further. -/
def readOtherHost? (cs : List Char) : Option String := do
  match ← bracketed? cs with
  | some pieces => readPieces? pieces
  | none =>
    if cs.any Name.isForbiddenInHost then none
    else some (String.ofList (Text.Percent.encode Text.Percent.isControl cs))

end Dialogue.Http.Url
