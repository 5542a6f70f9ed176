/-
Text in fewer characters: what is not ASCII is told by numbers behind the ASCII.

The characters beyond ASCII are put in one after the other in ascending order, and each
number tells how far it is from one place where a character could be put in to the next
that is used; the places are counted through all texts for one character, then for the
next one.  A number has digits of changing weight, the lowest first, and a digit below the
threshold of its place ends it.  The thresholds adapt to the numbers before.
-/
import Dialogue.Text.Digits
import Dialogue.Text.Split

namespace Dialogue.Text.Punycode

/-! ### Digits -/

/-- Letters are the digits from zero on, and behind them come the decimal digits. -/
def digitChar (d : Nat) : Char := if d < 26 then Char.ofNat (97 + d) else Char.ofNat (22 + d)

/-- The value of a digit; letters count in either case. -/
def digitValue? (c : Char) : Option Nat :=
  if 'a' ≤ c ∧ c ≤ 'z' then some (c.toNat - 97)
  else if 'A' ≤ c ∧ c ≤ 'Z' then some (c.toNat - 65)
  else if '0' ≤ c ∧ c ≤ '9' then some (c.toNat - 22)
  else none

/-- The threshold of a place; places go up in steps of 36. -/
def threshold (place bias : Nat) : Nat :=
  if place ≤ bias then 1 else if bias + 26 ≤ place then 26 else place - bias

theorem threshold_pos (place bias : Nat) : 0 < threshold place bias := by
  unfold threshold
  split
  · omega
  · split <;> omega

/-- Divides until the threshold of no place is reached any more. -/
def scaleDown (delta place : Nat) : Nat × Nat :=
  if 455 < delta then scaleDown (delta / 35) (place + 36) else (delta, place)
termination_by delta
decreasing_by omega

/-- The bias behind a number; `count` characters are there then. -/
def adapt (delta count : Nat) (first : Bool) : Nat :=
  let delta := if first then delta / 700 else delta / 2
  let (delta, place) := scaleDown (delta + delta / count) 0
  place + 36 * delta / (delta + 38)

/-! ### Writing -/

/-- The digits of a number, from a place on. -/
def digits (bias place n : Nat) : List Char :=
  let t := threshold place bias
  if n < t then [digitChar n]
  else digitChar (t + (n - t) % (36 - t)) :: digits bias (place + 36) ((n - t) / (36 - t))
termination_by n
decreasing_by
  have hp := threshold_pos place bias
  exact Nat.lt_of_le_of_lt (Nat.div_le_self _ _) (by omega)

/-- A text on its way to be written in fewer characters. -/
structure Writer where
  /-- What is written, the last character first. -/
  out : List Char := []
  bias : Nat := 72
  /-- Places passed since the last number. -/
  delta : Nat := 0
  /-- Characters that are told already. -/
  told : Nat
  deriving Repr

/-- Goes over one character of the text, while `n` is the character to tell. -/
def Writer.pass (n basic : Nat) (w : Writer) (c : Char) : Writer :=
  if c.toNat < n then { w with delta := w.delta + 1 }
  else if c.toNat = n then {
    out := (digits w.bias 36 w.delta).reverse ++ w.out
    bias := adapt w.delta (w.told + 1) (w.told = basic)
    delta := 0
    told := w.told + 1 }
  else w

/-- Tells characters in ascending order; `n` is the least that may come. -/
def Writer.tell (cs : List Char) (basic : Nat) : List Nat → Nat → Writer → Writer
  | [], _, w => w
  | m :: ms, n, w =>
    let w := cs.foldl (Writer.pass m basic) { w with delta := w.delta + (m - n) * (w.told + 1) }
    Writer.tell cs basic ms (m + 1) { w with delta := w.delta + 1 }

/-- Is the character ASCII, so that it stands for itself? -/
def isBasic (c : Char) : Bool := c.toNat < 128

/-- The text in fewer characters: its ASCII, a hyphen behind it if there is any, and the
numbers. -/
def encode (cs : List Char) : List Char :=
  let basic := cs.filter isBasic
  let others := ((cs.filter fun c => !isBasic c).map Char.toNat).mergeSort.eraseReps
  let w := Writer.tell cs basic.length others 128 { told := basic.length }
  basic ++ (if basic.isEmpty then [] else ['-']) ++ w.out.reverse

/-! ### Reading -/

/-- A text on its way to be read, and the number that is being read. -/
structure Reading where
  out : List Char
  /-- The character that is put in next, unless a number leads on to a later one. -/
  code : Nat := 128
  bias : Nat := 72
  /-- The place in the text, as far as it is known. -/
  index : Nat := 0
  /-- The place where the number being read began. -/
  start : Nat := 0
  weight : Nat := 1
  place : Nat := 36
  /-- Is the number still open? -/
  isOpen : Bool := false
  deriving Repr

/-- Numbers have thirty-two bits. -/
def word? (n : Nat) : Option Nat := if n < 0x100000000 then some n else none

/-- Puts a character in, at the end of a number. -/
def Reading.insert (r : Reading) : Option Reading :=
  let count := r.out.length + 1
  let code := r.code + r.index / count
  let spot := r.index % count
  if code.isValidChar then some {
    out := r.out.take spot ++ Char.ofNat code :: r.out.drop spot
    code
    bias := adapt (r.index - r.start) count (r.start = 0)
    index := spot + 1
    start := spot + 1 }
  else none

/-- Takes one digit in; the one below the threshold of its place ends the number. -/
def Reading.digit (r : Reading) (c : Char) : Option Reading := do
  let d ← digitValue? c
  let product ← word? (d * r.weight)
  let index ← word? (r.index + product)
  let t := threshold r.place r.bias
  if d < t then Reading.insert { r with index }
  else
    let weight ← word? (r.weight * (36 - t))
    return { r with index, weight, place := r.place + 36, isOpen := true }

/-- The text that was encoded.  A hyphen at the start does not end the ASCII. -/
def decode? (cs : List Char) : Option (List Char) := do
  let (basic, coded) := match cutLast '-' cs with
    | some (c :: basic, coded) => (c :: basic, coded)
    | _ => ([], cs)
  let r ← coded.foldlM Reading.digit { out := basic }
  if r.isOpen then none else some r.out

end Dialogue.Text.Punycode
