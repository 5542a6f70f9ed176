/-
Tables of characters.

A table is written as words with white space between them.  A word stands for a run of
characters: it gives the code point of the first one, and behind a hyphen that of the
last one if there are several, in hexadecimal.  Behind a slash stands the distance from
one character of the run to the next if it is not one, and behind a colon what the table
says about the run, as numbers with commas between them.
-/
import Dialogue.Text.Blank
import Dialogue.Text.Digits
import Dialogue.Text.Split

namespace Dialogue.Text

/-- Some characters at the same distance from one to the next. -/
structure Run where
  first : Nat
  last : Nat
  step : Nat
  values : List Nat
  deriving DecidableEq, Repr

/-- A table of characters, by runs. -/
structure Table where
  runs : List Run
  deriving DecidableEq, Repr

/-- Does the run have the character? -/
def Run.covers (r : Run) (c : Char) : Bool :=
  r.first ≤ c.toNat && c.toNat ≤ r.last && (c.toNat - r.first) % r.step = 0

namespace Table

/-! ### Looking up -/

/-- The run that has a character. -/
def find? (t : Table) (c : Char) : Option Run := t.runs.find? (·.covers c)

/-- Is the character in the table? -/
def has (t : Table) (c : Char) : Bool := (t.find? c).isSome

/-- The first number that the table gives for a character, and zero if it gives none. -/
def value (t : Table) (c : Char) : Nat := ((t.find? c).bind (·.values.head?)).getD 0

/-! ### Reading -/

/-- A number in hexadecimal; what is none counts as zero. -/
def number (cs : List Char) : Nat := (hexNatural? cs).getD 0

/-- The run that a word stands for. -/
def runOfWord (word : List Char) : Run :=
  let (place, values) := cutMark ':' word
  let (ends, step) := cutMark '/' place
  let (first, last) := cutMark '-' ends
  { first := number first
    last := number (last.getD first)
    step := (step.map number).getD 1
    values := (values.map fun vs => (splitOn ',' vs).map number).getD [] }

/-- The words of a text. -/
def words (cs : List Char) : List (List Char) :=
  (splitOn ' ' (cs.map fun c => if isBlank c then ' ' else c)).filter (!·.isEmpty)

/-- The table that a text writes. -/
def ofText (s : String) : Table := ⟨(words s.toList).map runOfWord⟩

end Table

end Dialogue.Text
