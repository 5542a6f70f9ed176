/-
Text cut into lines while it arrives.

A line ends at a newline; one carriage return directly before it belongs to the line's
end and not to the line.  The text behind the last newline is kept until the rest of its
line comes.
-/
import Dialogue.Text.Blank

namespace Dialogue.Text.Lines

/-- The lines that a newline ends, and what follows the last newline. -/
def cut : List Char → List (List Char) × List Char
  | [] => ([], [])
  | c :: cs =>
    let r := cut cs
    if c = '\n' then ([] :: r.1, r.2)
    else match r.1 with
      | [] => ([], c :: r.2)
      | l :: ls => ((c :: l) :: ls, r.2)

/-- The line less one carriage return at its end. -/
def dropReturn (l : List Char) : List Char :=
  if l.getLast? = some '\r' then l.dropLast else l

/-- The text behind the last newline, while the rest of its line has not come. -/
structure Buffer where
  part : List Char := []
  deriving Repr, DecidableEq

namespace Buffer

/-- Takes text in, and gives the lines that it ends. -/
def push (b : Buffer) (text : List Char) : List (List Char) × Buffer :=
  let r := cut (b.part ++ text)
  (r.1.map dropReturn, ⟨r.2⟩)

/-- No more text comes: what is left is a line, unless it is blank. -/
def finish (b : Buffer) : Option (List Char) × Buffer :=
  (if b.part.all isBlank then none else some b.part, {})

end Buffer

end Dialogue.Text.Lines
