/-
Lists of characters cut at marks.

A mark that is cut at belongs to neither part, so the parts with the marks between them
are the whole.
-/
namespace Dialogue.Text

/-- Splits at every mark. -/
def splitOn (mark : Char) (cs : List Char) : List (List Char) :=
  cs.foldr (fun c parts =>
    if c = mark then [] :: parts
    else match parts with
      | [] => [[c]]
      | p :: ps => (c :: p) :: ps) [[]]

/-- The parts before and behind the first character for which `p` holds, with it. -/
def cutAt (p : Char → Bool) (cs : List Char) : List Char × Option (Char × List Char) :=
  match cs.span fun c => !p c with
  | (front, []) => (front, none)
  | (front, c :: rest) => (front, some (c, rest))

/-- What is behind a mark, if the mark is there. -/
def cutMark (mark : Char) (cs : List Char) : List Char × Option (List Char) :=
  let (front, rest) := cutAt (· = mark) cs
  (front, rest.map (·.2))

/-- The parts before and behind the last mark. -/
def cutLast (mark : Char) (cs : List Char) : Option (List Char × List Char) :=
  match cutMark mark cs.reverse with
  | (_, none) => none
  | (back, some front) => some (front.reverse, back.reverse)

end Dialogue.Text
