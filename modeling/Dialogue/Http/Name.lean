/-
Names of hosts.

A name is made of labels with dots between them, and every name has a form in ASCII.  A
label of ASCII is written in lower case.  Any other is spelled in one way and then
encoded, and a label that comes encoded has to hold what could be encoded.  Labels begin
with no mark, have joiners only where these change something, and keep to one direction.
-/
import Dialogue.Http.Name.Direction
import Dialogue.Http.Name.Joiner
import Dialogue.Http.Name.Spelling
import Dialogue.Text.Punycode
import Dialogue.Text.Utf8

namespace Dialogue.Http.Name

/-! ### Characters -/

/-- Is the character one of the first 128? -/
def isAscii (c : Char) : Bool := c.toNat < 128

/-- Characters of ASCII that no host may have. -/
def isForbiddenInHost (c : Char) : Bool :=
  c.toNat = 0 ||
  ['\t', '\n', '\r', ' ', '#', '/', ':', '<', '>', '?', '@', '[', '\\', ']', '^', '|'].contains c

/-- Characters of ASCII that no name may have. -/
def isForbidden (c : Char) : Bool :=
  isForbiddenInHost c || c.toNat < 32 || c = '%' || c.toNat = 127

/-! ### Labels -/

/-- A label as it is shown and as it is written in ASCII. -/
structure Label where
  shown : List Char
  ascii : List Char
  deriving DecidableEq, Repr

/-- What encoded labels begin with. -/
def encodedPrefix : List Char := ['x', 'n', '-', '-']

/-- The most characters of an encoded label that are decoded. -/
def longestEncoded : Nat := 2000

/-- The most characters of a label that is not ASCII. -/
def longestShown : Nat := 1000

/-- May the label stand in a name? -/
def isFit (shown : List Char) : Bool :=
  !shown.head?.any isMark && joinersFit [] shown
    && (shown.all isAscii || shown.length ≤ longestShown)

/-- A label in lower case that is encoded, less its prefix.  A label of ASCII alone is not
encoded. -/
def decode? (cs : List Char) : Option (List Char) := do
  if !cs.all isAscii || cs.getLast?.all (· = '-') || longestEncoded < cs.length then none
  else
    let shown ← Text.Punycode.decode? cs
    if shown.all (fun c => isSpelled c && !isForbidden c && c ≠ '.') && compose shown = shown
    then some shown else none

/-- A label that is spelled already. -/
def ofSpelled? (cs : List Char) : Option Label := do
  let shown ← if encodedPrefix.isPrefixOf cs then decode? (cs.drop 4) else some cs
  if !isFit shown then none
  else if cs.all isAscii then some ⟨shown, cs⟩
  else some ⟨shown, encodedPrefix ++ Text.Punycode.encode cs⟩

/-- The labels of some text between two dots; it may have dots of other scripts. -/
def labels? (cs : List Char) : Option (List Label) := do
  let cs ← if cs.all isAscii then some (cs.map Char.toLower) else (spellAll? cs).map compose
  if cs.any isForbidden then none else (Text.splitOn '.' cs).mapM ofSpelled?

/-! ### Names -/

/-- The form in ASCII of a name, given in UTF-8. -/
def ascii? (name : List UInt8) : Option (List Char) := do
  let parts ← (Text.splitOn '.' (← Text.Utf8.strictChars? name)).mapM labels?
  let ls := parts.flatten
  if keepDirections (ls.map (·.shown)) then
    some (List.intercalate ['.'] (ls.map (·.ascii)))
  else none

end Dialogue.Http.Name
