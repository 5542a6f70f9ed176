/-
White space, as the Unicode property `White_Space` has it.

Everything that trims or splits text in this library asks `isBlank`, so the set is
fixed once: the controls from tab to carriage return, the space, next line, the
no-break space, and the spaces and separators of the general punctuation block.  The
zero-width space and the byte order mark are not in it.

`trim` is written over lists of characters, where it is two `dropWhile`s; on strings it
is that same function between `toList` and `ofList`.
-/
namespace Dialogue.Text

/-- The code points of `White_Space`, as closed ranges. -/
def blankRanges : List (Nat × Nat) :=
  [(0x09, 0x0D), (0x20, 0x20), (0x85, 0x85), (0xA0, 0xA0), (0x1680, 0x1680),
   (0x2000, 0x200A), (0x2028, 0x2029), (0x202F, 0x202F), (0x205F, 0x205F), (0x3000, 0x3000)]

/-- Is the character white space? -/
def isBlank (c : Char) : Bool :=
  blankRanges.any fun r => r.1 ≤ c.toNat && c.toNat ≤ r.2

/-! ### Trimming -/

/-- The characters from the first one on that is not white space. -/
def trimStartChars (cs : List Char) : List Char := cs.dropWhile isBlank

/-- The characters up to the last one that is not white space. -/
def trimEndChars (cs : List Char) : List Char := (cs.reverse.dropWhile isBlank).reverse

/-- The characters without the white space at both ends. -/
def trimChars (cs : List Char) : List Char := trimEndChars (trimStartChars cs)

/-- The text without the white space at its two ends. -/
def trim (s : String) : String := String.ofList (trimChars s.toList)

/-- A blank text is one that white space fills. -/
def isBlankText (s : String) : Bool := s.toList.all isBlank

/-- The text less the characters at its end for which `p` holds. -/
def dropEndWhile (p : Char → Bool) (s : String) : String :=
  String.ofList (s.toList.reverse.dropWhile p).reverse

/-! ### Splitting -/

/-- The part before the first white space and the part behind that one character. -/
def splitAtBlankChars : List Char → Option (List Char × List Char)
  | [] => none
  | c :: cs =>
    if isBlank c then some ([], cs)
    else (splitAtBlankChars cs).map fun p => (c :: p.1, p.2)

/-- The text before the first white space and the text behind that one character. -/
def splitAtBlank (s : String) : Option (String × String) :=
  (splitAtBlankChars s.toList).map fun p => (String.ofList p.1, String.ofList p.2)

end Dialogue.Text
