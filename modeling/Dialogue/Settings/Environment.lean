/-
Settings in the environment.

A variable whose name starts with the prefix, in any case, is a setting.  Its text is
read as a value: `true` and `false`, numbers, a text in quotation marks, one character
in apostrophes, a list in brackets, members in braces.  A text that is none of these as a
whole stands for itself.
-/
import Dialogue.Settings.Loose
import Dialogue.Text.Blank
import Dialogue.Text.Digits
import Dialogue.Text.Split

namespace Dialogue.Settings.Environment

/-! ### Scalars -/

/-- Is the character white space between values? -/
def isGap (c : Char) : Bool := c = ' ' || c = '\t' || c = '\n' || c = '\r' || c = '\x0c'

/-- Passes over white space between values. -/
def skipGaps (cs : List Char) : List Char := cs.dropWhile isGap

/-- Does the character end a word? -/
def isSeparator (c : Char) : Bool :=
  c = ',' || c = '[' || c = ']' || c = '\x7b' || c = '\x7d'

/-- Is the character a decimal digit? -/
def isDigit (c : Char) : Bool := (Text.decimalValue? c).isSome

/-- The word behind a sign, if it has one. -/
def dropSign : List Char → List Char
  | '+' :: cs => cs
  | '-' :: cs => cs
  | cs => cs

/-- Nothing, or an exponent. -/
def isExponent : List Char → Bool
  | [] => true
  | c :: cs =>
    let digits := dropSign cs
    (c = 'e' || c = 'E') && !digits.isEmpty && digits.all isDigit

/-- Is the word a number with a decimal point? -/
def isDecimal (word : List Char) : Bool :=
  let (before, rest) := (dropSign word).span isDigit
  match rest with
  | '.' :: rest =>
    let (behind, rest) := rest.span isDigit
    !(before.isEmpty && behind.isEmpty) && isExponent rest
  | _ => false

/-- A whole number of sixty-four bits, with or without a sign. -/
def whole? (word : List Char) : Option Int :=
  match Text.natural64? (String.ofList word), word with
  | some n, _ => some n
  | none, '-' :: digits =>
    match Text.natural? digits with
    | some n => if n ≤ 0x8000000000000000 then some (-n) else none
    | none => none
  | none, _ => none

/-- The value of a word that is neither `true` nor `false`. -/
def ofWord (word : List Char) : Loose :=
  if isDecimal word then .other
  else match whole? word with
    | some i => .whole i
    | none => .text (String.ofList word)

/-! ### Texts in quotation marks -/

/-- Up to the closing quotation mark, which no backslash precedes. -/
def takeQuoted : List Char → List Char → Option (List Char × List Char)
  | _, [] => none
  | acc, '"' :: cs => some (acc.reverse, cs)
  | acc, '\\' :: c :: cs => takeQuoted (c :: '\\' :: acc) cs
  | acc, c :: cs => takeQuoted (c :: acc) cs

/-- The character that a letter behind a backslash stands for. -/
def escaped? : Char → Option Char
  | '"' => some '"'
  | '\\' => some '\\'
  | 'b' => some '\x08'
  | 'f' => some '\x0c'
  | 'n' => some '\n'
  | 'r' => some '\r'
  | 't' => some '\t'
  | _ => none

/-- May the character stand in quotation marks as it is? -/
def isPlain (c : Char) : Bool := c = '\t' || (32 ≤ c.toNat && c.toNat ≠ 127)

/-- The character of a number, unless it is half of a pair or too great. -/
def char? (n : Nat) : Option Char := if n.isValidChar then some (Char.ofNat n) else none

/-- What stands in quotation marks, with its escapes told. -/
def unescape : List Char → Option (List Char)
  | [] => some []
  | '\\' :: 'u' :: a :: b :: c :: d :: cs => do
    let x ← (Text.hexNatural? [a, b, c, d]).bind char?
    return x :: (← unescape cs)
  | '\\' :: 'U' :: a :: b :: c :: d :: e :: f :: g :: h :: cs => do
    let x ← (Text.hexNatural? [a, b, c, d, e, f, g, h]).bind char?
    return x :: (← unescape cs)
  | '\\' :: c :: cs => do
    let x ← escaped? c
    return x :: (← unescape cs)
  | c :: cs => if isPlain c && c ≠ '\\' then (unescape cs).map (c :: ·) else none

/-- A text behind its opening quotation mark. -/
def readQuoted (cs : List Char) : Option (String × List Char) := do
  let (content, rest) ← takeQuoted [] cs
  return (String.ofList (← unescape content), rest)

/-! ### Lists and groups -/

/-- May the character stand in a name without quotation marks? -/
def isNameChar (c : Char) : Bool :=
  isDigit c || ('a' ≤ c && c ≤ 'z') || ('A' ≤ c && c ≤ 'Z') || c = '_' || c = '-'

/-- The name of a member and the equals sign behind it. -/
def readName (cs : List Char) : Option (String × List Char) := do
  let (name, rest) ← match skipGaps cs with
    | '"' :: cs => readQuoted cs
    | cs =>
      let (name, rest) := cs.span isNameChar
      if name.isEmpty then none else some (String.ofList name, rest)
  match skipGaps rest with
  | '=' :: rest => some (name, rest)
  | _ => none

/-- The text behind a word that it starts with. -/
def dropWord (word cs : List Char) : Option (List Char) :=
  if word.isPrefixOf cs then some (cs.drop word.length) else none

mutual

/-- A value and what is left behind it; the first argument bounds the steps. -/
def readValue : Nat → List Char → Option (Loose × List Char)
  | 0, _ => none
  | n + 1, cs =>
    let cs := skipGaps cs
    match dropWord ['t', 'r', 'u', 'e'] cs, dropWord ['f', 'a', 'l', 's', 'e'] cs with
    | some rest, _ => some (.other, skipGaps rest)
    | none, some rest => some (.other, skipGaps rest)
    | none, none =>
      match cs with
      | '[' :: rest => (readItems n rest).map fun rest => (.other, skipGaps rest)
      | '\x7b' :: rest => (readGroup n [] rest).map fun r => (.group r.1, skipGaps r.2)
      | '"' :: rest => (readQuoted rest).map fun r => (.text r.1, skipGaps r.2)
      | '\'' :: c :: '\'' :: rest => some (.text (String.ofList [c]), skipGaps rest)
      | '\'' :: _ => none
      | cs =>
        let (word, rest) := cs.span fun c => !isSeparator c
        some (ofWord (Text.trimChars word), rest)

/-- The items of a list up to its closing bracket. -/
def readItems : Nat → List Char → Option (List Char)
  | 0, _ => none
  | n + 1, cs =>
    match cs with
    | ']' :: rest => some rest
    | cs =>
      match readValue n cs with
      | some (_, ',' :: rest) => readItems n rest
      | some (_, ']' :: rest) => some rest
      | _ => none

/-- The members of a group up to its closing brace. -/
def readGroup : Nat → List (String × Bool) → List Char →
    Option (List (String × Bool) × List Char)
  | 0, _, _ => none
  | n + 1, ms, cs =>
    match cs with
    | '\x7d' :: rest => some (ms, rest)
    | cs =>
      match readName cs with
      | none => none
      | some (name, rest) =>
        let ms := Json.insertMember name false ms
        match readValue n rest with
        | some (_, ',' :: rest) => readGroup n ms rest
        | some (_, '\x7d' :: rest) => some (ms, rest)
        | _ => none

end

/-! ### Variables -/

/-- The value of a text.  Every other step of reading takes a character. -/
def valueOf (s : String) : Loose :=
  match readValue (2 * s.length + 2) s.toList with
  | some (v, []) => v
  | _ => .text s

/-- What the variables of settings begin with. -/
def variablePrefix : List Char := "parley_".toList

/-- The parts of the name of the setting that a variable is for, which has dots between
them.  A name with an empty part is for none. -/
def settingParts? (variableName : String) : Option (List (List Char)) :=
  let name := (Text.trimChars variableName.toList).map Char.toLower
  match dropWord variablePrefix name with
  | none => none
  | some rest =>
    let parts := Text.splitOn '.' (Text.trimChars rest)
    if parts.any (·.isEmpty) then none else some parts

/-- A value under the parts of its name: every part but the last opens a group. -/
def placed : List (List Char) → Loose → Option (String × Loose)
  | [], _ => none
  | [name], v => some (String.ofList name, v)
  | name :: inner :: _, _ =>
    some (String.ofList name, .group [(String.ofList inner, false)])

/-- What a variable sets. -/
def setting? (entry : String × String) : Option (String × Loose) := do
  placed (← settingParts? entry.1) (valueOf entry.2)

/-- The settings among some variables; of two for one setting the later one counts. -/
def layer (environment : List (String × String)) : Layer :=
  (environment.filterMap setting?).foldl (fun l m => l.put m.1 m.2) []

end Dialogue.Settings.Environment
