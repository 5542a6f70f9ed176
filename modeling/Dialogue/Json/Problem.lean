/-
What can be wrong with a JSON text, and where.

A `Cause` says what is wrong; its wording is in `Cause.message` alone.  A place is a line
and a column, both found by counting the bytes that were read when the cause was noticed.
-/
import Dialogue.Json.Value
import Dialogue.Text.Quoted

namespace Dialogue.Json

/-- What stood where something else was wanted. -/
inductive Found where
  | null
  | bool (b : Bool)
  | number (n : Number)
  | text (s : String)
  | sequence
  | map
  deriving Repr, DecidableEq

/-- What was found, in the words of messages. -/
def Found.message : Found → String
  | .null => "null"
  | .bool b => "boolean `" ++ (if b then "true" else "false") ++ "`"
  | .number (.integer i) => "integer `" ++ String.ofList (Number.integer i).write ++ "`"
  | .number (.real b) => "floating point `" ++ Decimal.jsonLayout.write b ++ "`"
  | .text s => "string " ++ Text.quoted s
  | .sequence => "sequence"
  | .map => "map"

/-- What is wrong with a text. -/
inductive Cause where
  | endInValue
  | endInText
  | endInList
  | endInObject
  | expectedValue
  | expectedWord
  | nameMustBeText
  | expectedColon
  | expectedCommaOrBrace
  | expectedCommaOrBracket
  | trailingComma
  | trailingCharacters
  | invalidNumber
  | numberOutOfRange
  | invalidEscape
  | unexpectedEndOfEscape
  | loneSurrogate
  | controlCharacter
  | invalidCodePoint
  | tooDeep
  | wrongType (found : Found) (wanted : String)
  | wrongValue (found : Found) (wanted : String)
  | missingField (name : String)
  | repeatedField (name : String)
  | wrongLength (length : Nat) (wanted : String)
  | unknownName (name : String) (known : List String)
  | noAlternative (title : String)
  deriving Repr, DecidableEq

/-- Names in backquotes, the last two joined by "or". -/
def orList (names : List String) : String :=
  let tick (s : String) := "`" ++ s ++ "`"
  match names with
  | [] => ""
  | [a] => tick a
  | [a, b] => tick a ++ " or " ++ tick b
  | more => "one of " ++ String.intercalate ", " (more.map tick)

/-- The wording of a cause. -/
def Cause.message : Cause → String
  | .endInValue => "EOF while parsing a value"
  | .endInText => "EOF while parsing a string"
  | .endInList => "EOF while parsing a list"
  | .endInObject => "EOF while parsing an object"
  | .expectedValue => "expected value"
  | .expectedWord => "expected ident"
  | .nameMustBeText => "key must be a string"
  | .expectedColon => "expected `:`"
  | .expectedCommaOrBrace => "expected `,` or `\x7d`"
  | .expectedCommaOrBracket => "expected `,` or `]`"
  | .trailingComma => "trailing comma"
  | .trailingCharacters => "trailing characters"
  | .invalidNumber => "invalid number"
  | .numberOutOfRange => "number out of range"
  | .invalidEscape => "invalid escape"
  | .unexpectedEndOfEscape => "unexpected end of hex escape"
  | .loneSurrogate => "lone leading surrogate in hex escape"
  | .controlCharacter => "control character (\\u0000-\\u001F) found while parsing a string"
  | .invalidCodePoint => "invalid unicode code point"
  | .tooDeep => "recursion limit exceeded"
  | .wrongType found wanted => "invalid type: " ++ found.message ++ ", expected " ++ wanted
  | .wrongValue found wanted => "invalid value: " ++ found.message ++ ", expected " ++ wanted
  | .missingField name => "missing field `" ++ name ++ "`"
  | .repeatedField name => "duplicate field `" ++ name ++ "`"
  | .wrongLength n wanted => "invalid length " ++ toString n ++ ", expected " ++ wanted
  | .unknownName name known => "unknown variant `" ++ name ++ "`, expected " ++ orList known
  | .noAlternative title => "data did not match any variant of untagged enum " ++ title

/-- What is wrong with a text, and where it was noticed. -/
structure Problem where
  cause : Cause
  line : Nat
  column : Nat
  deriving Repr, DecidableEq

/-- The cause and its place. -/
def Problem.message (p : Problem) : String :=
  p.cause.message ++ " at line " ++ toString p.line ++ " column " ++ toString p.column

/-- Line and column behind some bytes: lines count from one, and the column is the number
of bytes behind the last newline. -/
def placeBehind (bs : List UInt8) : Nat × Nat :=
  bs.foldl (fun p b => if b = 0x0A then (p.1 + 1, 0) else (p.1, p.2 + 1)) (1, 0)

end Dialogue.Json
