/-
From the bytes of an answer to its events.

With plain framing every piece of text that can be told is a chunk.  With line framing
every line is read as JSON, and one that cannot be read becomes a failure.  After the
first terminal event nothing more is decoded; bytes that end without one end the answer.
-/
import Dialogue.Event.Line
import Dialogue.Text.Lines
import Dialogue.Text.Utf8

namespace Dialogue

/-- How the bytes of an answer are cut into events. -/
inductive Framing where
  | plainText
  | eventLines
  deriving DecidableEq, Repr, Inhabited

namespace Event

/-- The events of a line, whatever it holds. -/
def ofLine (line : List Char) : List Event :=
  match parseLine (String.ofList line) with
  | .ok events => events
  | .error p => [.failure ("malformed stream event: " ++ p.message)]

/-- The events of some lines up to the first terminal one. -/
def ofLines : List (List Char) → List Event × Bool
  | [] => ([], false)
  | l :: ls =>
    let r := upToTerminal (ofLine l)
    if r.2 then r
    else let more := ofLines ls; (r.1 ++ more.1, more.2)

/-- How far an answer is decoded, and what of its bytes is held back: part of a character,
part of a line. -/
structure Decoder where
  framing : Framing
  utf8 : Text.Utf8.Decoder := {}
  lines : Text.Lines.Buffer := {}
  terminated : Bool := false
  deriving Repr, DecidableEq

namespace Decoder

/-- Decodes text that was told. -/
def takeText (d : Decoder) (text : List Char) : List Event × Decoder :=
  if text.isEmpty then ([], d)
  else match d.framing with
    | .plainText => ([.chunk (String.ofList text)], d)
    | .eventLines =>
      let (ls, lines) := d.lines.push text
      let (events, ended) := ofLines ls
      (events, { d with lines, terminated := ended })

/-- Takes bytes in and gives the events that they bring.  When the events have ended nothing
more is taken in. -/
def push (d : Decoder) (bytes : List UInt8) : List Event × Decoder :=
  if d.terminated then ([], d)
  else
    let (text, utf8) := d.utf8.push bytes
    { d with utf8 }.takeText text

/-- Decodes a last line that no newline ends. -/
def takeLastLine (d : Decoder) : List Event × Decoder :=
  if d.terminated || d.framing = .plainText then ([], d)
  else
    let (line, lines) := d.lines.finish
    match line with
    | none => ([], { d with lines })
    | some l =>
      let (events, ended) := ofLines [l]
      (events, { d with lines, terminated := ended })

/-- No more bytes come. -/
def finish (d : Decoder) : List Event × Decoder :=
  if d.terminated then ([], d)
  else
    let (text, utf8) := d.utf8.finish
    let (events, d) := { d with utf8 }.takeText text
    let (more, d) := d.takeLastLine
    if d.terminated then (events ++ more, d)
    else (events ++ more ++ [.done], { d with terminated := true })

end Decoder

end Event

end Dialogue
