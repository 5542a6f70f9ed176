/-
Requests and answers as they go over a connection.

An answer is read byte by byte: a line with its status, lines with headers up to an empty
one, and the body.  The body has the length that a header tells, or comes in chunks that
each tell theirs, or ends with the connection.
-/
import Dialogue.Http.Exchange
import Dialogue.Text.Blank

namespace Dialogue.Http

/-! ### Requests -/

/-- One header of a request, with its line end. -/
def headerLine (name value : String) : String := name ++ ": " ++ value ++ "\r\n"

/-- A header that is left out if it has no value. -/
def optionalHeader (name : String) : Option String → String
  | none => ""
  | some value => headerLine name value

/-- The text of a request; the connection is for this request only. -/
def Request.text (r : Request) : String :=
  r.method ++ " " ++ r.url.target ++ " HTTP/1.1\r\n" ++
  headerLine "host" r.url.authority ++
  headerLine "accept" "*/*" ++
  optionalHeader "authorization" r.authorization ++
  optionalHeader "content-type" r.contentType ++
  (if r.body = "" then "" else headerLine "content-length" (toString r.body.utf8ByteSize)) ++
  headerLine "connection" "close" ++ "\r\n" ++ r.body

/-! ### Answers -/

namespace AnswerReader

/-- What is read next. -/
inductive Stage where
  | statusLine
  | headers
  /-- Some bytes of a body of known length. -/
  | sized (left : Nat)
  | chunkSize
  | chunk (left : Nat)
  /-- The line end behind a chunk. -/
  | chunkEnd
  | trailer
  | untilClosed
  | finished
  | malformed
  deriving DecidableEq, Repr

end AnswerReader

/-- How far an answer was read, and what is known of it. -/
structure AnswerReader where
  stage : AnswerReader.Stage := .statusLine
  status : Nat := 0
  length : Option Nat := none
  isChunked : Bool := false
  /-- The line that is being read, back to front. -/
  line : List Char := []
  /-- Bytes of the body that were not taken yet, back to front. -/
  body : List UInt8 := []
  deriving Repr

namespace AnswerReader

/-- Is the body being read? -/
def isInBody (r : AnswerReader) : Bool :=
  match r.stage with
  | .statusLine | .headers | .malformed => false
  | _ => true

/-- What is read while `n` bytes of the body are left. -/
def sizedStage (n : Nat) : Stage := if n = 0 then .finished else .sized n

/-- What follows the headers.  An answer that only announces another one is passed over. -/
def bodyStage (r : AnswerReader) : AnswerReader :=
  if r.status < 200 then {}
  else if !hasBody r.status then { r with stage := .finished }
  else if r.isChunked then { r with stage := .chunkSize }
  else match r.length with
    | some n => { r with stage := sizedStage n }
    | none => { r with stage := .untilClosed }

/-- The number behind the first blank of a line. -/
def statusOf? (line : List Char) : Option Nat :=
  let behind := (line.dropWhile (· ≠ ' ')).dropWhile (· = ' ')
  Text.natural? (behind.takeWhile (· ≠ ' '))

/-- Takes the status out of the first line. -/
def readStatus (r : AnswerReader) (line : List Char) : AnswerReader :=
  match statusOf? line with
  | some status => { r with stage := .headers, status }
  | none => { r with stage := .malformed }

/-- Heeds the headers that tell how long the body is; all others mean nothing here. -/
def readHeader (r : AnswerReader) (line : List Char) : AnswerReader :=
  let (name, rest) := line.span (· ≠ ':')
  let value := (Text.trimChars (rest.drop 1)).map Char.toLower
  match String.ofList (name.map Char.toLower) with
  | "content-length" =>
    match Text.natural? value with
    | some n => { r with length := some n }
    | none => { r with stage := .malformed }
  | "transfer-encoding" => { r with isChunked := value = "chunked".toList }
  | _ => r

/-- A chunk's length stands before a semicolon, if there is one. -/
def readChunkSize (r : AnswerReader) (line : List Char) : AnswerReader :=
  match Text.hexNatural? (Text.trimChars (line.takeWhile (· ≠ ';'))) with
  | some 0 => { r with stage := .trailer }
  | some n => { r with stage := .chunk n }
  | none => { r with stage := .malformed }

/-- A whole line was read. -/
def readLine (r : AnswerReader) (line : List Char) : AnswerReader :=
  match r.stage with
  | .statusLine => r.readStatus line
  | .headers => if line.isEmpty then r.bodyStage else r.readHeader line
  | .chunkSize => r.readChunkSize line
  | .chunkEnd => { r with stage := .chunkSize }
  | .trailer => if line.isEmpty then { r with stage := .finished } else r
  | _ => r

/-- Reads a byte of a line. -/
def readInLine (r : AnswerReader) (b : UInt8) : AnswerReader :=
  if b = 10 then
    let line := match r.line with
      | '\r' :: cs => cs.reverse
      | cs => cs.reverse
    { r with line := [] }.readLine line
  else { r with line := Char.ofNat b.toNat :: r.line }

/-- Reads one byte of the answer. -/
def read (r : AnswerReader) (b : UInt8) : AnswerReader :=
  match r.stage with
  | .sized left => { r with body := b :: r.body, stage := sizedStage (left - 1) }
  | .chunk left =>
    { r with body := b :: r.body, stage := if left ≤ 1 then .chunkEnd else .chunk (left - 1) }
  | .untilClosed => { r with body := b :: r.body }
  | .finished | .malformed => r
  | _ => r.readInLine b

/-- Takes the bytes of the body that were read. -/
def take (r : AnswerReader) : List UInt8 × AnswerReader := (r.body.reverse, { r with body := [] })

/-- Reads some bytes, and gives those of the body among them. -/
def push (r : AnswerReader) (bs : List UInt8) : List UInt8 × AnswerReader := (bs.foldl read r).take

/-- Does nothing more belong to the answer? -/
def isOver (r : AnswerReader) : Bool := r.stage = .finished || r.stage = .malformed

/-- How the body ends if the connection does. -/
def ending (r : AnswerReader) : Ending :=
  if r.stage = .finished || r.stage = .untilClosed then .complete else .broken

end AnswerReader

end Dialogue.Http
