/-
Turns: one question and what came back.

Turns have ids that are minted in ascending order, and an id is written as a UUID of
version 7, so that the texts ascend as well.  A pending turn takes up events until a
terminal one, or until it is canceled; after that nothing changes it.
-/
import Dialogue.Event

namespace Dialogue

/-! ### Ids -/

/-- The id of a turn: its place in the order of minting. -/
structure TurnId where
  serial : Nat
  deriving DecidableEq, Repr, Inhabited

namespace TurnId

/-- Some digits of a number in base sixteen, the last `width` of them. -/
def hexDigits : Nat → Nat → List Char
  | 0, _ => []
  | width + 1, n => hexDigits width (n / 16) ++ [Nat.digitChar (n % 16)]

/-- The serial number fills the bits that version and variant leave: forty-eight, then
twelve, then sixty-two. -/
def text (id : TurnId) : String :=
  let first := id.serial / 0x4000000000000000000
  let second := id.serial / 0x4000000000000000 % 0x1000
  let third := 0x8000000000000000 + id.serial % 0x4000000000000000
  String.ofList (hexDigits 8 (first / 0x10000) ++ '-' :: hexDigits 4 first ++
    '-' :: '7' :: hexDigits 3 second ++ '-' :: hexDigits 4 (third / 0x1000000000000) ++
    '-' :: hexDigits 12 third)

/-- The version that the text of an id tells. -/
def version (id : TurnId) : Option Char := id.text.toList[14]?

end TurnId

/-- Mints ids, each greater than all before. -/
structure Mint where
  next : Nat := 0
  deriving DecidableEq, Repr

/-- Mints the next id. -/
def Mint.take (m : Mint) : TurnId × Mint := (⟨m.next⟩, ⟨m.next + 1⟩)

/-! ### Turns -/

/-- A question, what has been answered so far, and whether more may come. -/
structure Turn where
  id : TurnId
  question : String
  answer : String := ""
  failure : Option String := none
  isPending : Bool := false
  sources : List Source := []
  deriving DecidableEq, Repr

namespace Turn

/-- A turn that waits for its answer. -/
def pending (id : TurnId) (question : String) : Turn := { id, question, isPending := true }

/-- A turn whose answer is there. -/
def resolved (id : TurnId) (question answer : String) (sources : List Source) : Turn :=
  { id, question, answer, sources }

/-- Takes up one event. -/
def accumulate (t : Turn) (e : Event) : Turn :=
  if t.isPending then
    match e with
    | .chunk text => { t with answer := t.answer ++ text }
    | .sources docs => { t with sources := Source.dedupe docs }
    | .failure message => { t with failure := some message, isPending := false }
    | .done => { t with isPending := false }
  else t

/-- Ends the turn on the user's demand; what was answered so far is kept. -/
def cancel (t : Turn) (message : String) : Turn :=
  if t.isPending then { t with failure := some message, isPending := false } else t

/-- What can befall a turn. -/
inductive Step where
  | event (e : Event)
  | cancel (message : String)
  deriving DecidableEq, Repr

/-- What one step makes of a turn. -/
def step (t : Turn) : Step → Turn
  | .event e => t.accumulate e
  | .cancel message => t.cancel message

/-- What some steps make of a turn, one after the other. -/
def run (t : Turn) (steps : List Step) : Turn := steps.foldl step t

end Turn

end Dialogue
