/-
A request and what comes of it.

What a client gets depends on what the server does and on whether the client gives up
waiting.  An answer's body comes in pieces; it may end, break off, or go on for ever.
-/
import Dialogue.Http.Failure
import Dialogue.Http.Url.Reader

namespace Dialogue.Http

/-! ### Requests -/

/-- A request as it is sent; the token stands in `authorization`. -/
structure Request where
  method : String
  url : Url
  /-- What proves who is asking. -/
  authorization : Option String := none
  contentType : Option String := none
  body : String := ""
  deriving DecidableEq, Repr

/-- May the character stand in a header? -/
def isHeaderChar (c : Char) : Bool := c = '\t' || (32 ≤ c.toNat && c.toNat ≠ 127)

/-- The greatest number of bytes in an address that can be asked. -/
def longestAddress : Nat := 65534

/-- May the character stand in the place that a request goes to?  A name may have a few
that it may not. -/
def isPlaceChar (c : Char) : Bool :=
  c ≠ '"' && c ≠ '\x60' && c ≠ '\x7b' && c ≠ '\x7d'

/-- Can the address be asked at all? -/
def isUsable (u : Url) : Bool :=
  (u.scheme = "http" || u.scheme = "https") && u.authority.toList.all isPlaceChar
    && u.text.utf8ByteSize ≤ longestAddress

/-- A request to an address, with a token if there is one.  What the address says about
who is asking counts over the token. -/
def Request.make (method address : String) (token contentType : Option String) (body : String) :
    Except SendProblem Request :=
  match Url.parse? address with
  | none => .error .unreadableAddress
  | some url =>
    if !url.hasHost then .error (.unusableAddress url.text)
    else if token.any fun t => t.toList.any fun c => !isHeaderChar c then .error .badHeader
    else
      let (user, url) := url.takeUser
      if !isUsable url then .error (.unusableAddress url.text)
      else .ok {
        method, url, contentType, body
        authorization := user.or (token.map fun t => "Bearer " ++ t) }

/-! ### Answers -/

/-- How the body of an answer ends. -/
inductive Ending where
  | complete
  | broken
  /-- Nothing more comes, but the connection stays. -/
  | held
  deriving DecidableEq, Repr

/-- An answer: its status, and the body as it arrives. -/
structure Answer where
  status : Nat
  pieces : List (List UInt8)
  ending : Ending
  deriving DecidableEq, Repr

/-- Is the status one of success? -/
def Answer.isSuccess (a : Answer) : Bool := 200 ≤ a.status && a.status ≤ 299

/-- What a server does with a request. -/
inductive Conduct where
  /-- It takes no connection, or closes it without an answer. -/
  | refuses
  /-- It keeps the connection and says nothing. -/
  | silent
  | answers (a : Answer)
  deriving DecidableEq, Repr

/-- How long a client waits, in milliseconds. -/
structure Timeouts where
  /-- For all of an answer. -/
  request : Option Nat := none
  /-- For the next piece of it. -/
  read : Option Nat := none
  deriving DecidableEq, Repr

/-- Does the client give up at some time if nothing comes? -/
def Timeouts.giveUp (t : Timeouts) : Bool := t.request.isSome || t.read.isSome

/-- What a client gets. -/
inductive Outcome where
  | unanswered
  /-- It waits for ever. -/
  | waiting
  | answered (a : Answer)
  deriving DecidableEq, Repr

/-- Answers of these statuses have no body. -/
def hasBody (status : Nat) : Bool := status ≠ 204 && status ≠ 304

/-- A body that does not go on breaks off for a client that gives up. -/
def Conduct.outcome (t : Timeouts) : Conduct → Outcome
  | .refuses => .unanswered
  | .silent => if t.giveUp then .unanswered else .waiting
  | .answers a =>
    if !hasBody a.status then .answered { a with pieces := [], ending := .complete }
    else if a.ending = .held && t.giveUp then .answered { a with ending := .broken }
    else .answered a

/-- The whole body, if it ends. -/
def Answer.body? (a : Answer) : Option (List UInt8) :=
  if a.ending = .complete then some a.pieces.flatten else none

end Dialogue.Http
