/-
Addresses of resources.

An address that was read is in normal form: its parts are ASCII, escaped as each place
needs, the host is written in one way only, and the port is there only if it is not the
scheme's own.
-/
import Dialogue.Text.Base64
import Dialogue.Text.Percent

namespace Dialogue.Http

/-- An address by its parts, each as it is written. -/
structure Url where
  scheme : String
  userName : String := ""
  password : String := ""
  /-- The host, if there is an authority; it may be empty. -/
  host : Option String := none
  port : Option Nat := none
  path : String := ""
  query : Option String := none
  fragment : Option String := none
  deriving DecidableEq, Repr

namespace Url

/-- The port of a scheme whose addresses always name a host. -/
def ownPort? (scheme : String) : Option Nat :=
  match scheme with
  | "http" => some 80
  | "https" => some 443
  | "ws" => some 80
  | "wss" => some 443
  | "ftp" => some 21
  | _ => none

/-- Schemes whose addresses have their parts written in the usual way. -/
def isSpecial (scheme : String) : Bool := (ownPort? scheme).isSome || scheme = "file"

/-- Does the address say where to go? -/
def hasHost (u : Url) : Bool := u.host.any (· ≠ "")

/-- Who asks, as far as the address says so. -/
def userInfo (u : Url) : String :=
  let password := if u.password = "" then "" else ":" ++ u.password
  if u.userName = "" && u.password = "" then "" else u.userName ++ password ++ "@"

/-- The port behind its colon, or nothing. -/
def portText (u : Url) : String :=
  match u.port with
  | some n => ":" ++ toString n
  | none => ""

/-- Host and port. -/
def authority (u : Url) : String := u.host.getD "" ++ u.portText

/-- What a server is asked for. -/
def target (u : Url) : String :=
  (if u.path = "" then "/" else u.path) ++ (match u.query with
    | some q => "?" ++ q
    | none => "")

/-- The whole address.  Without a host, a path that starts with two slashes needs a dot
before them, so that it is not taken for one. -/
def text (u : Url) : String :=
  u.scheme ++ ":" ++
  (match u.host with
    | some _ => "//" ++ u.userInfo ++ u.authority
    | none => if u.path.startsWith "//" then "/." else "") ++
  u.path ++
  (match u.query with
    | some q => "?" ++ q
    | none => "") ++
  (match u.fragment with
    | some f => "#" ++ f
    | none => "")

/-! ### Who asks -/

/-- A part of an address with its escapes told, if that is text. -/
def decodedText? (s : String) : Option String :=
  Text.Utf8.strict? (Text.Percent.decode s.toList)

/-- Takes the user's name and password out of an address, and gives what proves them. -/
def takeUser (u : Url) : Option String × Url :=
  match decodedText? u.userName with
  | none => (none, u)
  | some name =>
    if u.userName = "" && u.password = "" then (none, u)
    else
      let password := (decodedText? u.password).getD ""
      if name = "" && (decodedText? u.password).isNone then (none, u)
      else
        let proof := Text.Base64.encode (Text.Utf8.encode (name ++ ":" ++ password).toList)
        (some ("Basic " ++ String.ofList proof), { u with userName := "", password := "" })

end Url

end Dialogue.Http
