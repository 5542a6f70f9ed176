/-
Reading an address.

White space and controls at the ends, and tabs and line ends anywhere, are passed over.
Then come the scheme, the authority, the path, the query and the fragment, each with
characters of its own that are escaped.  In the path of a usual scheme a backslash is a
slash; a segment of one dot is dropped, and one of two dots takes the segment before it
along, unless that names a drive.
-/
import Dialogue.Http.Url
import Dialogue.Http.Url.Host

namespace Dialogue.Http.Url

open Dialogue.Text (splitOn cutMark cutLast)
open Dialogue.Text.Percent

/-! ### Sets -/

/-- What is escaped in a fragment. -/
def fragmentSet (b : UInt8) : Bool := isControl b || anyOf [' ', '"', '<', '>', '\x60'] b

/-- What is escaped in a query; a usual scheme escapes apostrophes as well. -/
def querySet (special : Bool) (b : UInt8) : Bool :=
  isControl b || anyOf [' ', '"', '#', '<', '>'] b || (special && anyOf ['\''] b)

/-- What is escaped in a path. -/
def pathSet (b : UInt8) : Bool := fragmentSet b || anyOf ['#', '?', '\x7b', '\x7d'] b

/-- What is escaped in a user's name and password. -/
def userSet (b : UInt8) : Bool :=
  pathSet b || anyOf ['/', ':', ';', '=', '@', '[', '\\', ']', '^', '|'] b

/-! ### Segments -/

/-- Does the character part segments?  With a usual scheme a backslash does as well. -/
def isSlash (special : Bool) (c : Char) : Bool := c = '/' || (special && c = '\\')

/-- The names of a dot, one written with its escape. -/
def isDot (cs : List Char) : Bool :=
  let l := cs.map Char.toLower
  l = ['.'] || l = ['%', '2', 'e']

/-- The names of two dots, each of them written with its escape or without. -/
def isTwoDots (cs : List Char) : Bool :=
  let l := cs.map Char.toLower
  [['.', '.'], ['.', '%', '2', 'e'], ['%', '2', 'e', '.'], ['%', '2', 'e', '%', '2', 'e']].contains l

/-- Does a segment begin with a drive?  A letter is one with a colon or a bar behind it. -/
def namesDrive : List Char → Bool
  | a :: b :: rest => a.isAlpha && (b = ':' || b = '|') && (rest.isEmpty || rest.head? = some '\\')
  | _ => false

/-- A path on which segments are followed one after the other. -/
structure Walk where
  /-- The segments that lead to the place reached, the last one first. -/
  before : List (List Char) := []
  /-- Is the path one of a file, and on a drive? -/
  onDrive : Bool := false
  deriving DecidableEq, Repr

namespace Walk

/-- Back to the segment before; a drive is not left. -/
def leave (w : Walk) : Walk :=
  match w.before with
  | [] => w
  | s :: before => if namesDrive s then w else { w with before }

/-- On to a segment, whatever its name. -/
def push (w : Walk) (s : List Char) : Walk := { w with before := encode pathSet s :: w.before }

/-- On to a segment.  A file's path may begin with a drive; it is written with a colon,
and what follows the colon without a slash is a segment of its own. -/
def enter (file : Bool) (w : Walk) (s : List Char) : Walk :=
  if file && w.before.isEmpty then
    match s with
    | [a, b] =>
      if a.isAlpha && (b = ':' || b = '|') then { before := [[a, ':']], onDrive := true }
      else w.push s
    | a :: ':' :: rest => if a.isAlpha then (w.push [a, ':']).push rest else w.push s
    | _ => w.push s
  else w.push s

/-- Follows one segment: two dots lead back, a dot stays, and any other name leads on. -/
def step (file : Bool) (w : Walk) (s : List Char) : Walk :=
  if isTwoDots s then w.leave else if isDot s then w else w.enter file s

end Walk

/-- Follows all segments of a path.  Dots at its end leave a slash there. -/
def follow (file : Bool) (segments : List (List Char)) : Walk :=
  let w := segments.foldl (Walk.step file) {}
  if segments.getLast?.any fun s => isDot s || isTwoDots s then w.push [] else w

/-- The segments of a path behind its first slash. -/
def splitPath (special : Bool) (cs : List Char) : List (List Char) :=
  splitOn '/' (if special then cs.map fun c => if c = '\\' then '/' else c else cs)

/-- The way of a walk, with a slash before each segment. -/
def Walk.path (w : Walk) : List Char := w.before.reverse.flatMap ('/' :: ·)

/-- The path behind its first slash. -/
def readSegments (special : Bool) (cs : List Char) : String :=
  String.ofList (follow false (splitPath special cs)).path

/-- The path behind an authority. -/
def readPath (special : Bool) (cs : List Char) : String :=
  match cs with
  | [] => if special then "/" else ""
  | c :: rest => readSegments special (if isSlash special c then rest else c :: rest)

/-! ### Authority -/

/-- A port, and none if it is the scheme's own or empty. -/
def readPort? (scheme : String) (cs : List Char) : Option (Option Nat) :=
  if cs.isEmpty then some none
  else match Text.natural? cs with
    | none => none
    | some n => if 65535 < n then none else some (if ownPort? scheme = some n then none else some n)

/-- A host up to the first colon outside of brackets, and what is behind that colon. -/
def cutPort (inBrackets : Bool) : List Char → List Char × Option (List Char)
  | [] => ([], none)
  | c :: cs =>
    if c = ':' && !inBrackets then ([], some cs)
    else
      let r := cutPort (c = '[' || (inBrackets && c ≠ ']')) cs
      (c :: r.1, r.2)

/-- Behind the digits of a port a backslash begins the path. -/
def splitPort (port : List Char) : List Char × List Char :=
  match port.span fun c => (Text.decimalValue? c).isSome with
  | (digits, '\\' :: path) => (digits, '\\' :: path)
  | _ => (port, [])

/-- A user's name and password. -/
def readUser (cs : List Char) : String × String :=
  let (name, password) := cutMark ':' cs
  (String.ofList (encode userSet name), String.ofList (encode userSet (password.getD [])))

/-- User, host and port of an address, and the start of its path if that is at the end of
the port.  The host may be missing if the scheme is not a usual one and nothing is said
about its user or port; `more` tells whether anything follows. -/
def readAuthority? (scheme : String) (cs : List Char) (more : Bool) :
    Option (Url × List Char) := do
  let (user, place) := match cutLast '@' cs with
    | some (user, place) => (some user, place)
    | none => (none, cs)
  let (userName, password) := readUser (user.getD [])
  let (host, port) := cutPort false place
  let special := isSpecial scheme
  let named := userName ≠ "" || password ≠ ""
  if host.isEmpty && (special || named || port.isSome || (user = some [] && more)) then none
  else
    let host ← if host.isEmpty then some ""
      else if special then readHost? host else readOtherHost? host
    let (digits, path) := splitPort (port.getD [])
    let port ← readPort? scheme digits
    return ({ scheme, userName, password, host := some host, port }, path)

/-! ### Whole addresses -/

/-- An address behind the slashes before its authority. -/
def readBehindSlashes? (scheme : String) (cs : List Char) (more : Bool) : Option Url := do
  let special := isSpecial scheme
  let (authority, path) := cs.span fun c => !isSlash special c
  let (u, start) ← readAuthority? scheme authority (more || !path.isEmpty)
  return { u with path := readPath special (start ++ path) }

/-- A file's address on a host, with the segments of its path.  A file on a drive is on no
host, and slashes at the start of the path are one. -/
def fileOn (host : String) (segments : List (List Char)) : Url :=
  let w := follow true segments
  { scheme := "file"
    host := some (if w.onDrive then "" else host)
    path := String.ofList ('/' :: w.path.dropWhile (· = '/')) }

/-- Is the text a drive and nothing else? -/
def isDrive (cs : List Char) : Bool := cs.length = 2 && namesDrive cs

/-- A file's address behind two slashes. -/
def readFileBehindSlashes? (cs : List Char) : Option Url := do
  let (host, path) := cs.span fun c => !isSlash true c
  if isDrive host then return fileOn "" (splitPath true cs)
  else if host.isEmpty then return fileOn "" (splitPath true path)
  else
    let host ← readHost? host
    if host = "localhost" then return fileOn "" (splitPath true path)
    else return fileOn host (splitPath true (path.drop 1))

/-- The text behind a slash of either kind, if it begins with one. -/
def dropSlash? : List Char → Option (List Char)
  | c :: cs => if isSlash true c then some cs else none
  | [] => none

/-- A file's address behind its scheme. -/
def readFile? (cs : List Char) : Option Url :=
  match dropSlash? cs with
  | none => some (fileOn "" (splitPath true cs))
  | some rest =>
    match dropSlash? rest with
    | none => some (fileOn "" (splitPath true rest))
    | some more => readFileBehindSlashes? more

/-- An address between its scheme and its query; `more` tells whether anything follows. -/
def readPlace? (scheme : String) (cs : List Char) (more : Bool) : Option Url :=
  if scheme = "file" then readFile? cs
  else if isSpecial scheme then readBehindSlashes? scheme (cs.dropWhile (isSlash true)) more
  else match cs with
    | '/' :: '/' :: rest => readBehindSlashes? scheme rest more
    | '/' :: rest => some { scheme, path := readSegments false rest }
    | cs => some { scheme, path := String.ofList (encode isControl cs) }

/-- May the character stand in a scheme? -/
def isSchemeChar (c : Char) : Bool := c.isAlphanum || c = '+' || c = '-' || c = '.'

/-- The scheme in lower case, and what is behind its colon. -/
def readScheme? (cs : List Char) : Option (String × List Char) :=
  match cutMark ':' cs with
  | (c :: name, some rest) =>
    if c.isAlpha && name.all isSchemeChar then
      some (String.ofList ((c :: name).map Char.toLower), rest)
    else none
  | _ => none

/-- What counts of the text of an address. -/
def clean (cs : List Char) : List Char :=
  let isEdge (c : Char) : Bool := c.toNat ≤ 32
  let cs := ((cs.dropWhile isEdge).reverse.dropWhile isEdge).reverse
  cs.filter fun c => !(c = '\t' || c = '\n' || c = '\r')

/-- Reads an address that stands on its own. -/
def parse? (s : String) : Option Url := do
  let (scheme, rest) ← readScheme? (clean s.toList)
  let special := isSpecial scheme
  let (rest, fragment) := cutMark '#' rest
  let (place, query) := cutMark '?' rest
  let u ← readPlace? scheme place (query.isSome || fragment.isSome)
  return { u with
    query := query.map fun q => String.ofList (encode (querySet special) q)
    fragment := fragment.map fun f => String.ofList (encode fragmentSet f) }

end Dialogue.Http.Url
