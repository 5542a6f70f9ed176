/-
Reading a value of a wanted shape.

A reader knows what it wants, so a text is refused at the first byte that cannot be part
of it.  Lists and objects count against a limit of nesting.  A record is described by its
fields: it is read from an object, whose other members are passed over or collected, and,
where the record allows, from a list of its fields in order.

Rules about a whole record - a field twice, a field missing, a list too short - give a
loose fault.  It is placed behind the closing bracket if that comes next, and else where
the bracket was looked for.
-/
import Dialogue.Json.Skip

namespace Dialogue.Json

/-- How deep lists and objects may nest. -/
def nestingLimit : Nat := 127

/-! ### What was found instead -/

/-- Reads what stands there, as far as a message names it: a scalar is read whole, of a
list or an object only the kind is told. -/
def readFound : Reader Found := fun bs =>
  match bs with
  | [] => failAhead .expectedValue []
  | b :: rest =>
    if b = Byte.lowerN then (readWord afterN rest).map (Found.null, ·)
    else if b = Byte.lowerT then (readWord afterT rest).map (Found.bool true, ·)
    else if b = Byte.lowerF then (readWord afterF rest).map (Found.bool false, ·)
    else if startsNumber b then (readNumber bs).map fun r => (Found.number r.1, r.2)
    else if b = Byte.quote then (readTextBody rest).map fun r => (Found.text r.1, r.2)
    else if b = Byte.openBracket then .ok (.sequence, bs)
    else if b = Byte.openBrace then .ok (.map, bs)
    else failAhead .expectedValue bs

/-- The fault of finding something else than is wanted. -/
def failWrongType {α : Type} (wanted : String) (bs : List UInt8) : Except Fault α :=
  match readFound bs with
  | .error f => .error f
  | .ok (found, rest) => fail (.wrongType found wanted) rest

/-! ### Scalars -/

/-- Passes over blanks to the first byte of a value. -/
def atValue {α : Type} (k : UInt8 → List UInt8 → Except Fault (α × List UInt8)) : Reader α :=
  fun bs =>
    match skipBlanks bs with
    | [] => failAhead .endInValue []
    | b :: rest => k b rest

/-- Reads a text. -/
def readText : Reader String := atValue fun b rest =>
  if b = Byte.quote then readTextBody rest else failWrongType "a string" (b :: rest)

/-- Reads `true` or `false`. -/
def readBool : Reader Bool := atValue fun b rest =>
  if b = Byte.lowerT then (readWord afterT rest).map (true, ·)
  else if b = Byte.lowerF then (readWord afterF rest).map (false, ·)
  else failWrongType "a boolean" (b :: rest)

/-- The double for a number. -/
def Number.toBinary64 : Number → Binary64
  | .integer (.ofNat n) => Binary64.ofNat n
  | .integer (.negSucc n) => (Binary64.ofNat (n + 1)).neg
  | .real b => b

/-- Reads a number of any kind as a double. -/
def readReal : Reader Binary64 := atValue fun b rest =>
  if startsNumber b then (readNumber (b :: rest)).map fun r => (r.1.toBinary64, r.2)
  else failWrongType "f64" (b :: rest)

/-- Reads a whole number that is not negative. -/
def readNatural : Reader Nat := atValue fun b rest =>
  if startsNumber b then
    match readNumber (b :: rest) with
    | .error f => .error f
    | .ok (.integer (.ofNat n), rest) => .ok (n, rest)
    | .ok (.integer i, rest) => fail (.wrongValue (.number (.integer i)) "u64") rest
    | .ok (.real b, rest) => fail (.wrongType (.number (.real b)) "u64") rest
  else failWrongType "u64" (b :: rest)

/-- `null`, or what the reader reads. -/
def readOptional {α : Type} (read : Reader α) : Reader (Option α) := fun bs =>
  match skipBlanks bs with
  | b :: rest =>
    if b = Byte.lowerN then (readWord afterN rest).map (none, ·)
    else (read (b :: rest)).map fun r => (some r.1, r.2)
  | [] => (read []).map fun r => (some r.1, r.2)

/-! ### Lists -/

/-- Is there an item?  If so, it comes next; if not, the closing bracket does. -/
def nextItem (first : Bool) : Reader Bool := fun bs =>
  match skipBlanks bs with
  | [] => failAhead .endInList []
  | b :: rest =>
    if b = Byte.closeBracket then .ok (false, b :: rest)
    else if first then .ok (true, b :: rest)
    else if b = Byte.comma then
      match skipBlanks rest with
      | [] => failAhead .endInValue []
      | c :: more =>
        if c = Byte.closeBracket then failAhead .trailingComma (c :: more)
        else .ok (true, c :: more)
    else failAhead .expectedCommaOrBracket (b :: rest)

/-- The end of a list: a fault if it does not come, and the bytes left in either case. -/
def closeList (bs : List UInt8) : Option Fault × List UInt8 :=
  match skipBlanks bs with
  | [] => (some (.placed .endInList 0), [])
  | b :: rest =>
    if b = Byte.closeBracket then (none, rest)
    else if b = Byte.comma then
      let after := skipBlanks rest
      match after with
      | c :: _ =>
        (some (.placed
          (if c = Byte.closeBracket then .trailingComma else .trailingCharacters)
          (after.length - 1)), after)
      | [] => (some (.placed .trailingCharacters 0), [])
    else (some (.placed .trailingCharacters rest.length), b :: rest)

/-- The end of an object, likewise. -/
def closeObject (bs : List UInt8) : Option Fault × List UInt8 :=
  match skipBlanks bs with
  | [] => (some (.placed .endInObject 0), [])
  | b :: rest =>
    if b = Byte.closeBrace then (none, rest)
    else if b = Byte.comma then (some (.placed .trailingComma rest.length), b :: rest)
    else (some (.placed .trailingCharacters rest.length), b :: rest)

/-- Ends a structure.  A loose fault of its content is placed where the ending stops. -/
def closing {α : Type} (close : List UInt8 → Option Fault × List UInt8)
    (content : Except Fault (α × List UInt8)) : Except Fault (α × List UInt8) :=
  match content with
  | .ok (a, rest) =>
    match close rest with
    | (none, rest) => .ok (a, rest)
    | (some f, _) => .error f
  | .error (.loose cause rest) => .error (.placed cause (close rest).2.length)
  | .error f => .error f

/-- Items up to the closing bracket; `acc` holds those read so far, the last one first.
Every item takes at least one byte, so as many steps as there are bytes suffice. -/
def readItems {α : Type} (item : Reader α) : Nat → Bool → List α → Reader (List α)
  | 0, _, _, bs => failAhead .endInList bs
  | fuel + 1, first, acc, bs =>
    match nextItem first bs with
    | .error f => .error f
    | .ok (false, rest) => .ok (acc.reverse, rest)
    | .ok (true, rest) =>
      match item rest with
      | .error f => .error f
      | .ok (a, rest) => readItems item fuel false (a :: acc) rest

/-- A list behind its opening bracket. -/
def readListBody {α : Type} (item : Reader α) : Reader (List α) := fun bs =>
  closing closeList (readItems item (bs.length + 1) true [] bs)

/-- One level of nesting deeper, if the limit allows; `bs` starts with the bracket. -/
def deeper {α : Type} (depth : Nat) (bs : List UInt8)
    (k : Nat → Except Fault (α × List UInt8)) : Except Fault (α × List UInt8) :=
  match depth with
  | 0 => failAhead .tooDeep bs
  | depth + 1 => k depth

/-- Reads a list whose items are read one level deeper. -/
def readList {α : Type} (item : Nat → Reader α) (depth : Nat) : Reader (List α) :=
  atValue fun b rest =>
    if b = Byte.openBracket then
      deeper depth (b :: rest) fun depth => readListBody (item depth) rest
    else failWrongType "a sequence" (b :: rest)

/-! ### Objects -/

/-- The name of the next member, or none if the closing brace comes next. -/
def nextName (first : Bool) : Reader (Option String) := fun bs =>
  let named (bs : List UInt8) : Except Fault (Option String × List UInt8) :=
    (readTextBody bs).map fun r => (some r.1, r.2)
  match skipBlanks bs with
  | [] => failAhead .endInObject []
  | b :: rest =>
    if b = Byte.closeBrace then .ok (none, b :: rest)
    else if first then
      if b = Byte.quote then named rest else failAhead .nameMustBeText (b :: rest)
    else if b = Byte.comma then
      match skipBlanks rest with
      | [] => failAhead .endInValue []
      | c :: more =>
        if c = Byte.quote then named more
        else if c = Byte.closeBrace then failAhead .trailingComma (c :: more)
        else failAhead .nameMustBeText (c :: more)
    else failAhead .expectedCommaOrBrace (b :: rest)

/-- The colon behind a name. -/
def readColon (bs : List UInt8) : Except Fault (List UInt8) :=
  match skipBlanks bs with
  | [] => failAhead .endInObject []
  | b :: rest => if b = Byte.colon then .ok rest else failAhead .expectedColon (b :: rest)

/-- A value behind its colon. -/
def behindColon {α : Type} (read : Reader α) : Reader α := fun bs =>
  match readColon bs with
  | .error f => .error f
  | .ok rest => read rest

/-- Members up to the closing brace; `member name s` reads what follows the name into the
state `s`. -/
def readMembers {σ : Type} (member : String → σ → Reader σ) : Nat → Bool → σ → Reader σ
  | 0, _, _, bs => failAhead .endInObject bs
  | fuel + 1, first, s, bs =>
    match nextName first bs with
    | .error f => .error f
    | .ok (none, rest) => .ok (s, rest)
    | .ok (some name, rest) =>
      match member name s rest with
      | .error f => .error f
      | .ok (s, rest) => readMembers member fuel false s rest

/-! ### Any value -/

/-- Any value within the limit of nesting. -/
def readValue : Nat → Reader Value
  | depth, bs =>
    match skipBlanks bs with
    | [] => failAhead .endInValue []
    | b :: rest =>
      if b = Byte.lowerN then (readWord afterN rest).map (Value.null, ·)
      else if b = Byte.lowerT then (readWord afterT rest).map (Value.bool true, ·)
      else if b = Byte.lowerF then (readWord afterF rest).map (Value.bool false, ·)
      else if startsNumber b then (readNumber (b :: rest)).map fun r => (.number r.1, r.2)
      else if b = Byte.quote then (readTextBody rest).map fun r => (.text r.1, r.2)
      else if b = Byte.openBracket then
        match depth with
        | 0 => failAhead .tooDeep (b :: rest)
        | depth + 1 => (readListBody (readValue depth) rest).map fun r => (.array r.1, r.2)
      else if b = Byte.openBrace then
        match depth with
        | 0 => failAhead .tooDeep (b :: rest)
        | depth + 1 =>
          let member (name : String) (ms : List (String × Value)) : Reader _ :=
            behindColon fun bs =>
              (readValue depth bs).map fun r => (insertMember name r.1 ms, r.2)
          (closing closeObject (readMembers member (rest.length + 1) true [] rest)).map
            fun r => (.object r.1, r.2)
      else failAhead .expectedValue (b :: rest)

/-! ### Records -/

/-- A field of a record that is read into a state `σ`. -/
structure Field (σ : Type) where
  name : String
  /-- Was the field read already? -/
  isRead : σ → Bool
  /-- Reads the field's value, with the nesting that is left. -/
  read : Nat → σ → Reader σ
  required : Bool := false

/-- A field whose value is stored by `put`. -/
def Field.of {σ α : Type} (name : String) (get : σ → Option α) (put : α → σ → σ)
    (read : Nat → Reader α) (required : Bool) : Field σ where
  name := name
  isRead s := (get s).isSome
  read depth s bs := (read depth bs).map fun r => (put r.1 s, r.2)
  required := required

/-- A record of type `β`, gathered in a state `σ`. -/
structure Record (σ β : Type) where
  /-- How messages name the record. -/
  title : String
  start : σ
  fields : List (Field σ)
  /-- What is done with other members; without it they are passed over. -/
  collect : Option (String → Value → σ → σ) := none
  /-- May the record be written as a list of its fields? -/
  asList : Bool := true
  finish : σ → Except Cause β

namespace Record

variable {σ β : Type}

/-- Reads what follows a member's name. -/
def readMember (r : Record σ β) (depth : Nat) (name : String) (s : σ) : Reader σ := fun bs =>
  match r.fields.find? (·.name = name) with
  | some f =>
    if f.isRead s then .error (.loose (.repeatedField f.name) bs)
    else behindColon (f.read depth s) bs
  | none =>
    match r.collect with
    | none => behindColon (fun bs => (skipValue bs).map fun p => (s, p.2)) bs
    | some keep =>
      behindColon (fun bs => (readValue depth bs).map fun p => (keep name p.1 s, p.2)) bs

/-- The first required field that was not read. -/
def missing? (r : Record σ β) (s : σ) : Option String :=
  (r.fields.find? fun f => f.required && !f.isRead s).map (·.name)

/-- A record behind its opening brace. -/
def readObjectBody (r : Record σ β) (depth : Nat) : Reader β := fun bs =>
  closing closeObject <|
    match readMembers (r.readMember depth) (bs.length + 1) true r.start bs with
    | .error f => .error f
    | .ok (s, rest) =>
      match r.missing? s with
      | some name => .error (.loose (.missingField name) rest)
      | none =>
        match r.finish s with
        | .error cause => .error (.loose cause rest)
        | .ok b => .ok (b, rest)

/-- How messages name a list of the record's fields. -/
def listTitle (r : Record σ β) : String :=
  r.title ++ " with " ++ toString r.fields.length ++
    (if r.fields.length = 1 then " element" else " elements")

/-- The fields in order, as far as the list goes; `index` counts those before. -/
def readFields (r : Record σ β) (depth : Nat) :
    List (Field σ) → Nat → Bool → σ → Reader σ
  | [], _, _, s, bs => .ok (s, bs)
  | f :: fs, index, first, s, bs =>
    match nextItem first bs with
    | .error e => .error e
    | .ok (false, rest) =>
      if f.required then .error (.loose (.wrongLength index r.listTitle) rest)
      else r.readFields depth fs (index + 1) first s rest
    | .ok (true, rest) =>
      match f.read depth s rest with
      | .error e => .error e
      | .ok (s, rest) => r.readFields depth fs (index + 1) false s rest

/-- A record behind an opening bracket. -/
def readListBody (r : Record σ β) (depth : Nat) : Reader β := fun bs =>
  closing closeList <|
    match r.readFields depth r.fields 0 true r.start bs with
    | .error f => .error f
    | .ok (s, rest) =>
      match r.finish s with
      | .error cause => .error (.loose cause rest)
      | .ok b => .ok (b, rest)

/-- Reads a record, from an object or, if the record may stand so, from a list of its
fields. -/
def read (r : Record σ β) (depth : Nat) : Reader β := atValue fun b rest =>
  if b = Byte.openBrace then
    deeper depth (b :: rest) fun depth => r.readObjectBody depth rest
  else if b = Byte.openBracket && r.asList then
    deeper depth (b :: rest) fun depth => r.readListBody depth rest
  else failWrongType r.title (b :: rest)

end Record

/-! ### Names -/

/-- The value that a name stands for. -/
def lookUp {α : Type} (names : List (String × α)) (name : String) : Reader α := fun rest =>
  match names.find? (·.1 = name) with
  | some p => .ok (p.2, rest)
  | none => fail (.unknownName name (names.map (·.1))) rest

/-- The end of an object around a name. -/
def closeNameObject {α : Type} (a : α) : Reader α := fun bs =>
  match skipBlanks bs with
  | [] => fail .endInObject []
  | b :: rest => if b = Byte.closeBrace then .ok (a, rest) else fail .expectedValue (b :: rest)

/-- `null` and nothing else. -/
def readNull : Reader Unit := atValue fun b rest =>
  if b = Byte.lowerN then (readWord afterN rest).map ((), ·)
  else failWrongType "unit" (b :: rest)

/-- A name in an object around it. -/
def readNameInObject {α : Type} (names : List (String × α)) : Reader α := fun bs =>
  match skipBlanks bs with
  | [] => failAhead .endInObject []
  | b :: rest =>
    if b = Byte.quote then
      match readTextBody rest with
      | .error f => .error f
      | .ok (name, rest) => lookUp names name rest
    else if b = Byte.closeBrace then failAhead .expectedValue (b :: rest)
    else failAhead .nameMustBeText (b :: rest)

/-- One of some names, as a text or as the only member of an object, with `null` behind it. -/
def readName {α : Type} (names : List (String × α)) (depth : Nat) : Reader α :=
  atValue fun b rest =>
    if b = Byte.quote then
      match readTextBody rest with
      | .error f => .error f
      | .ok (name, rest) => lookUp names name rest
    else if b = Byte.openBrace then
      deeper depth (b :: rest) fun _ =>
        match readNameInObject names rest with
        | .error f => .error f
        | .ok (a, rest) =>
          match behindColon readNull rest with
          | .error f => .error f
          | .ok (_, rest) => closeNameObject a rest
    else failAhead .expectedValue (b :: rest)

/-! ### Whole texts -/

/-- The place of a fault in the text that was read. -/
def Fault.problem (text : List UInt8) (f : Fault) : Problem :=
  let place := match f.place with
    | .placed _ left => placeBehind (text.take (text.length - left))
    | .loose _ _ => (1, 0)
  { cause := match f with
      | .placed cause _ => cause
      | .loose cause _ => cause
    line := place.1, column := place.2 }

/-- Reads a whole text. -/
def readWhole {α : Type} (read : Reader α) (text : List UInt8) : Except Problem α :=
  let result : Except Fault α :=
    match read text with
    | .error f => .error f
    | .ok (a, rest) =>
      match skipBlanks rest with
      | [] => .ok a
      | b :: more => failAhead .trailingCharacters (b :: more)
  result.mapError (·.problem text)

/-- Reads a whole text that is given as characters. -/
def readString {α : Type} (read : Reader α) (s : String) : Except Problem α :=
  readWhole read (Text.Utf8.encode s.toList)

end Dialogue.Json
