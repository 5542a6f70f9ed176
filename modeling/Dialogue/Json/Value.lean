/-
JSON values and their text.

An object keeps its members as a list.  A value that was read has them sorted by name,
each name once: `ofMembers` sorts them in, and of equal names the last one stays.  The
writer writes them in the order it finds, so a record that is written as an object fixes
its own order.
-/
import Dialogue.Decimal.Shortest
import Dialogue.Text.Digits

namespace Dialogue.Json

/-- A number is whole, or a double. -/
inductive Number where
  | integer (i : Int)
  | real (b : Binary64)
  deriving DecidableEq, Repr, Inhabited

/-- A value of JSON. -/
inductive Value where
  | null
  | bool (b : Bool)
  | number (n : Number)
  | text (s : String)
  | array (items : List Value)
  | object (members : List (String × Value))
  deriving Repr, Inhabited

/-- Does the number read as zero? -/
def Number.isZero : Number → Bool
  | .integer i => i = 0
  | .real b => b.isZero

/-! ### Telling values apart -/

mutual

/-- Are two values the same? -/
def Value.same : Value → Value → Bool
  | .null, .null => true
  | .bool b, .bool c => b = c
  | .number m, .number n => m = n
  | .text s, .text t => s = t
  | .array vs, .array ws => sameItems vs ws
  | .object ms, .object ns => sameMembers ms ns
  | _, _ => false

/-- Are the items the same, one after the other? -/
def sameItems : List Value → List Value → Bool
  | [], [] => true
  | v :: vs, w :: ws => v.same w && sameItems vs ws
  | _, _ => false

/-- Are the members the same, one after the other, by name and value? -/
def sameMembers : List (String × Value) → List (String × Value) → Bool
  | [], [] => true
  | (m, v) :: ms, (n, w) :: ns => m = n && v.same w && sameMembers ms ns
  | _, _ => false

end

mutual

theorem Value.same_iff : ∀ {v w : Value}, v.same w = true ↔ v = w
  | .null, w => by cases w <;> simp [Value.same]
  | .bool b, w => by cases w <;> simp [Value.same]
  | .number n, w => by cases w <;> simp [Value.same]
  | .text s, w => by cases w <;> simp [Value.same]
  | .array vs, w => by cases w <;> simp [Value.same, sameItems_iff]
  | .object ms, w => by cases w <;> simp [Value.same, sameMembers_iff]

theorem sameItems_iff : ∀ {vs ws : List Value}, sameItems vs ws = true ↔ vs = ws
  | [], ws => by cases ws <;> simp [sameItems]
  | v :: vs, ws => by cases ws <;> simp [sameItems, Value.same_iff, sameItems_iff]

theorem sameMembers_iff : ∀ {ms ns : List (String × Value)}, sameMembers ms ns = true ↔ ms = ns
  | [], ns => by cases ns <;> simp [sameMembers]
  | (m, v) :: ms, [] => by simp [sameMembers]
  | (m, v) :: ms, (n, w) :: ns => by
    simp [sameMembers, Value.same_iff, sameMembers_iff, and_assoc]

end

instance : DecidableEq Value := fun _ _ => decidable_of_iff _ Value.same_iff

/-! ### Members -/

/-- Puts a member into a sorted list, in the place of one of the same name. -/
def insertMember {α : Type} (name : String) (v : α) : List (String × α) → List (String × α)
  | [] => [(name, v)]
  | (n, w) :: rest =>
    if name < n then (name, v) :: (n, w) :: rest
    else if name = n then (name, v) :: rest
    else (n, w) :: insertMember name v rest

/-- Sorted by name, the last member of a name. -/
def ofMembers {α : Type} (ms : List (String × α)) : List (String × α) :=
  ms.foldl (fun acc m => insertMember m.1 m.2 acc) []

/-- The member of an object. -/
def Value.member? (name : String) : Value → Option Value
  | .object ms => (ms.find? (·.1 = name)).map (·.2)
  | _ => none

/-- The text, if the value is one. -/
def Value.text? : Value → Option String
  | .text s => some s
  | _ => none

/-! ### Writing -/

/-- What stands in a text for a character. -/
def escapeChar (c : Char) : List Char :=
  if c = '"' then ['\\', '"']
  else if c = '\\' then ['\\', '\\']
  else if c.toNat = 8 then ['\\', 'b']
  else if c.toNat = 12 then ['\\', 'f']
  else if c = '\n' then ['\\', 'n']
  else if c = '\r' then ['\\', 'r']
  else if c = '\t' then ['\\', 't']
  else if c.toNat < 32 then
    ['\\', 'u', '0', '0', Nat.digitChar (c.toNat / 16), Nat.digitChar (c.toNat % 16)]
  else [c]

/-- A text in quotation marks. -/
def writeText (s : String) : List Char := '"' :: s.toList.flatMap escapeChar ++ ['"']

/-- A number in digits; a double always shows a point or an exponent. -/
def Number.write : Number → List Char
  | .integer (.ofNat n) => Text.decimal n
  | .integer (.negSucc n) => '-' :: Text.decimal (n + 1)
  | .real b => (Decimal.jsonLayout.write b).toList

mutual

/-- The value without any blanks. -/
def Value.write : Value → List Char
  | .null => ['n', 'u', 'l', 'l']
  | .bool true => ['t', 'r', 'u', 'e']
  | .bool false => ['f', 'a', 'l', 's', 'e']
  | .number n => n.write
  | .text s => writeText s
  | .array items => '[' :: writeItems items
  | .object members => '\x7b' :: writeMembers members

/-- The items and the closing bracket. -/
def writeItems : List Value → List Char
  | [] => [']']
  | [v] => v.write ++ [']']
  | v :: rest => v.write ++ ',' :: writeItems rest

/-- The members and the closing brace. -/
def writeMembers : List (String × Value) → List Char
  | [] => ['\x7d']
  | [(name, v)] => writeText name ++ ':' :: v.write ++ ['\x7d']
  | (name, v) :: rest => writeText name ++ ':' :: v.write ++ ',' :: writeMembers rest

end

/-- The text of a value without any blanks. -/
def Value.compact (v : Value) : String := String.ofList v.write

/-- One member a line, with two blanks before each; the values are written compactly. -/
def prettyMembers (ms : List (String × Value)) : String :=
  let line (m : String × Value) : List Char :=
    [' ', ' '] ++ writeText m.1 ++ [':', ' '] ++ m.2.write
  String.ofList
    (['\x7b', '\n'] ++ List.intercalate [',', '\n'] (ms.map line) ++ ['\n', '\x7d'])

end Dialogue.Json
