/-
Values, as far as settings tell them apart.

Settings come from a file and from the environment, and either may hold anything.  Only
texts, whole numbers, `null` and groups of members can become settings, so all other
values are one.
-/
import Dialogue.Json.Value

namespace Dialogue.Settings

/-- A value, as far as it can become a setting. -/
inductive Loose where
  | null
  | text (s : String)
  | whole (i : Int)
  /-- Members by name; of each only whether it is `null`. -/
  | group (members : List (String × Bool))
  | other
  deriving DecidableEq, Repr

/-- Values by the names of settings. -/
abbrev Layer := List (String × Loose)

namespace Loose

/-- Is the value `null`? -/
def isNull : Json.Value → Bool
  | .null => true
  | _ => false

/-- What a value of JSON is to the settings. -/
def ofJson : Json.Value → Loose
  | .null => .null
  | .text s => .text s
  | .number (.integer i) => .whole i
  | .object members => .group (members.map fun m => (m.1, isNull m.2))
  | _ => .other

/-- A later value in the place of an earlier one; groups are joined. -/
def overlay : Option Loose → Loose → Loose
  | some (.group old), .group new =>
    .group (new.foldl (fun ms m => Json.insertMember m.1 m.2 ms) old)
  | _, v => v

end Loose

namespace Layer

/-- The value under a name. -/
def value? (l : Layer) (name : String) : Option Loose := (l.find? (·.1 = name)).map (·.2)

/-- The layer with one more value over it. -/
def put (l : Layer) (name : String) (v : Loose) : Layer :=
  (name, Loose.overlay (l.value? name) v) :: l.filter (·.1 ≠ name)

/-- A layer over another one. -/
def above (upper lower : Layer) : Layer := upper.foldr (fun m l => l.put m.1 m.2) lower

end Layer

end Dialogue.Settings
