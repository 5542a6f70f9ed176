/-
A disk in memory.

Every directory and file stands at a place, which is told by the names that lead to it.
A path is followed name by name from the root, where relative paths start as well: a lone
dot stays, two dots go up, and every name on the way has to be a directory's.  What a path
leads to is therefore an entry of a directory that is there, whether or not the entry is.
-/
import Dialogue.Disk

namespace Dialogue

/-- What can stand at a place. -/
inductive FileNode where
  | directory
  | file (content : List UInt8)
  deriving DecidableEq, Repr

/-- The names that lead to a node, the last one first; the root has none. -/
abbrev Place := List String

/-- A disk as the list of its nodes, the one put last first. -/
structure FileTree where
  /-- All nodes but the root. -/
  nodes : List (Place × FileNode) := []
  deriving DecidableEq, Repr

namespace FileTree

/-- The last name of a path and the place of the directory that it is looked up in. -/
structure Entry where
  parent : Place
  name : String
  /-- Does a slash behind the name claim a directory? -/
  claimsDirectory : Bool
  deriving DecidableEq, Repr

/-- Where the entry is, if it is there at all. -/
def Entry.place (e : Entry) : Place := e.name :: e.parent

/-- Where a path leads. -/
inductive Target where
  /-- A directory that is there, reached without its name: the root, `.` or `..`. -/
  | directory (place : Place)
  | entry (e : Entry)
  deriving DecidableEq, Repr

/-- The node at a place; the root is always a directory. -/
def node? (t : FileTree) : Place → Option FileNode
  | [] => some .directory
  | place => t.nodes.lookup place

/-- Takes the node away from a place. -/
def remove (t : FileTree) (place : Place) : FileTree := ⟨t.nodes.filter (·.1 ≠ place)⟩

/-- Puts a node at a place, instead of the one there. -/
def put (t : FileTree) (place : Place) (n : FileNode) : FileTree :=
  ⟨(place, n) :: (t.remove place).nodes⟩

/-- The files with their content. -/
def files (t : FileTree) : List (Place × List UInt8) :=
  t.nodes.filterMap fun n =>
    match n.2 with
    | .file content => some (n.1, content)
    | .directory => none

/-! ### Following paths -/

/-- The most bytes that a name can have. -/
def nameLimit : Nat := 255

/-- The most bytes that a path can have. -/
def pathLimit : Nat := 4095

/-- What stands under a name in a directory. -/
def child? (t : FileTree) (parent : Place) (name : String) :
    Except DiskRefusal (Option FileNode) :=
  if nameLimit < name.utf8ByteSize then .error .nameTooLong
  else .ok (t.node? (name :: parent))

/-- The directory that a name leads to from another one. -/
def enter (t : FileTree) (place : Place) (name : String) : Except DiskRefusal Place :=
  if name = "." then .ok place
  else if name = ".." then .ok place.tail
  else match t.child? place name with
    | .error e => .error e
    | .ok none => .error .missing
    | .ok (some (.file _)) => .error .notDirectory
    | .ok (some .directory) => .ok (name :: place)

/-- Follows a path to where it leads.  All its names but the last have to be directories
that are there. -/
def follow (t : FileTree) (p : String) : Except DiskRefusal Target :=
  if p.toList.contains '\x00' then .error .zeroInName
  else if pathLimit < p.utf8ByteSize then .error .nameTooLong
  else match (Path.names p).reverse with
    | [] => if p = "" then .error .missing else .ok (.directory [])
    | name :: front => do
      let place ← front.reverse.foldlM t.enter []
      if name = "." || name = ".." then return .directory (← t.enter place name)
      return .entry ⟨place, name, p.endsWith "/"⟩

/-- What a path leads to. -/
def get? (t : FileTree) (p : String) : Option FileNode :=
  match t.follow p with
  | .error _ => none
  | .ok (.directory place) => t.node? place
  | .ok (.entry e) =>
    match t.child? e.parent e.name with
    | .ok (some (.file content)) => if e.claimsDirectory then none else some (.file content)
    | .ok n => n
    | .error _ => none

/-! ### Operations -/

/-- What a reader finds: a directory is no file, and neither is what cannot be reached. -/
def look (t : FileTree) (p : String) : Found :=
  match t.get? p with
  | some (.file content) => .content content
  | _ => .nothing

/-- Makes a directory whose parent is there. -/
def createDir (t : FileTree) (p : String) : Except DiskRefusal FileTree := do
  match ← t.follow p with
  | .directory _ => throw .exists
  | .entry e =>
    match ← t.child? e.parent e.name with
    | some _ => throw .exists
    | none => return t.put e.place .directory

/-- The tree after an operation; one that was refused changed nothing. -/
def attempt (t : FileTree) : Except DiskRefusal FileTree → Except DiskRefusal Unit × FileTree
  | .ok t => (.ok (), t)
  | .error e => (.error e, t)

/-- Makes a directory unless it is there. -/
def ensureDir (p : String) (t : FileTree) : Except DiskRefusal Unit × FileTree :=
  match t.createDir p with
  | .ok t => (.ok (), t)
  | .error e => (if t.get? p = some .directory then .ok () else .error e, t)

/-- Makes a directory and those above it, as far as they are missing. -/
def createDirs (t : FileTree) (p : String) : Except DiskRefusal Unit × FileTree :=
  ensureDirs (m := StateM FileTree) ensureDir p t

/-- Writes a whole file, whose directory has to be there. -/
def write (t : FileTree) (p : String) (content : List UInt8) :
    Except DiskRefusal Unit × FileTree :=
  t.attempt do
    match ← t.follow p with
    | .directory _ => throw .isDirectory
    | .entry e =>
      if e.claimsDirectory then throw .isDirectory
      match ← t.child? e.parent e.name with
      | some .directory => throw .isDirectory
      | _ => return t.put e.place (.file content)

/-- Moves the file of one entry to another one. -/
def move (t : FileTree) (source target : Entry) : Except DiskRefusal FileTree := do
  match ← t.child? source.parent source.name with
  | none => throw .missing
  | some .directory => throw .isDirectory
  | some (.file content) =>
    let replaced ← t.child? target.parent target.name
    if source.claimsDirectory || target.claimsDirectory then throw .notDirectory
    if replaced = some .directory then throw .isDirectory
    return (t.remove source.place).put target.place (.file content)

/-- Moves the file of one path to another.  Neither may be reached without its name. -/
def rename (t : FileTree) (p q : String) : Except DiskRefusal Unit × FileTree :=
  t.attempt do
    match ← t.follow p, ← t.follow q with
    | .entry source, .entry target => t.move source target
    | _, _ => throw .busy

/-- The tree as a disk. -/
def disk : Disk (StateM FileTree) where
  look p := fun t => (t.look p, t)
  createDirs p := fun t => t.createDirs p
  write p content := fun t => t.write p content
  rename p q := fun t => t.rename p q

end FileTree

end Dialogue
