/-
What is asked of a disk.

A disk is known by four operations; each answers, and may refuse.  Whoever saves a file
is written over any disk, so the same steps run on a tree in memory and on a real one.
-/
import Dialogue.Disk.Path

namespace Dialogue

/-- Why a disk refuses an operation. -/
inductive DiskRefusal where
  | missing
  | busy
  | exists
  | notDirectory
  | isDirectory
  | nameTooLong
  /-- A character of code zero, which ends a name. -/
  | zeroInName
  /-- Whatever else may stop it, told in its own words. -/
  | other (text : String)
  deriving DecidableEq, Repr

/-- The refusal as the system words it. -/
def DiskRefusal.message : DiskRefusal → String
  | .missing => "No such file or directory (os error 2)"
  | .busy => "Device or resource busy (os error 16)"
  | .exists => "File exists (os error 17)"
  | .notDirectory => "Not a directory (os error 20)"
  | .isDirectory => "Is a directory (os error 21)"
  | .nameTooLong => "File name too long (os error 36)"
  | .zeroInName => "file name contained an unexpected NUL byte"
  | .other text => text

/-- What a reader finds at a path. -/
inductive Found where
  /-- No file; a directory is none. -/
  | nothing
  | content (bytes : List UInt8)
  /-- A file that cannot be read. -/
  | unreadable
  deriving DecidableEq, Repr

/-- The operations of a disk, in the monad that it answers in. -/
structure Disk (m : Type → Type) where
  look : String → m Found
  /-- Makes a directory and those above it, as far as they are missing. -/
  createDirs : String → m (Except DiskRefusal Unit)
  /-- Writes a whole file, in the place of what it held. -/
  write : String → List UInt8 → m (Except DiskRefusal Unit)
  /-- Moves a file to another path, in the place of a file there. -/
  rename : String → String → m (Except DiskRefusal Unit)

/-- Sees to a directory and those above it.  Only if others are missing are these made
first, and they stay if the directory still cannot be made. -/
def ensureDirs {m : Type → Type} [Monad m] (ensure : String → m (Except DiskRefusal Unit))
    (p : String) : m (Except DiskRefusal Unit) := do
  if p = "" then return .ok ()
  match ← ensure p with
  | .error .missing =>
    match h : Path.parent? p with
    | none => return .error .missing
    | some q =>
      have := Path.length_lt_of_parent? h
      match ← ensureDirs ensure q with
      | .ok () => ensure p
      | .error e => return .error e
  | answer => return answer
termination_by p.length

end Dialogue
