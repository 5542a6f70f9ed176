/-
Paths as text: names with slashes between them.

Slashes at the end of a path and doubled ones between names mean nothing, and neither does
a lone dot behind a slash.  The last name is what stands before all of these, so taking
the parent or changing the extension drops them.  Only text is looked at: `..` is a name
like others here, because what it means depends on the disk.
-/
import Dialogue.Text.Split

namespace Dialogue.Path

/-- Does the path start at the root? -/
def isAbsolute (p : String) : Bool := p.startsWith "/"

/-- A name below a path; an absolute path stands for itself. -/
def join (p name : String) : String :=
  if isAbsolute name || p = "" then name
  else if p.endsWith "/" then p ++ name
  else p ++ "/" ++ name

/-- The names of a path in order, lone dots among them. -/
def names (p : String) : List String :=
  ((Text.splitOn '/' p.toList).filter (!·.isEmpty)).map String.ofList

/-! ### The last name -/

/-- Drops, from a path back to front, what means nothing behind its last name.  The first
character always stays, so the root is kept, and a dot that starts a path. -/
def dropIdle : List Char → List Char
  | '/' :: c :: front => dropIdle (c :: front)
  | '.' :: '/' :: front => dropIdle ('/' :: front)
  | cs => cs

/-- The last name of a path and the path before it, both back to front. -/
def cutBackwards (p : String) : List Char × List Char :=
  let cs := dropIdle p.toList.reverse
  (cs.takeWhile (· ≠ '/'), cs.dropWhile (· ≠ '/'))

/-- The path without its last name; neither the root nor an empty path has a parent. -/
def parent? (p : String) : Option String :=
  match cutBackwards p with
  | ([], _) => none
  | (_, front) => some (String.ofList (dropIdle front).reverse)

theorem length_dropIdle_le (cs : List Char) : (dropIdle cs).length ≤ cs.length := by
  fun_induction dropIdle cs with
  | case1 c front ih => exact Nat.le_succ_of_le ih
  | case2 front ih => exact Nat.le_succ_of_le ih
  | case3 => exact Nat.le_refl _

theorem length_cutBackwards_le (p : String) :
    (cutBackwards p).1.length + (cutBackwards p).2.length ≤ p.length := by
  rw [cutBackwards, ← List.length_append, List.takeWhile_append_dropWhile]
  simpa [← String.length_toList] using length_dropIdle_le p.toList.reverse

/-- Whoever goes from parent to parent comes to an end. -/
theorem length_lt_of_parent? {p q : String} (h : parent? p = some q) : q.length < p.length := by
  have cut := length_cutBackwards_le p
  unfold parent? at h
  split at h
  · simp at h
  · next name front ne e =>
    obtain rfl := Option.some.inj h
    have named : 0 < name.length := List.length_pos_iff.2 ne
    have := length_dropIdle_le front
    simp only [e, String.length_ofList, List.length_reverse] at cut ⊢
    omega

/-! ### The extension

It starts at the last dot of a name, but a dot that starts the name starts no extension. -/

/-- The part of a name before its extension, both back to front, if it has one. -/
def stem? (name : List Char) : Option (List Char) :=
  match name.dropWhile (· ≠ '.') with
  | [] | ['.'] => none
  | _ :: stem => some stem

/-- The path with another extension behind its last name.  Dots alone are no name and take
none.  Where a path ends in an extension with a lone dot before it, what is left without
the extension is `..`, and the path ends there. -/
def withExtension (p extension : String) : String :=
  let (name, front) := cutBackwards p
  if name = [] || name = ['.'] || name = ['.', '.'] then p
  else
    let stem := (stem? name).getD name
    if stem = ['.'] && name ++ front = p.toList.reverse then
      String.ofList (('.' :: '.' :: front).reverse)
    else String.ofList ((stem ++ front).reverse) ++ "." ++ extension

end Dialogue.Path
