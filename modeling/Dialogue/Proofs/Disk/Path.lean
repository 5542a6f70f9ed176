/-
The last name of a path, read from either end.

A disk follows a path from its front and looks up the last of its names.  Changing the
extension works on text from the back, where slashes and lone dots are dropped first.  Both
mean the same name, unless it is a lone dot; so a path with another extension differs from the
path in its last name.  That the name of an extension with a dot in it cannot come out
unchanged is counting: the new name is the old one up to some dot, and then longer by what was
put behind it.
-/
import Mathlib.Tactic.Common
import Dialogue.Disk.Path
import Dialogue.Proofs.Text.Split

namespace Dialogue

namespace Path

/-! ### Names -/

/-- The names of a path as lists of characters. -/
def parts (cs : List Char) : List (List Char) := (Text.splitOn '/' cs).filter (!·.isEmpty)

theorem names_eq (p : String) : names p = (parts p.toList).map String.ofList := rfl

theorem parts_append (xs ys : List Char) : parts (xs ++ '/' :: ys) = parts xs ++ parts ys := by
  rw [parts, Text.splitOn_append, List.filter_append]
  rfl

theorem parts_of_name {w : List Char} (hne : w ≠ []) (hslash : '/' ∉ w) : parts w = [w] := by
  rw [parts, Text.splitOn_of_not_mem hslash]
  simp [hne]

/-- Nothing, or something with a slash at its start. -/
def Slashed (cs : List Char) : Prop := ∀ c ∈ cs.head?, c = '/'

theorem slashed_dropWhile (cs : List Char) : Slashed (cs.dropWhile (· ≠ '/')) := by
  intro c hc
  have hhead := List.head?_dropWhile_not (· ≠ '/') cs
  rw [Option.mem_def.mp hc] at hhead
  simpa using hhead

/-- What stands last behind a slash is the last part. -/
theorem getLast?_parts {w front : List Char} (hne : w ≠ []) (hslash : '/' ∉ w)
    (hfront : Slashed front) : (parts (front.reverse ++ w)).getLast? = some w := by
  cases front with
  | nil => rw [List.reverse_nil, List.nil_append, parts_of_name hne hslash, List.getLast?_singleton]
  | cons c front =>
    obtain rfl := hfront c rfl
    rw [List.reverse_cons, List.append_assoc, List.singleton_append, parts_append,
      parts_of_name hne hslash, List.getLast?_concat]

/-- Cutting a path from the back gives its last part, unless that is a lone dot. -/
theorem takeWhile_dropIdle {cs w : List Char} (h : (parts cs.reverse).getLast? = some w)
    (hdot : w ≠ ['.']) : (dropIdle cs).takeWhile (· ≠ '/') = w.reverse := by
  fun_induction dropIdle cs with
  | case1 c front ih =>
    refine ih ?_
    rw [List.reverse_cons, parts_append] at h
    have hnil : parts [] = [] := rfl
    rwa [hnil, List.append_nil] at h
  | case2 front ih =>
    -- The lone dot would be the last part.
    have hparts : (parts ('.' :: '/' :: front).reverse).getLast? = some ['.'] := by
      rw [List.reverse_cons]
      exact getLast?_parts (by simp) (by decide) (by simp [Slashed])
    rw [hparts] at h
    exact absurd (Option.some.inj h).symm hdot
  | case3 cs hslash hidle =>
    have hcut : cs = cs.takeWhile (· ≠ '/') ++ cs.dropWhile (· ≠ '/') :=
      List.takeWhile_append_dropWhile.symm
    have hno : '/' ∉ (cs.takeWhile (· ≠ '/')).reverse := by
      intro hmem
      simpa using List.all_eq_true.mp List.all_takeWhile '/' (List.mem_reverse.mp hmem)
    cases htake : cs.takeWhile (· ≠ '/') with
    | nil =>
      -- Only a slash can be first, and nothing is behind it.
      rw [htake, List.nil_append] at hcut
      cases cs with
      | nil => simp [parts, Text.splitOn] at h
      | cons c front =>
        obtain rfl : c = '/' := slashed_dropWhile (c :: front) c (by rw [← hcut]; rfl)
        cases front with
        | nil => simp [parts, Text.splitOn] at h
        | cons d front => exact absurd rfl (hslash d front)
    | cons c name =>
      rw [htake] at hno hcut
      rw [hcut, List.reverse_append,
        getLast?_parts (by simp) hno (slashed_dropWhile cs)] at h
      rw [← Option.some.inj h, List.reverse_reverse]

/-! ### The last name -/

/-- The last name of a path, which may be a dot or two. -/
def lastName? (p : String) : Option String := (names p).getLast?

theorem lastName?_eq {p n : String} :
    lastName? p = some n ↔ (parts p.toList).getLast? = some n.toList := by
  rw [lastName?, names_eq, List.getLast?_map, Option.map_eq_some_iff]
  constructor
  · rintro ⟨w, hw, rfl⟩
    rw [hw, String.toList_ofList]
  · intro h
    exact ⟨_, h, String.ofList_toList⟩

theorem cutBackwards_eq {p n : String} (h : lastName? p = some n) (hdot : n ≠ ".") :
    ∃ front, cutBackwards p = (n.toList.reverse, front) ∧ Slashed front := by
  refine ⟨_, ?_, slashed_dropWhile (dropIdle p.toList.reverse)⟩
  have hne : n.toList ≠ ['.'] := fun heq => hdot (String.toList_injective heq)
  have hparts : (parts p.toList.reverse.reverse).getLast? = some n.toList := by
    rw [List.reverse_reverse]
    exact lastName?_eq.mp h
  rw [cutBackwards, takeWhile_dropIdle hparts hne]

theorem ne_nil_of_lastName? {p n : String} (h : lastName? p = some n) : n.toList ≠ [] := by
  have hmem := List.mem_of_getLast? (lastName?_eq.mp h)
  have hkept := (List.mem_filter.mp hmem).2
  intro hnil
  rw [hnil] at hkept
  cases hkept

/-! ### Another extension -/

theorem mem_of_mem_stem {name : List Char} {c : Char} (h : c ∈ (stem? name).getD name) :
    c ∈ name := by
  unfold stem? at h
  split at h
  · exact h
  · exact h
  · rename_i stem hdrop
    have hsuffix : name.dropWhile (· ≠ '.') <:+ name := List.dropWhile_suffix _
    rw [hdrop] at hsuffix
    exact hsuffix.subset (List.mem_cons_of_mem _ h)

/-- The name of a path with another extension, back to front, unless it is `..`. -/
theorem lastName?_withExtension {p n n' extension : String} (h : lastName? p = some n)
    (hdot : n ≠ ".") (hup : n ≠ "..") (hextension : '/' ∉ extension.toList)
    (h' : lastName? (withExtension p extension) = some n') (hup' : n' ≠ "..") :
    n'.toList.reverse = extension.toList.reverse ++
      '.' :: (stem? n.toList.reverse).getD n.toList.reverse := by
  obtain ⟨front, hcut, hfront⟩ := cutBackwards_eq h hdot
  have hslash : '/' ∉ n.toList.reverse := by
    intro hmem
    have htake : n.toList.reverse = (dropIdle p.toList.reverse).takeWhile (· ≠ '/') :=
      (congrArg Prod.fst hcut).symm
    rw [htake] at hmem
    simpa using List.all_eq_true.mp List.all_takeWhile '/' hmem
  have hname : ¬ ((n.toList.reverse = [] ∨ n.toList.reverse = ['.']) ∨
      n.toList.reverse = ['.', '.']) := by
    rw [List.reverse_eq_nil_iff, List.reverse_eq_iff, List.reverse_eq_iff]
    rintro ((hnil | heq) | heq)
    · exact ne_nil_of_lastName? h hnil
    · exact hdot (String.toList_injective heq)
    · exact hup (String.toList_injective heq)
  rw [withExtension, hcut] at h'
  dsimp only at h'
  rw [if_neg (by simpa using hname)] at h'
  generalize hstem : (stem? n.toList.reverse).getD n.toList.reverse = stem at h' ⊢
  have hstemslash : '/' ∉ stem := fun hmem => hslash (mem_of_mem_stem (hstem ▸ hmem))
  rw [lastName?_eq] at h'
  split at h'
  · -- What is left without the extension is `..`.
    have hlast := getLast?_parts (w := ['.', '.']) (by simp) (by decide) hfront
    rw [String.toList_ofList, List.reverse_cons, List.reverse_cons, List.append_assoc,
      List.singleton_append, hlast] at h'
    exact absurd (String.toList_injective (Option.some.inj h').symm) hup'
  · have hbehind : '/' ∉ stem.reverse ++ '.' :: extension.toList := by
      simp [hstemslash, hextension]
    have hlast := getLast?_parts (by simp) hbehind hfront
    have htext : (String.ofList (stem ++ front).reverse ++ "." ++ extension).toList =
        front.reverse ++ (stem.reverse ++ '.' :: extension.toList) := by
      simp
    rw [htext, hlast] at h'
    rw [← Option.some.inj h']
    simp

end Path

end Dialogue
