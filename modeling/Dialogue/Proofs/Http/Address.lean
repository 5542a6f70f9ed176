/-
One more segment behind an address.

An address is read from its front.  What stands at its ends is cleaned away, the scheme is cut
off, the fragment and the query, and the authority; the rest is the path, and is cut at its
slashes.  If a slash ends the address, all of these cuts are made before or at that slash, so a
text behind it that holds no mark of its own gets through all of them whole, and becomes the
last segment of the path.
-/
import Mathlib.Data.List.DropRight
import Mathlib.Data.List.TakeDrop
import Dialogue.Http.Url.Reader
import Dialogue.Proofs.Text.Split

namespace Dialogue

namespace Http.Url

open Text (cutMark)
open Text.Percent (encode)

/-- A text that is a segment as it stands. -/
structure PlainSegment (seg : List Char) : Prop where
  visible : ∀ c ∈ seg, 32 < c.toNat
  whole : ∀ c ∈ seg, c ∉ ['/', '\\', '?', '#']
  spared : encode pathSet seg = seg
  not_dots : isDot seg = false ∧ isTwoDots seg = false

theorem plainSegment_nil : PlainSegment [] :=
  ⟨by simp, by simp, rfl, rfl, rfl⟩

variable {seg : List Char}

/-! ### The cuts -/

theorem clean_behind (cs : List Char) : ∃ front, ∀ {seg : List Char}, PlainSegment seg →
    clean (cs ++ '/' :: seg) = front ++ '/' :: seg := by
  refine ⟨(cs.dropWhile fun c => decide (c.toNat ≤ 32)).filter fun c =>
    !(c = '\t' || c = '\n' || c = '\r'), fun {seg} hseg => ?_⟩
  have hplain : ∀ c ∈ '/' :: seg, 32 < c.toNat := by
    intro c hc
    rcases List.mem_cons.mp hc with rfl | hc
    · decide
    · exact hseg.visible c hc
  have hstart : (cs ++ '/' :: seg).dropWhile (fun c => decide (c.toNat ≤ 32)) =
      (cs.dropWhile fun c => decide (c.toNat ≤ 32)) ++ '/' :: seg := by
    rw [List.dropWhile_append]
    split
    · next hempty =>
      rw [List.isEmpty_iff.mp hempty, List.dropWhile_cons_of_neg (by decide), List.nil_append]
    · rfl
  have hend : ∀ front : List Char,
      (front ++ '/' :: seg).rdropWhile (fun c => decide (c.toNat ≤ 32)) = front ++ '/' :: seg := by
    intro front
    rw [List.rdropWhile_eq_self_iff]
    intro hne
    have hlast := hplain ((front ++ '/' :: seg).getLast hne)
      (by rw [List.getLast_append_of_ne_nil _ (by simp)]; exact List.getLast_mem _)
    simpa using hlast
  have hkept : ('/' :: seg).filter (fun c => !(c = '\t' || c = '\n' || c = '\r')) = '/' :: seg := by
    rw [List.filter_eq_self]
    intro c hc
    have hc := hplain c hc
    have htab : c ≠ '\t' := by rintro rfl; exact absurd hc (by decide)
    have hfeed : c ≠ '\n' := by rintro rfl; exact absurd hc (by decide)
    have hreturn : c ≠ '\r' := by rintro rfl; exact absurd hc (by decide)
    simp [htab, hfeed, hreturn]
  unfold clean
  simp only
  rw [hstart, ← List.rdropWhile, hend, List.filter_append, hkept]

/-- Behind a slash no scheme can end. -/
theorem readScheme?_behind {front : List Char} {found : String × List Char}
    (h : readScheme? (front ++ ['/']) = some found) : ∃ scheme rest, ∀ seg,
      readScheme? (front ++ '/' :: seg) = some (scheme, rest ++ '/' :: seg) := by
  by_cases hcolon : ':' ∈ front
  · obtain ⟨name, rest, rfl, hname⟩ := List.eq_append_cons_of_mem hcolon
    have hcut : ∀ seg, cutMark ':' (name ++ ':' :: rest ++ '/' :: seg) =
        (name, some (rest ++ '/' :: seg)) := by
      intro seg
      rw [List.append_assoc, List.cons_append]
      exact Text.cutMark_append hname _
    simp only [readScheme?, hcut] at h ⊢
    cases name with
    | nil => cases h
    | cons c name =>
      by_cases hall : (c.isAlpha && name.all isSchemeChar) = true
      · simp only [hall, if_true]
        exact ⟨_, _, fun _ => rfl⟩
      · simp only [hall, if_false, Bool.false_eq_true, reduceCtorEq] at h
  · have hcut : cutMark ':' (front ++ ['/']) = (front ++ ['/'], none) :=
      Text.cutMark_of_not_mem (by simp [hcolon])
    simp [readScheme?, hcut] at h

theorem cutMark_behind {mark : Char} {front : List Char} (hmark : mark ≠ '/')
    (h : (cutMark mark (front ++ ['/'])).2 = none) (hseg : mark ∉ seg) :
    cutMark mark (front ++ '/' :: seg) = (front ++ '/' :: seg, none) := by
  by_cases hfront : mark ∈ front
  · obtain ⟨before, rest, rfl, hbefore⟩ := List.eq_append_cons_of_mem hfront
    rw [List.append_assoc, List.cons_append, Text.cutMark_append hbefore] at h
    cases h
  · exact Text.cutMark_of_not_mem (by simp [hfront, hmark, hseg])

/-! ### The path -/

theorem follow_behind (segments : List (List Char)) : ∃ before, ∀ {seg : List Char},
    PlainSegment seg → (follow false (segments ++ [seg])).path = before ++ '/' :: seg := by
  refine ⟨(segments.foldl (Walk.step false) {}).path, fun {seg} hseg => ?_⟩
  simp only [follow, List.foldl_append, List.foldl_cons, List.foldl_nil, List.getLast?_append,
    List.getLast?_singleton, Option.some_or, Option.any_some, hseg.not_dots.1, hseg.not_dots.2,
    Bool.or_self, Bool.false_eq_true, if_false, Walk.step, Walk.enter, Bool.false_and, Walk.push,
    Walk.path, List.reverse_cons, List.flatMap_append, List.flatMap_cons, List.flatMap_nil,
    List.append_nil, hseg.spared]

theorem splitPath_append (special : Bool) (cs more : List Char) :
    splitPath special (cs ++ '/' :: more) = splitPath special cs ++ splitPath special more := by
  cases special with
  | false => exact Text.splitOn_append '/' cs more
  | true =>
    simp only [splitPath, if_true, List.map_append, List.map_cons]
    exact Text.splitOn_append '/' _ _

theorem splitPath_plain (special : Bool) (hseg : PlainSegment seg) :
    splitPath special seg = [seg] := by
  have hslash : '/' ∉ seg := fun hc => hseg.whole _ hc (by decide)
  have hsame : seg.map (fun c => if c = '\\' then '/' else c) = seg.map id :=
    List.map_congr_left fun c hc => if_neg fun hback => hseg.whole c hc (by simp [hback])
  rw [splitPath, hsame, List.map_id, ite_self]
  exact Text.splitOn_of_not_mem hslash

theorem readPath_behind (special : Bool) (cs : List Char) : ∃ before, ∀ {seg : List Char},
    PlainSegment seg →
      readPath special (cs ++ '/' :: seg) = String.ofList (before ++ '/' :: seg) := by
  have hread : ∀ cs, ∃ before, ∀ {seg : List Char}, PlainSegment seg →
      readSegments special (cs ++ '/' :: seg) = String.ofList (before ++ '/' :: seg) := by
    intro cs
    obtain ⟨before, hbefore⟩ := follow_behind (splitPath special cs)
    refine ⟨before, fun hseg => ?_⟩
    rw [readSegments, splitPath_append, splitPath_plain special hseg, hbefore hseg]
  cases cs with
  | nil =>
    obtain ⟨before, hbefore⟩ := follow_behind []
    refine ⟨before, fun {seg} hseg => ?_⟩
    have hslash : isSlash special '/' = true := rfl
    simp only [List.nil_append, readPath, hslash, if_true, readSegments,
      splitPath_plain special hseg]
    exact congrArg _ (hbefore hseg)
  | cons c cs =>
    simp only [List.cons_append, readPath]
    split
    · exact hread cs
    · exact hread (c :: cs)

/-! ### The whole -/

theorem span_behind {p : Char → Bool} (hslash : p '/' = false) (cs : List Char) :
    ∃ front path, ∀ seg, (cs ++ '/' :: seg).span p = (front, path ++ '/' :: seg) := by
  refine ⟨cs.takeWhile p, cs.dropWhile p, fun seg => ?_⟩
  rw [List.span_eq_takeWhile_dropWhile]
  induction cs with
  | nil => simp [hslash]
  | cons c cs ih => by_cases hc : p c = true <;> simp_all

variable {scheme : String} {cs : List Char} {more : Bool} {u : Url}

theorem readBehindSlashes?_behind (h : readBehindSlashes? scheme (cs ++ ['/']) more = some u)
    (hseg : PlainSegment seg) : readBehindSlashes? scheme (cs ++ '/' :: seg) more =
      some { u with path := u.path ++ String.ofList seg } := by
  obtain ⟨authority, path, hspan⟩ := span_behind
    (p := fun c => !isSlash (isSpecial scheme) c) (by simp [isSlash]) cs
  have hmore : ∀ seg : List Char, (more || !(path ++ '/' :: seg).isEmpty) = true := by simp
  simp only [readBehindSlashes?, hspan, hmore, bind, Option.bind_eq_some_iff] at h
  obtain ⟨⟨place, start⟩, hplace, hu⟩ := h
  obtain ⟨before, hbefore⟩ := readPath_behind (isSpecial scheme) (start ++ path)
  rw [← List.append_assoc, hbefore plainSegment_nil] at hu
  obtain rfl := Option.some.inj hu
  simp only [readBehindSlashes?, hspan, hmore, bind, hplace, Option.bind_some]
  rw [← List.append_assoc, hbefore hseg]
  simp [← String.ofList_append]

theorem readPlace?_behind (hspecial : isSpecial scheme = true) (hfile : scheme ≠ "file")
    (h : readPlace? scheme (cs ++ ['/']) more = some u) (hseg : PlainSegment seg) :
    readPlace? scheme (cs ++ '/' :: seg) more =
      some { u with path := u.path ++ String.ofList seg } := by
  simp only [readPlace?, if_neg hfile, if_pos hspecial] at h ⊢
  rw [List.dropWhile_append] at h ⊢
  by_cases hslashes : (cs.dropWhile (isSlash true)).isEmpty = true
  · -- Nothing but slashes: then the host would be missing.
    rw [if_pos hslashes] at h
    simp [isSlash, readBehindSlashes?, readAuthority?, hspecial, cutPort, List.span,
      List.span.loop, Text.cutLast, Text.cutMark, Text.cutAt] at h
  · rw [if_neg hslashes] at h ⊢
    exact readBehindSlashes?_behind h hseg

theorem scheme_readFile? (h : readFile? cs = some u) : u.scheme = "file" := by
  have hfile : ∀ host segments, (fileOn host segments).scheme = "file" := fun _ _ => rfl
  simp only [readFile?, readFileBehindSlashes?, bind, Option.bind, pure] at h
  repeat' split at h
  all_goals grind

theorem scheme_readBehindSlashes? (h : readBehindSlashes? scheme cs more = some u) :
    u.scheme = scheme := by
  simp only [readBehindSlashes?, bind, Option.bind_eq_some_iff] at h
  obtain ⟨⟨place, start⟩, hplace, hu⟩ := h
  obtain rfl := Option.some.inj hu
  simp only [readAuthority?, bind, Option.bind, pure] at hplace
  repeat' split at hplace
  all_goals grind

theorem scheme_readPlace? (h : readPlace? scheme cs more = some u) : u.scheme = scheme := by
  unfold readPlace? at h
  split at h
  · next hfile => rw [hfile, scheme_readFile? h]
  · split at h
    · exact scheme_readBehindSlashes? h
    · split at h
      · exact scheme_readBehindSlashes? h
      · obtain rfl := Option.some.inj h; rfl
      · obtain rfl := Option.some.inj h; rfl

/-- The address of a place with a slash at its end, and one more segment behind it. -/
theorem parse?_behind {base : String} (h : parse? (base ++ "/") = some u)
    (hspecial : isSpecial u.scheme = true) (hfile : u.scheme ≠ "file") (hquery : u.query = none)
    (hfragment : u.fragment = none) (hseg : PlainSegment seg) :
    parse? (base ++ "/" ++ String.ofList seg) =
      some { u with path := u.path ++ String.ofList seg } := by
  obtain ⟨front, hfront⟩ := clean_behind base.toList
  have hstart : clean (base ++ "/").toList = front ++ ['/'] := by
    rw [String.toList_append]
    exact hfront plainSegment_nil
  have hclean : clean (base ++ "/" ++ String.ofList seg).toList = front ++ '/' :: seg := by
    rw [← hfront hseg]
    simp
  simp only [parse?, hstart, bind, Option.bind_eq_some_iff] at h
  obtain ⟨found, hfound, v, hplace, hu⟩ := h
  obtain ⟨scheme, rest, hscheme⟩ := readScheme?_behind hfound
  obtain rfl : (scheme, rest ++ ['/']) = found := Option.some.inj ((hscheme []).symm.trans hfound)
  obtain rfl := Option.some.inj hu
  have hhash : ∀ seg, '#' ∉ seg → cutMark '#' (rest ++ '/' :: seg) = (rest ++ '/' :: seg, none) :=
    fun seg => cutMark_behind (by decide) (Option.map_eq_none_iff.mp hfragment)
  simp only [hhash [] (by simp)] at hplace hquery hspecial hfile ⊢
  have hmark : ∀ seg, '?' ∉ seg → cutMark '?' (rest ++ '/' :: seg) = (rest ++ '/' :: seg, none) :=
    fun seg => cutMark_behind (by decide) (Option.map_eq_none_iff.mp hquery)
  simp only [hmark [] (by simp)] at hplace ⊢
  rw [scheme_readPlace? hplace] at hspecial hfile
  have hash : '#' ∉ seg := fun hc => hseg.whole _ hc (by decide)
  have mark : '?' ∉ seg := fun hc => hseg.whole _ hc (by decide)
  simp only [parse?, hclean, hscheme, bind, Option.bind_some, hhash seg hash, hmark seg mark]
  rw [readPlace?_behind hspecial hfile hplace hseg]
  rfl

end Http.Url

end Dialogue
