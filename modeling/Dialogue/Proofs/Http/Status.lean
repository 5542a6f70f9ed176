/-
What is told of an answer that is no success.

Four places of a body may hold a message, and they are looked at in order.  The first one that
holds a text decides.  If that text is blank, nothing is taken from the places behind it, and the
body is told as it stands.  So the first message that is not blank is told unless a blank text
stands before it, and a body without any is told whole, or by its status if it is blank as well.
-/
import Mathlib.Tactic.Common
import Dialogue.Http.Status
import Dialogue.Proofs.Json.Grammar.Value
import Dialogue.Proofs.Text.Blank

namespace Dialogue.Http

open Json
open Text.Utf8 (encode)

variable {body : String} {members : List (String × Value)} {m : String}

/-! ### Messages -/

/-- The body is a text of an object with these members; of equal names the last one counts. -/
def IsObject (body : String) (members : List (String × Value)) : Prop :=
  WholeText (ValueText nestingLimit) (.object members) (encode body.toList)

/-- The places where a message may stand, in their order. -/
def places (v : Value) : List (Option Value) :=
  [v.member? "error", (v.member? "error").bind (·.member? "message"), v.member? "message",
    v.member? "detail"]

/-- The texts that stand in these places. -/
def messagesOf (v : Value) : List String := (places v).filterMap (·.bind Value.text?)

/-- The first message that says anything. -/
def firstMessage? (members : List (String × Value)) : Option String :=
  (messagesOf (.object members)).find? fun m => !Text.isBlankText m

/-- Nothing stands in the places of what is no object. -/
theorem messagesOf_eq_nil {v : Value} (h : ∀ members, v ≠ .object members) :
    messagesOf v = [] := by
  cases v with
  | object members => exact absurd rfl (h members)
  | _ => rfl

theorem head?_filterMap_cons {α β : Type} (f : α → Option β) (a : α) (as : List α) :
    ((a :: as).filterMap f).head? = (f a).or (as.filterMap f).head? := by
  cases h : f a with
  | none => rw [List.filterMap_cons_none h, Option.none_or]
  | some b => rw [List.filterMap_cons_some h, List.head?_cons, Option.some_or]

theorem messageIn?_eq_head? (v : Value) : messageIn? v = (messagesOf v).head? := by
  rw [messageIn?, messagesOf, places]
  simp only [head?_filterMap_cons, List.filterMap_nil, List.head?_nil, Option.or_none,
    Option.or_assoc]
  cases v.member? "error" <;> simp [Option.or_assoc]

/-- A message is found in a body just if it is an object, and the first text that stands in one
of the places is not blank. -/
theorem jsonMessage?_eq_some_iff {t : String} : jsonMessage? body = some t ↔
    ∃ members m, IsObject body members ∧ (messagesOf (.object members)).head? = some m ∧
      Text.isBlankText m = false ∧ Text.trim m = t := by
  have hread : ∀ v, readString (readValue nestingLimit) body = .ok v ↔
      WholeText (ValueText nestingLimit) v (encode body.toList) := fun v =>
    (reads_value nestingLimit).readWhole_eq_ok
  rw [jsonMessage?]
  constructor
  · intro h
    split at h
    · cases h
    · rename_i v hv
      obtain ⟨m, hm, ht⟩ := Option.bind_eq_some_iff.mp h
      rw [messageIn?_eq_head?] at hm
      split_ifs at ht with hblank
      cases ht
      by_cases hobject : ∃ members, v = .object members
      · obtain ⟨members, rfl⟩ := hobject
        exact ⟨members, m, (hread _).mp hv, hm, eq_false_of_ne_true hblank, rfl⟩
      · rw [messagesOf_eq_nil (not_exists.mp hobject)] at hm
        cases hm
  · rintro ⟨members, m, hobject, hm, hblank, rfl⟩
    rw [(hread _).mpr hobject]
    simp only [messageIn?_eq_head?, hm, Option.bind_some, hblank]
    rfl

/-- A body tells one object at most. -/
theorem IsObject.unique {members' : List (String × Value)} (h : IsObject body members)
    (h' : IsObject body members') : members = members' := by
  have hread := (reads_value nestingLimit).readWhole_eq_ok.mpr h
  rw [(reads_value nestingLimit).readWhole_eq_ok.mpr h'] at hread
  exact (Value.object.inj (Except.ok.inj hread)).symm

/-! ### Status lines -/

/-- The last character is there and is no white space. -/
def EndsVisibly (cs : List Char) : Prop := (cs.getLast?.any fun c => !Text.isBlank c) = true

instance (cs : List Char) : Decidable (EndsVisibly cs) :=
  inferInstanceAs (Decidable ((cs.getLast?.any fun c => !Text.isBlank c) = true))

theorem EndsVisibly.append {cs : List Char} (h : EndsVisibly cs) (before : List Char) :
    EndsVisibly (before ++ cs) := by
  unfold EndsVisibly at h ⊢
  rw [List.getLast?_append]
  cases hlast : cs.getLast? with
  | none => rw [hlast] at h; cases h
  | some c => rwa [hlast] at h

theorem endsVisibly_statusName? {status : Nat} {name : String}
    (h : statusName? status = some name) : EndsVisibly name.toList := by
  unfold statusName? at h
  split at h
  all_goals cases h
  all_goals decide

theorem endsVisibly_toString (n : Nat) : EndsVisibly (toString n).toList := by
  have hne : Nat.toDigits 10 n ≠ [] := Nat.toDigits_ne_nil
  have hdigits : (toString n).toList = Nat.toDigits 10 n := String.toList_ofList
  rw [hdigits, EndsVisibly, List.getLast?_eq_some_getLast hne, Option.any_some,
    Text.isBlank_of_isDigit]
  · rfl
  · exact Nat.isDigit_of_mem_toDigits (by decide) (by decide) (List.getLast_mem hne)

theorem endsVisibly_statusLine (status : Nat) : EndsVisibly (statusLine status).toList := by
  rw [statusLine, String.toList_append, String.toList_append]
  cases hname : statusName? status with
  | none =>
    rw [String.toList_empty, List.append_nil]
    exact (endsVisibly_toString status).append _
  | some name =>
    rw [String.toList_append]
    exact ((endsVisibly_statusName? hname).append _).append _

theorem trim_statusLine (status : Nat) : Text.trim (statusLine status) = statusLine status := by
  refine Text.trim_eq_self (fun c hc => ?_) fun c hc => ?_
  · rw [statusLine, String.toList_append, String.toList_append] at hc
    obtain rfl : 'H' = c := Option.some.inj hc
    decide
  · have hlast := endsVisibly_statusLine status
    rw [EndsVisibly, Option.mem_def.mp hc] at hlast
    simpa using hlast

/-! ### What is told -/

/-- An object is not blank. -/
theorem IsObject.not_blank (h : IsObject body members) : Text.isBlankText body = false := by
  obtain ⟨bs, rest, ⟨ws, -, hbody⟩, hobject, -⟩ := h
  obtain ⟨more, rfl⟩ : ∃ more, bs = Byte.openBrace :: more := by
    cases hobject with
    | scalar h => cases h
    | object h => exact h.starts
  have hmem : Byte.openBrace ∈ encode body.toList := by
    rw [hbody]
    exact List.mem_append_right _ List.mem_cons_self
  obtain ⟨c, hc, heq⟩ := Text.Utf8.exists_of_ascii_mem_encode (by decide) hmem
  have hnat : c.toNat = 0x7B := heq
  rw [Text.isBlankText, List.all_eq_false]
  exact ⟨c, hc, by rw [Text.isBlank_eq_false (by omega) (by omega)]; exact Bool.false_ne_true⟩

theorem failureText_of_some {t : String} (h : jsonMessage? body = some t) (status : Nat) :
    failureText status body = t := by
  rw [failureText, h]

theorem failureText_of_none (h : jsonMessage? body = none) (status : Nat) :
    failureText status body =
      if Text.isBlankText body then statusLine status else Text.trim body := by
  rw [failureText, h]
  simp only [Text.trim_eq_empty_iff]

/-- Where a text comes first that is not blank, it is the first message as well. -/
theorem firstMessage?_of_head? (hm : (messagesOf (.object members)).head? = some m)
    (hblank : Text.isBlankText m = false) : firstMessage? members = some m := by
  obtain ⟨others, hothers⟩ := List.head?_eq_some_iff.mp hm
  rw [firstMessage?, hothers, List.find?_cons_of_pos (by rw [hblank]; rfl)]

theorem IsObject.jsonMessage?_eq (h : IsObject body members)
    (hfirst : firstMessage? members = some m) : jsonMessage? body =
      if (messagesOf (.object members)).head? = some m then some (Text.trim m) else none := by
  have hblank : Text.isBlankText m = false := by simpa using List.find?_some hfirst
  split_ifs with hhead
  · exact jsonMessage?_eq_some_iff.mpr ⟨members, m, h, hhead, hblank, rfl⟩
  · rw [Option.eq_none_iff_forall_ne_some]
    intro t ht
    obtain ⟨members', m', hobject, hhead', hblank', -⟩ := jsonMessage?_eq_some_iff.mp ht
    obtain rfl := hobject.unique h
    obtain rfl := Option.some.inj ((firstMessage?_of_head? hhead' hblank').symm.trans hfirst)
    exact hhead hhead'

/-- What is told says something, and has no white space at its ends.  Of an object with a message
that is not blank, the first such message is told if no blank text stands in a place before it;
otherwise the body is, though there is a message.  Any other body is told as it stands, or by its
status if it is blank. -/
theorem failureText_tells (status : Nat) (body : String) :
    failureText status body ≠ "" ∧
      Text.trim (failureText status body) = failureText status body ∧
      (∀ members m, IsObject body members → firstMessage? members = some m →
        failureText status body =
          if (messagesOf (.object members)).head? = some m then Text.trim m
          else Text.trim body) ∧
      ((¬ ∃ members m, IsObject body members ∧ firstMessage? members = some m) →
        failureText status body =
          if Text.isBlankText body then statusLine status else Text.trim body) := by
  refine ⟨?visible, ?trimmed, fun members m hobject hfirst => ?message, fun hnone => ?other⟩
  case visible =>
    cases hjson : jsonMessage? body with
    | some t =>
      obtain ⟨members, m, -, -, hblank, rfl⟩ := jsonMessage?_eq_some_iff.mp hjson
      rw [failureText_of_some hjson, Ne, Text.trim_eq_empty_iff, hblank]
      exact Bool.false_ne_true
    | none =>
      rw [failureText_of_none hjson]
      split_ifs with hblank
      · intro hempty
        have hlast := endsVisibly_statusLine status
        rw [hempty] at hlast
        cases hlast
      · exact fun hempty => hblank (Text.trim_eq_empty_iff.mp hempty)
  case trimmed =>
    cases hjson : jsonMessage? body with
    | some t =>
      obtain ⟨members, m, -, -, -, rfl⟩ := jsonMessage?_eq_some_iff.mp hjson
      rw [failureText_of_some hjson, Text.trim_trim]
    | none =>
      rw [failureText_of_none hjson]
      split_ifs
      · exact trim_statusLine status
      · exact Text.trim_trim body
  case message =>
    have hjson := hobject.jsonMessage?_eq hfirst
    split_ifs at hjson ⊢ with hhead
    · exact failureText_of_some hjson status
    · rw [failureText_of_none hjson, hobject.not_blank]
      rfl
  case other =>
    refine failureText_of_none ?_ status
    rw [Option.eq_none_iff_forall_ne_some]
    intro t ht
    obtain ⟨members, m, hobject, hhead, hblank, -⟩ := jsonMessage?_eq_some_iff.mp ht
    exact hnone ⟨members, m, hobject, firstMessage?_of_head? hhead hblank⟩

/-- A blank text in the first place, and a message in the second. -/
def hidingMembers : List (String × Value) := [("error", .text ""), ("message", .text "quota")]

/-- The body with these members. -/
def hidingBody : String := (Value.object hidingMembers).compact

/-- A blank text hides the message that stands in a place behind it, and the body is told. -/
theorem blank_hides_message :
    hidingBody = "\x7b\"error\":\"\",\"message\":\"quota\"\x7d" ∧
      IsObject hidingBody hidingMembers ∧ firstMessage? hidingMembers = some "quota" ∧
      failureText 500 hidingBody = hidingBody ∧ hidingBody ≠ Text.trim "quota" := by
  have hsorted : Sorted hidingMembers := by
    simp only [Sorted, hidingMembers, List.pairwise_cons, List.mem_singleton, forall_eq]
    exact ⟨by decide, by simp⟩
  have hproper : (Value.object hidingMembers).Proper nestingLimit := by
    refine .object hsorted fun m hm => ?_
    rcases List.mem_cons.mp hm with rfl | hm
    · exact .text ""
    · exact List.mem_singleton.mp hm ▸ .text "quota"
  have hobject : IsObject hidingBody hidingMembers := by
    rw [IsObject, ← (reads_value nestingLimit).readWhole_eq_ok]
    exact readString_compact fun rest hrest => hproper.readValue hrest
  have hfirst : firstMessage? hidingMembers = some "quota" := by decide
  have hjson : jsonMessage? hidingBody = none := by
    rw [hobject.jsonMessage?_eq hfirst]
    decide
  refine ⟨by decide, hobject, hfirst, ?_, by decide⟩
  rw [failureText_of_none hjson]
  decide

end Dialogue.Http
