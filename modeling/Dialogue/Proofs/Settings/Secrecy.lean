/-
Settings keep their token to themselves.

Two people who hold different tokens edit their settings in the same way.  Whatever they do, and
whatever goes wrong, each is told the same as the other (`token_untold`): no display, no error and
no configuration of the chat service tells more of a token than whether there is one.

This is a statement about two runs, so it goes by a relation between two settings that every pair
of edits keeps (`Alike`).  Its other half is that nothing else is kept back: what settings show
tells all there is to know about them but the token (`describe_eq_iff`), so a display that hides
the token by hiding everything would not do.
-/
import Mathlib.Tactic.Common
import Dialogue.Proofs.Settings.Normal

namespace Dialogue.Settings

/-! ### Settings with another token -/

/-- The settings with this token in the place of their own. -/
def withToken (s : Settings) (token : String) : Settings := { s with apiToken := token }

/-- An edit of another member goes the same way whatever the token is, and leaves the token. -/
theorem setField_withToken (s : Settings) {key : String} (hkey : key ≠ "api_token")
    (value token : String) :
    (s.withToken token).setField key value =
      (s.setField key value).map (·.withToken token) := by
  unfold setField
  simp only
  split
  case h_1 | h_2 | h_4 => rfl
  case h_3 => exact absurd rfl hkey
  case h_5 => cases Framing.ofName? (Text.trim value) <;> rfl
  case h_6 | h_7 => cases readTimeout? (Text.trim value) <;> rfl
  case h_8 => rfl

/-- Nothing but the tokens tells these settings apart, and both have one or neither has. -/
structure Alike (s s' : Settings) : Prop where
  others : s' = s.withToken s'.apiToken
  token : s.apiToken = "" ↔ s'.apiToken = ""

theorem Alike.describe_eq {s s' : Settings} (h : Alike s s') : s.describe = s'.describe := by
  rw [h.others]
  by_cases hnone : s.apiToken = ""
  · simp [describe, withToken, hnone, h.token.mp hnone]
  · have hnone' : s'.apiToken ≠ "" := fun hempty => hnone (h.token.mpr hempty)
    simp [describe, withToken, hnone, hnone']

theorem Alike.chatConfig_eq {s s' : Settings} (h : Alike s s') :
    s.chatConfig = s'.chatConfig := by
  rw [h.others]
  rfl

/-! ### What settings show -/

/-- A timeout is told by a word or by its digits, and no digits are that word. -/
theorem timeoutText_injective {t u : Option Nat} (h : timeoutText t = timeoutText u) : t = u := by
  have hdigits : ∀ n, timeoutText (some n) ≠ timeoutText none := by
    intro n hnone
    have hlist : Text.decimal n = "none".toList := by
      rw [← String.toList_ofList (l := Text.decimal n)]
      exact congrArg String.toList hnone
    have hdigit := Nat.isDigit_of_mem_toDigits (b := 10) (n := n) (c := 'n') (by decide) (by decide)
      (by rw [← Text.decimal, hlist]; decide)
    exact absurd hdigit (by decide)
  cases t with
  | none =>
    cases u with
    | none => rfl
    | some n => exact absurd h.symm (hdigits n)
  | some m =>
    cases u with
    | none => exact absurd h (hdigits m)
    | some n =>
      have hsame : Text.decimal m = Text.decimal n := String.ofList_injective h
      have hm : Nat.ofDigitChars 10 (Text.decimal m) 0 = m := Nat.ofDigitChars_ten_toDigits
      have hn : Nat.ofDigitChars 10 (Text.decimal n) 0 = n := Nat.ofDigitChars_ten_toDigits
      rw [← hm, hsame, hn]

/-- Settings show everything but the token, and of the token whether there is one. -/
theorem describe_eq_iff {s s' : Settings} : s.describe = s'.describe ↔ Alike s s' := by
  constructor
  · intro h
    simp only [describe, List.cons.injEq, and_true, String.append_right_inj] at h
    obtain ⟨hchat, hhistory, htoken, hframing, hcanceled, hrequest, hread⟩ := h
    refine ⟨?_, ?_⟩
    · cases s
      cases s'
      simp only at hchat hhistory hframing hcanceled hrequest hread
      rw [withToken, hchat, hhistory, name_injective hframing, hcanceled,
        timeoutText_injective hrequest, timeoutText_injective hread]
    · by_cases hnone : s.apiToken = "" <;> by_cases hnone' : s'.apiToken = "" <;>
        simp [hnone, hnone'] at htoken ⊢
  · exact Alike.describe_eq

/-! ### Edits -/

/-- An edit and how it went: if it is refused, the settings stay. -/
def edit (s : Settings) (key value : String) : Except EditError Unit × Settings :=
  match s.setField key value with
  | .ok s' => (.ok (), s')
  | .error e => (.error e, s)

/-- What is told of an edit: how it went, what the settings show then, and how the chat service
is asked. -/
structure Told where
  result : Except EditError Unit
  lines : List String
  chatConfig : Http.ChatConfig

/-- What is told of edits, one after another. -/
def tells (s : Settings) : List (String × String) → List Told
  | [] => []
  | (key, value) :: edits =>
    let r := s.edit key value
    ⟨r.1, r.2.describe, r.2.chatConfig⟩ :: tells r.2 edits

/-- The same edit, or one that sets another token; neither takes the token away. -/
inductive SameEdit : String × String → String × String → Prop
  | same (e : String × String) : SameEdit e e
  | token {value value' : String} (h : Text.isBlankText value = false)
      (h' : Text.isBlankText value' = false) :
      SameEdit ("api_token", value) ("api_token", value')

theorem edit_token (s : Settings) (value : String) :
    s.edit "api_token" value = (.ok (), s.withToken (Text.trim value)) := rfl

/-- An edit of another member is told the same whatever the token is. -/
theorem edit_withToken (s : Settings) {key : String} (hkey : key ≠ "api_token")
    (value token : String) :
    (s.withToken token).edit key value =
      ((s.edit key value).1, (s.edit key value).2.withToken token) := by
  rw [edit, edit, setField_withToken s hkey]
  cases s.setField key value <;> rfl

/-- And it leaves the token as it is. -/
theorem apiToken_edit (s : Settings) {key : String} (hkey : key ≠ "api_token")
    (value : String) : (s.edit key value).2.apiToken = s.apiToken := by
  rw [edit]
  cases h : s.setField key value with
  | error e => rfl
  | ok s' =>
    cases edits_of_setField h with
    | apiToken => exact absurd rfl hkey
    | chatEndpoint | historyEndpoint | canceledMessage | framing | requestTimeout | readTimeout =>
      rfl

/-- What one edit keeps. -/
theorem Alike.edit {s s' : Settings} (h : Alike s s') {e e' : String × String}
    (he : SameEdit e e') :
    (s.edit e.1 e.2).1 = (s'.edit e'.1 e'.2).1 ∧
      Alike (s.edit e.1 e.2).2 (s'.edit e'.1 e'.2).2 := by
  cases he with
  | same =>
    obtain ⟨key, value⟩ := e
    by_cases hkey : key = "api_token"
    · subst hkey
      rw [edit_token, edit_token, h.others]
      exact ⟨rfl, rfl, Iff.rfl⟩
    · have hleft := s.apiToken_edit hkey value
      have hright := s'.apiToken_edit hkey value
      have hsame := s.edit_withToken hkey value s'.apiToken
      rw [← h.others] at hsame
      refine ⟨(congrArg Prod.fst hsame).symm, ?_, ?_⟩
      · rw [hright]
        exact congrArg Prod.snd hsame
      · rw [hleft, hright]
        exact h.token
  | @token value value' hvalue hvalue' =>
    have hne : Text.trim value ≠ "" := by simp [Text.trim_eq_empty_iff, hvalue]
    have hne' : Text.trim value' ≠ "" := by simp [Text.trim_eq_empty_iff, hvalue']
    rw [edit_token, edit_token, h.others]
    exact ⟨rfl, rfl, by simp [withToken, hne, hne']⟩

/-- **No edit tells anything of a token but whether there is one.**  Let two settings differ in
nothing but their tokens, and let both be edited in the same way, only that a new token may be
another one, as long as it is not blank.  Then each edit goes the same way in both, with the same
error if it is refused, and after each of them both show the same lines and ask the chat service
in the same way. -/
theorem token_untold {s s' : Settings} (h : Alike s s') {edits edits' : List (String × String)}
    (hedits : List.Forall₂ SameEdit edits edits') : s.tells edits = s'.tells edits' := by
  induction hedits generalizing s s' with
  | nil => rfl
  | @cons e e' edits edits' he hrest ih =>
    obtain ⟨hresult, hnext⟩ := h.edit he
    rw [tells, tells, hresult, hnext.describe_eq, hnext.chatConfig_eq, ih hnext]

/-- Edits that set this token among others; a word that is no framing and a name that is no
setting are refused. -/
def editsWith (token : String) : List (String × String) :=
  [("framing", "sse"), ("api_token", token), ("theme", "dark"), ("framing", " plain_text ")]

/-- Two people with a token each, and each sets a new one. -/
theorem token_untold_newTokens :
    let s : Settings := { apiToken := "one" }
    let s' : Settings := { apiToken := "two" }
    s.tells (editsWith " three ") = s'.tells (editsWith "four") ∧
      (s.tells (editsWith " three ")).map (·.result) =
        [.error (.badFraming "framing" "sse"), .ok (), .error (.unknownKey "theme"), .ok ()] := by
  intro s s'
  have halike : Alike s s' := ⟨rfl, by decide⟩
  have hedits : List.Forall₂ SameEdit (editsWith " three ") (editsWith "four") :=
    .cons (.same _) (.cons (.token (by decide) (by decide))
      (.cons (.same _) (.cons (.same _) .nil)))
  exact ⟨token_untold halike hedits, by decide⟩

end Dialogue.Settings
