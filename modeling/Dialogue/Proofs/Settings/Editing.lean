/-
Edits of settings, one after another.

What an edit does to the member that it names lies in its text alone (`given?`): the settings
decide neither whether it is refused nor what it gives.  To all other members it does nothing.  So
after any edits a member has what was given to it last, or what it had before if nothing was
(`member?_editAll`), and all that can be said about the order of edits is read off this.

Normal form is a matter of each member alone as well.  Members that are the same in normal form
stay so under every edit, whether it names them or not, and therefore it is enough to bring
settings to normal form when all edits are done.
-/
import Dialogue.Proofs.Settings.Secrecy

namespace Dialogue.Settings

/-! ### One edit -/

/-- What an edit gives to the member that it names; nothing if it is refused. -/
def given? (key value : String) : Option Json.Value :=
  let text := Text.trim value
  match key with
  | "chat_endpoint" | "history_endpoint" | "api_token" | "canceled_message" => some (.text text)
  | "framing" => (Framing.ofName? text).map fun f => .text f.name
  | "request_timeout_secs" | "read_timeout_secs" => (readTimeout? text).map timeoutValue
  | _ => none

/-- How an edit goes: refused with the same error whatever the settings are, or made, and then the
member that it names has what its text gives. -/
inductive Goes (key value : String) : Prop
  | refused (e : EditError) (hgiven : given? key value = none)
      (h : ∀ s : Settings, s.setField key value = .error e)
  | made (x : Json.Value) (hgiven : given? key value = some x)
      (h : ∀ s : Settings, ∃ s', s.setField key value = .ok s' ∧ s'.member? key = some x)

/-- What is read out of the text is put into one member. -/
theorem Goes.of_read {α : Type} {key value : String} {tell : α → Json.Value} (read : Option α)
    (put : Settings → α → Settings) (e : EditError) (hgiven : given? key value = read.map tell)
    (hnone : read = none → ∀ s : Settings, s.setField key value = .error e)
    (hsome : ∀ a, read = some a → ∀ s : Settings, s.setField key value = .ok (put s a))
    (hput : ∀ s a, (put s a).member? key = some (tell a)) : Goes key value := by
  cases hread : read with
  | none =>
    rw [hread, Option.map_none] at hgiven
    exact .refused e hgiven (hnone hread)
  | some a =>
    rw [hread, Option.map_some] at hgiven
    exact .made (tell a) hgiven fun s => ⟨put s a, hsome a hread s, hput s a⟩

theorem goes (key value : String) : Goes key value := by
  by_cases hkey : key ∈ memberNames
  · simp only [memberNames, List.mem_cons, List.not_mem_nil, or_false] at hkey
    rcases hkey with rfl | rfl | rfl | rfl | rfl | rfl | rfl
    · exact .made _ rfl fun s => ⟨_, rfl, rfl⟩
    · exact .made _ rfl fun s => ⟨_, rfl, rfl⟩
    · exact .made _ rfl fun s => ⟨_, rfl, rfl⟩
    · refine .of_read (Framing.ofName? (Text.trim value)) (fun s f => { s with framing := f })
        (.badFraming "framing" (Text.trim value)) rfl ?_ ?_ fun _ _ => rfl
      · intro hread s
        simp [setField, hread]
      · intro f hread s
        simp [setField, hread]
    · exact .made _ rfl fun s => ⟨_, rfl, rfl⟩
    · refine .of_read (readTimeout? (Text.trim value)) (fun s t => { s with requestTimeout := t })
        (.badTimeout "request_timeout_secs" (Text.trim value)) rfl ?_ ?_ fun _ _ => rfl
      · intro hread s
        simp [setField, hread]
      · intro t hread s
        simp [setField, hread]
    · refine .of_read (readTimeout? (Text.trim value)) (fun s t => { s with readTimeout := t })
        (.badTimeout "read_timeout_secs" (Text.trim value)) rfl ?_ ?_ fun _ _ => rfl
      · intro hread s
        simp [setField, hread]
      · intro t hread s
        simp [setField, hread]
  · have hgiven : given? key value = none := by
      unfold given?
      simp only
      split
      all_goals first | rfl | exact absurd (by decide) hkey
    refine .refused (.unknownKey key) hgiven fun s => ?_
    unfold setField
    simp only
    split
    all_goals first | rfl | exact absurd (by decide) hkey

/-- An edit gives the member that it names what its text says, and leaves all others. -/
theorem member?_edit (s : Settings) (key value name : String) :
    (s.edit key value).2.member? name =
      if name = key then (given? key value).or (s.member? name) else s.member? name := by
  cases goes key value with
  | refused e hgiven h =>
    rw [edit, h s, hgiven, Option.none_or, ite_self]
  | made x hgiven h =>
    obtain ⟨s', hset, hself⟩ := h s
    by_cases hname : name = key
    · rw [if_pos hname, hname, hgiven, Option.some_or, edit, hset]
      exact hself
    · rw [if_neg hname, edit, hset]
      exact member?_setField hset hname

/-- How an edit goes does not depend on the settings. -/
theorem edit_fst_eq (s s' : Settings) (key value : String) :
    (s.edit key value).1 = (s'.edit key value).1 := by
  cases goes key value with
  | refused e hgiven h => rw [edit, edit, h s, h s']
  | made x hgiven h =>
    obtain ⟨t, hset, -⟩ := h s
    obtain ⟨t', hset', -⟩ := h s'
    rw [edit, edit, hset, hset']

/-- It is made just if something is given. -/
theorem edit_fst_eq_ok_iff (s : Settings) (key value : String) :
    (s.edit key value).1 = .ok () ↔ (given? key value).isSome = true := by
  cases goes key value with
  | refused e hgiven h => simp [edit, h s, hgiven]
  | made x hgiven h =>
    obtain ⟨s', hset, -⟩ := h s
    simp [edit, hset, hgiven]

/-! ### Edits, one after another -/

/-- The settings after some edits; those that are refused change nothing. -/
def editAll (s : Settings) (edits : List (String × String)) : Settings :=
  edits.foldl (fun s e => (s.edit e.1 e.2).2) s

theorem editAll_append (s : Settings) (edits more : List (String × String)) :
    s.editAll (edits ++ more) = (s.editAll edits).editAll more := List.foldl_append

/-- All that is given to a member, in the order of the edits. -/
def givenTo (name : String) (edits : List (String × String)) : List Json.Value :=
  edits.filterMap fun e => if name = e.1 then given? e.1 e.2 else none

theorem givenTo_append (name : String) (edits more : List (String × String)) :
    givenTo name (edits ++ more) = givenTo name edits ++ givenTo name more :=
  List.filterMap_append

/-- A member has what was given to it last. -/
theorem member?_editAll (s : Settings) (edits : List (String × String)) (name : String) :
    (s.editAll edits).member? name = (givenTo name edits).getLast?.or (s.member? name) := by
  induction edits using List.reverseRecOn with
  | nil => rfl
  | append_singleton edits e ih =>
    have hlast : s.editAll (edits ++ [e]) = ((s.editAll edits).edit e.1 e.2).2 :=
      s.editAll_append edits [e]
    rw [hlast, member?_edit, ih, givenTo_append, List.getLast?_append]
    by_cases hname : name = e.1
    · cases hgiven : given? e.1 e.2 with
      | none => simp [givenTo, hname, hgiven]
      | some x => simp [givenTo, hname, hgiven]
    · simp [givenTo, hname]

/-- Edits of different members can change places, wherever they stand. -/
theorem editAll_swap (s : Settings) (before after : List (String × String))
    {e e' : String × String} (hkeys : e.1 ≠ e'.1) :
    s.editAll (before ++ e :: e' :: after) = s.editAll (before ++ e' :: e :: after) := by
  refine eq_of_member? fun name _ => ?_
  have hgiven : givenTo name [e, e'] = givenTo name [e', e] := by
    by_cases hname : name = e.1
    · have hother : name ≠ e'.1 := fun h => hkeys (hname.symm.trans h)
      simp [givenTo, List.filterMap_cons, hother]
    · simp [givenTo, List.filterMap_cons, hname]
  have hsplit : ∀ f f' : String × String, givenTo name (before ++ f :: f' :: after) =
      givenTo name before ++ (givenTo name [f, f'] ++ givenTo name after) := by
    intro f f'
    rw [← givenTo_append, ← givenTo_append]
    rfl
  rw [member?_editAll, member?_editAll, hsplit, hsplit, hgiven]

/-! ### Normal form -/

/-- Settings that are the same in normal form are so after any edits. -/
theorem normalized_editAll_congr {s s' : Settings} (h : s'.normalized = s.normalized)
    (edits : List (String × String)) :
    (s'.editAll edits).normalized = (s.editAll edits).normalized := by
  refine eq_of_member? fun name _ => ?_
  cases hlast : (givenTo name edits).getLast? with
  | none =>
    have hkept : ∀ t : Settings, (t.editAll edits).member? name = t.member? name := by
      intro t
      rw [member?_editAll, hlast, Option.none_or]
    rw [member?_normalized_congr (hkept s'), member?_normalized_congr (hkept s), h]
  | some x =>
    have hsame : (s'.editAll edits).member? name = (s.editAll edits).member? name := by
      rw [member?_editAll, member?_editAll, hlast, Option.some_or, Option.some_or]
    exact member?_normalized_congr hsame

/-- No text of the settings has white space at its ends, none that has a default is blank, and no
timeout is zero. -/
structure Tidy (s : Settings) : Prop where
  chatEndpoint : Text.trim s.chatEndpoint = s.chatEndpoint ∧ Text.isBlankText s.chatEndpoint = false
  historyEndpoint :
    Text.trim s.historyEndpoint = s.historyEndpoint ∧ Text.isBlankText s.historyEndpoint = false
  apiToken : Text.trim s.apiToken = s.apiToken
  canceledMessage :
    Text.trim s.canceledMessage = s.canceledMessage ∧ Text.isBlankText s.canceledMessage = false
  requestTimeout : s.requestTimeout ≠ some 0
  readTimeout : s.readTimeout ≠ some 0

theorem tidy_nonBlankOr (fallback : String) (htrim : Text.trim fallback = fallback)
    (hne : fallback ≠ "") (s : String) :
    Text.trim (nonBlankOr fallback s) = nonBlankOr fallback s ∧
      Text.isBlankText (nonBlankOr fallback s) = false := by
  have htrimmed := trim_nonBlankOr htrim s
  refine ⟨htrimmed, ?_⟩
  by_contra hblank
  rw [Bool.not_eq_false, ← Text.trim_eq_empty_iff, htrimmed] at hblank
  exact nonBlankOr_ne_empty hne s hblank

theorem nonBlankOr_of_tidy {fallback s : String} (htrim : Text.trim s = s)
    (hblank : Text.isBlankText s = false) : nonBlankOr fallback s = s := by
  have hne : Text.trim s ≠ "" := by simp [Text.trim_eq_empty_iff, hblank]
  rw [nonBlankOr, if_neg hne, htrim]

theorem positive?_ne_zero (t : Option Nat) : positive? t ≠ some 0 := by
  unfold positive?
  split
  · intro hzero
    cases hzero
  · assumption

theorem positive?_of_ne_zero {t : Option Nat} (h : t ≠ some 0) : positive? t = t := by
  unfold positive?
  split
  · exact absurd rfl h
  · rfl

/-- Settings are in normal form just if they are tidy. -/
theorem normal_iff_tidy (s : Settings) : s.Normal ↔ s.Tidy := by
  constructor
  · intro h
    have hchat := tidy_nonBlankOr defaultChatEndpoint (by decide) (by decide)
    have hhistory := tidy_nonBlankOr defaultHistoryEndpoint (by decide) (by decide)
    have hcanceled := tidy_nonBlankOr defaultCanceledMessage (by decide) (by decide)
    have htidy : s.normalized.Tidy := by
      constructor <;> simp only [normalized]
      · exact hchat s.chatEndpoint
      · exact hhistory s.historyEndpoint
      · exact Text.trim_trim s.apiToken
      · exact hcanceled s.canceledMessage
      · exact positive?_ne_zero s.requestTimeout
      · exact positive?_ne_zero s.readTimeout
    rwa [show s.normalized = s from h] at htidy
  · intro h
    obtain ⟨hchat, hchat'⟩ := h.chatEndpoint
    obtain ⟨hhistory, hhistory'⟩ := h.historyEndpoint
    obtain ⟨hcanceled, hcanceled'⟩ := h.canceledMessage
    rw [Normal, normalized, nonBlankOr_of_tidy hchat hchat', nonBlankOr_of_tidy hhistory hhistory',
      h.apiToken, nonBlankOr_of_tidy hcanceled hcanceled', positive?_of_ne_zero h.requestTimeout,
      positive?_of_ne_zero h.readTimeout]

/-- **Edits compose.**  An edit that is refused leaves the settings as they were; whether it is,
with which error, and what it gives otherwise, lies in its text alone.  After any edits each member
has what was given to it last, or what it had before if nothing was; so edits of different members
can change places, wherever they stand.  To bring settings to normal form before the edits adds
nothing to doing it after them; and to do it twice adds nothing to doing it once, after which the
settings are tidy. -/
theorem edits_compose (s : Settings) (edits : List (String × String)) :
    (∀ key value,
      (∀ e, (s.edit key value).1 = .error e → (s.edit key value).2 = s) ∧
      (∀ s' : Settings, (s'.edit key value).1 = (s.edit key value).1) ∧
      ((s.edit key value).1 = .ok () ↔ (given? key value).isSome = true)) ∧
    (∀ name, (s.editAll edits).member? name = (givenTo name edits).getLast?.or (s.member? name)) ∧
    (∀ (before after : List (String × String)) (e e' : String × String), e.1 ≠ e'.1 →
      s.editAll (before ++ e :: e' :: after) = s.editAll (before ++ e' :: e :: after)) ∧
    (s.normalized.editAll edits).normalized = (s.editAll edits).normalized ∧
    s.normalized.normalized = s.normalized ∧ s.normalized.Tidy := by
  refine ⟨fun key value => ⟨?_, ?_, s.edit_fst_eq_ok_iff key value⟩, s.member?_editAll edits,
    fun before after e e' => s.editAll_swap before after,
    normalized_editAll_congr s.normal_normalized edits, s.normal_normalized,
    (normal_iff_tidy _).mp s.normal_normalized⟩
  · intro e hrefused
    cases hset : s.setField key value with
    | ok s' =>
      rw [edit, hset] at hrefused
      cases hrefused
    | error e' => rw [edit, hset]
  · intro s'
    exact s'.edit_fst_eq s key value

end Dialogue.Settings
