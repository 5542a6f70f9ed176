/-
Settings in normal form.

Normalising does nothing more when it is done twice: a text that was trimmed has no white
space left at its ends, none of the defaults has any, and none of them is blank.  And a number
of seconds in settings has sixty-four bits, if an edit or a file has put it there.  Both are
what a file of settings can keep, so both are said of settings as a whole (`Normal`, `Fits`).

An edit of settings in normal form changes the one member that it names, and so does bringing
the result to normal form again.
-/
import Mathlib.Tactic.Common
import Dialogue.Proofs.Text.Blank
import Dialogue.Settings.Edit
import Dialogue.Settings.Json

namespace Dialogue

namespace Settings

/-! ### Normal form -/

theorem nonBlankOr_nonBlankOr (fallback : String) (htrim : Text.trim fallback = fallback)
    (hne : fallback ≠ "") (s : String) :
    nonBlankOr fallback (nonBlankOr fallback s) = nonBlankOr fallback s := by
  unfold nonBlankOr
  by_cases hblank : Text.trim s = ""
  · simp [hblank, htrim, hne]
  · simp [hblank, Text.trim_trim]

theorem trim_nonBlankOr {fallback : String} (htrim : Text.trim fallback = fallback) (s : String) :
    Text.trim (nonBlankOr fallback s) = nonBlankOr fallback s := by
  unfold nonBlankOr
  by_cases hblank : Text.trim s = ""
  · simp [hblank, htrim]
  · simp [hblank, Text.trim_trim]

theorem nonBlankOr_ne_empty {fallback : String} (hne : fallback ≠ "") (s : String) :
    nonBlankOr fallback s ≠ "" := by
  unfold nonBlankOr
  by_cases hblank : Text.trim s = ""
  · simpa [hblank] using hne
  · simp [hblank]

theorem positive?_positive? (t : Option Nat) : positive? (positive? t) = positive? t := by
  cases t with
  | none => rfl
  | some n => cases n <;> rfl

/-- Nothing is left to normalise. -/
def Normal (s : Settings) : Prop := s.normalized = s

theorem normal_normalized (s : Settings) : s.normalized.Normal := by
  have hchat := nonBlankOr_nonBlankOr defaultChatEndpoint (by decide) (by decide)
  have hhistory := nonBlankOr_nonBlankOr defaultHistoryEndpoint (by decide) (by decide)
  have hcanceled := nonBlankOr_nonBlankOr defaultCanceledMessage (by decide) (by decide)
  simp only [Normal, normalized, hchat, hhistory, hcanceled, Text.trim_trim, positive?_positive?]

theorem normal_default : ({} : Settings).Normal := by
  unfold Normal
  decide

/-! ### Numbers that fit -/

/-- The timeouts are numbers of sixty-four bits. -/
structure Fits (s : Settings) : Prop where
  request : ∀ n ∈ s.requestTimeout, n < 0x10000000000000000
  read : ∀ n ∈ s.readTimeout, n < 0x10000000000000000

theorem fits_default : ({} : Settings).Fits := ⟨by simp, by simp⟩

theorem mem_of_mem_positive? {t : Option Nat} {n : Nat} (h : n ∈ positive? t) : n ∈ t := by
  unfold positive? at h
  split at h
  · simp at h
  · exact h

theorem Fits.normalized {s : Settings} (h : s.Fits) : s.normalized.Fits :=
  ⟨fun n hn => h.request n (mem_of_mem_positive? hn), fun n hn => h.read n (mem_of_mem_positive? hn)⟩

theorem readTimeout?_lt {value : String} {t : Option Nat} (h : readTimeout? value = some t) :
    ∀ n ∈ t, n < 0x10000000000000000 := by
  unfold readTimeout? Text.natural64? at h
  split at h
  · cases h
    simp
  · simp only [Option.map_eq_some_iff, Option.bind_eq_bind, Option.bind_eq_some_iff] at h
    obtain ⟨n, ⟨k, -, hk⟩, rfl⟩ := h
    split at hk
    · rename_i hlt
      cases hk
      simpa using hlt
    · cases hk

/-! ### Edits -/

/-- The member of a name. -/
def member? (s : Settings) (name : String) : Option Json.Value :=
  (s.members.find? (·.1 = name)).map (·.2)

theorem timeoutValue_injective {t u : Option Nat} (h : timeoutValue t = timeoutValue u) :
    t = u := by
  cases t with
  | none => cases u with
    | none => rfl
    | some n => cases h
  | some m => cases u with
    | none => cases h
    | some n => exact congrArg some (Int.ofNat.inj (Json.Number.integer.inj (Json.Value.number.inj h)))

theorem name_injective {f g : Framing} (h : f.name = g.name) : f = g := by
  cases f <;> cases g <;> first | rfl | exact absurd h (by decide)

/-- The names of all members, in the order in which they are written. -/
def memberNames : List String :=
  ["chat_endpoint", "history_endpoint", "api_token", "framing", "canceled_message",
   "request_timeout_secs", "read_timeout_secs"]

theorem member?_eq_none {name : String} (h : name ∉ memberNames) (s : Settings) :
    s.member? name = none := by
  rw [member?, Option.map_eq_none_iff, List.find?_eq_none]
  intro m hm hname
  have hmem : m.1 ∈ s.members.map (·.1) := List.mem_map_of_mem hm
  exact h (by simpa [memberNames, members, of_decide_eq_true hname] using hmem)

/-- Settings have nothing but their members. -/
theorem eq_of_member? {s s' : Settings} (h : ∀ name ∈ memberNames, s'.member? name = s.member? name) :
    s' = s := by
  simp only [memberNames, List.forall_mem_cons, List.not_mem_nil, false_implies, implies_true,
    and_true, member?, members] at h
  obtain ⟨hchat, hhistory, htoken, hframing, hcanceled, hrequest, hread⟩ := h
  cases s
  cases s'
  simp at hchat hhistory htoken hframing hcanceled hrequest hread
  rw [hchat, hhistory, htoken, name_injective hframing, hcanceled, timeoutValue_injective hrequest,
    timeoutValue_injective hread]

/-- A member in normal form depends on nothing but that member. -/
theorem member?_normalized_congr {s s' : Settings} {name : String}
    (h : s'.member? name = s.member? name) :
    s'.normalized.member? name = s.normalized.member? name := by
  by_cases hknown : name ∈ memberNames
  · simp only [memberNames, List.mem_cons, List.not_mem_nil, or_false] at hknown
    rcases hknown with rfl | rfl | rfl | rfl | rfl | rfl | rfl
    all_goals
      simp [member?, members, normalized] at h ⊢
      first | rw [h] | rw [timeoutValue_injective h]
  · rw [member?_eq_none hknown, member?_eq_none hknown]

/-- What an edit can do, which is one thing for every name. -/
inductive Edits (s : Settings) (value : String) : String → Settings → Prop
  | chatEndpoint : Edits s value "chat_endpoint" { s with chatEndpoint := Text.trim value }
  | historyEndpoint : Edits s value "history_endpoint" { s with historyEndpoint := Text.trim value }
  | apiToken : Edits s value "api_token" { s with apiToken := Text.trim value }
  | canceledMessage : Edits s value "canceled_message" { s with canceledMessage := Text.trim value }
  | framing (f : Framing) : Edits s value "framing" { s with framing := f }
  | requestTimeout {t : Option Nat} (ht : readTimeout? (Text.trim value) = some t) :
      Edits s value "request_timeout_secs" { s with requestTimeout := t }
  | readTimeout {t : Option Nat} (ht : readTimeout? (Text.trim value) = some t) :
      Edits s value "read_timeout_secs" { s with readTimeout := t }

theorem edits_of_setField {s s' : Settings} {key value : String}
    (h : s.setField key value = .ok s') : s.Edits value key s' := by
  unfold setField at h
  simp only at h
  split at h
  case h_1 => exact Except.ok.inj h ▸ .chatEndpoint
  case h_2 => exact Except.ok.inj h ▸ .historyEndpoint
  case h_3 => exact Except.ok.inj h ▸ .apiToken
  case h_4 => exact Except.ok.inj h ▸ .canceledMessage
  case h_5 =>
    split at h
    · exact Except.ok.inj h ▸ .framing _
    · cases h
  case h_6 =>
    split at h
    · exact Except.ok.inj h ▸ .requestTimeout ‹_›
    · cases h
  case h_7 =>
    split at h
    · exact Except.ok.inj h ▸ .readTimeout ‹_›
    · cases h
  case h_8 => cases h

/-- An edit changes the member that it names and no other. -/
theorem member?_setField {s s' : Settings} {key value : String}
    (h : s.setField key value = .ok s') {name : String} (hname : name ≠ key) :
    s'.member? name = s.member? name := by
  cases edits_of_setField h <;> simp [member?, members, List.find?_cons, hname.symm]

theorem Fits.setField {s s' : Settings} (hs : s.Fits) {key value : String}
    (h : s.setField key value = .ok s') : s'.Fits := by
  cases edits_of_setField h with
  | requestTimeout ht => exact ⟨readTimeout?_lt ht, hs.read⟩
  | readTimeout ht => exact ⟨hs.request, readTimeout?_lt ht⟩
  | chatEndpoint | historyEndpoint | apiToken | canceledMessage | framing =>
    exact ⟨hs.request, hs.read⟩

end Settings

end Dialogue
