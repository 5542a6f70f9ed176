/-
What settings show can be typed back.

A line that settings show is the name of a member and its value, with `" = "` between them.  No
name has a space, so the first place where these three characters stand is the one behind the
name, whatever stands in the value (`keyAndValue?_line`).

What follows is the value as an edit reads it: a text is taken as it is if it has no white space
at its ends, a framing has one name, and a timeout is told in digits or by a word that no digits
are.  So each line but the one of the token gives its member what it shows
(`restores_of_mem_shown`).  Such edits agree on what they give, and so their order does not matter:
a member that one of them names is back, and any other is as it was.
-/
import Dialogue.Proofs.Settings.Editing

namespace Dialogue

namespace Text

/-! ### Lines in two parts -/

/-- The parts before and behind the first place where the mark stands. -/
def cutAtFirst? (mark : List Char) : List Char → Option (List Char × List Char)
  | [] => if mark = [] then some ([], []) else none
  | c :: cs =>
    if mark.isPrefixOf (c :: cs) then some ([], (c :: cs).drop mark.length)
    else (cutAtFirst? mark cs).map fun p => (c :: p.1, p.2)

/-- Where a mark cannot begin, it does not stand. -/
theorem cutAtFirst?_append {c : Char} {mark front : List Char} (h : c ∉ front) (rest : List Char) :
    cutAtFirst? (c :: mark) (front ++ (c :: mark ++ rest)) = some (front, rest) := by
  induction front with
  | nil =>
    have hstands : (c :: mark).isPrefixOf (c :: mark ++ rest) = true := by
      rw [List.isPrefixOf_iff_prefix]
      exact List.prefix_append _ _
    have hdrop : (c :: mark ++ rest).drop (c :: mark).length = rest := List.drop_left
    rw [List.nil_append, List.cons_append, cutAtFirst?, ← List.cons_append, if_pos hstands, hdrop]
  | cons d front ih =>
    rw [List.mem_cons, not_or] at h
    have hnot : (c :: mark).isPrefixOf (d :: (front ++ (c :: mark ++ rest))) = false := by
      simp [List.isPrefixOf, h.1]
    rw [List.cons_append, cutAtFirst?, hnot, if_neg Bool.false_ne_true, ih h.2, Option.map_some]

/-! ### Digits read back -/

theorem decimalValue?_of_isDigit {c : Char} (h : c.isDigit = true) :
    decimalValue? c = some (c.toNat - '0'.toNat) := by
  have hrange : '0' ≤ c ∧ c ≤ '9' := by
    simpa [Char.isDigit, Char.le_def] using h
  rw [decimalValue?, if_pos hrange]
  rfl

theorem foldl_appendDigit {cs : List Char} (h : ∀ c ∈ cs, c.isDigit = true) (n : Nat) :
    cs.foldl (appendDigit 10 decimalValue?) (some n) = some (Nat.ofDigitChars 10 cs n) := by
  induction cs generalizing n with
  | nil => rfl
  | cons c cs ih =>
    have hstep : appendDigit 10 decimalValue? (some n) c =
        some (10 * n + (c.toNat - '0'.toNat)) := by
      simp [appendDigit, decimalValue?_of_isDigit (h c (by simp)), Nat.mul_comm]
    rw [List.foldl_cons, hstep, ih (fun d hd => h d (by simp [hd])), Nat.ofDigitChars_cons]

theorem isDigit_of_mem_decimal {n : Nat} {c : Char} (h : c ∈ decimal n) : c.isDigit = true :=
  Nat.isDigit_of_mem_toDigits (by decide) (by decide) h

theorem natural?_decimal (n : Nat) : natural? (decimal n) = some n := by
  have hsome : ¬ (decimal n).isEmpty = true := by
    rw [List.isEmpty_iff]
    exact Nat.toDigits_ne_nil
  rw [natural?, if_neg hsome, foldl_appendDigit fun c hc => isDigit_of_mem_decimal hc]
  exact congrArg some Nat.ofDigitChars_ten_toDigits

theorem natural64?_decimal {n : Nat} (h : n < 0x10000000000000000) :
    natural64? (String.ofList (decimal n)) = some n := by
  unfold natural64?
  rw [String.toList_ofList]
  split
  · rename_i more hplus
    have hdigit : '+'.isDigit = true := isDigit_of_mem_decimal (by rw [hplus]; simp)
    exact absurd hdigit (by decide)
  · simp [natural?_decimal, h]

/-- No digits are a word. -/
theorem toLower_ne_of_isDigit {c : Char} (h : c.isDigit = true) : c.toLower ≠ 'n' := by
  have hdigits : ∀ n < 58, 48 ≤ n → (Char.ofNat n).toLower ≠ 'n' := by decide
  have hrange : 48 ≤ c.toNat ∧ c.toNat ≤ 57 := Char.isDigit_iff_toNat.mp h
  rw [← c.ofNat_toNat]
  exact hdigits c.toNat (by omega) hrange.1

end Text

namespace Settings

/-! ### Values as they are shown -/

theorem trim_timeoutText (t : Option Nat) : Text.trim (timeoutText t) = timeoutText t := by
  cases t with
  | none => decide
  | some n =>
    refine Text.trim_of_no_blank fun c hc => ?_
    rw [timeoutText, String.toList_ofList] at hc
    exact Text.isBlank_of_isDigit (Text.isDigit_of_mem_decimal hc)

theorem readTimeout?_timeoutText {t : Option Nat} (h : ∀ n ∈ t, n < 0x10000000000000000) :
    readTimeout? (timeoutText t) = some t := by
  cases t with
  | none =>
    have hword : (timeoutText none).map Char.toLower = "none" := by
      rw [← String.toList_inj, String.toList_map]
      decide
    rw [readTimeout?, if_pos hword]
  | some n =>
    have hword : (timeoutText (some n)).map Char.toLower ≠ "none" := by
      intro hnone
      have hlist : (Text.decimal n).map Char.toLower = ['n', 'o', 'n', 'e'] := by
        have htexts := congrArg String.toList hnone
        rwa [String.toList_map, timeoutText, String.toList_ofList] at htexts
      have hn : 'n' ∈ (Text.decimal n).map Char.toLower := by
        rw [hlist]
        exact List.mem_cons_self
      obtain ⟨c, hc, hlower⟩ := List.mem_map.mp hn
      exact Text.toLower_ne_of_isDigit (Text.isDigit_of_mem_decimal hc) hlower
    rw [readTimeout?, if_neg hword, timeoutText, Text.natural64?_decimal (h n rfl), Option.map_some]

theorem ofName?_name (f : Framing) : Framing.ofName? (Text.trim f.name) = some f := by
  cases f with
  | plainText => decide
  | eventLines => decide

/-- The texts that settings show have no white space at their ends. -/
structure Trimmed (s : Settings) : Prop where
  chatEndpoint : Text.trim s.chatEndpoint = s.chatEndpoint
  historyEndpoint : Text.trim s.historyEndpoint = s.historyEndpoint
  canceledMessage : Text.trim s.canceledMessage = s.canceledMessage

theorem Tidy.trimmed {s : Settings} (h : s.Tidy) : s.Trimmed :=
  ⟨h.chatEndpoint.1, h.historyEndpoint.1, h.canceledMessage.1⟩

/-! ### Lines that are typed back -/

/-- The name and the value that a line shows. -/
def keyAndValue? (line : String) : Option (String × String) :=
  (Text.cutAtFirst? " = ".toList line.toList).map fun p => (String.ofList p.1, String.ofList p.2)

theorem keyAndValue?_line {key : String} (h : ' ' ∉ key.toList) (value : String) :
    keyAndValue? (key ++ " = " ++ value) = some (key, value) := by
  have hcut : Text.cutAtFirst? (' ' :: ['=', ' '])
      (key.toList ++ (' ' :: ['=', ' '] ++ value.toList)) = some (key.toList, value.toList) :=
    Text.cutAtFirst?_append h value.toList
  have hline : (key ++ " = " ++ value).toList =
      key.toList ++ (' ' :: ['=', ' '] ++ value.toList) := by
    rw [String.toList_append, String.toList_append, List.append_assoc]
    rfl
  have hmark : " = ".toList = ' ' :: ['=', ' '] := rfl
  rw [keyAndValue?, hline, hmark, hcut, Option.map_some, String.ofList_toList, String.ofList_toList]

/-- The names and the values that settings show. -/
def parts (s : Settings) : List (String × String) :=
  [("chat_endpoint", s.chatEndpoint), ("history_endpoint", s.historyEndpoint),
   ("api_token", if s.apiToken = "" then "(none)" else "(set)"), ("framing", s.framing.name),
   ("canceled_message", s.canceledMessage),
   ("request_timeout_secs", timeoutText s.requestTimeout),
   ("read_timeout_secs", timeoutText s.readTimeout)]

theorem describe_eq_parts (s : Settings) :
    s.describe = s.parts.map fun p => p.1 ++ " = " ++ p.2 := by
  rfl

/-- Every line is cut where it was put together. -/
theorem map_keyAndValue?_describe (s : Settings) :
    s.describe.map keyAndValue? = s.parts.map some := by
  have hkeys : ∀ p ∈ s.parts, ' ' ∉ p.1.toList := by
    have hnames : ∀ name ∈ memberNames, ' ' ∉ name.toList := by decide
    intro p hp
    refine hnames p.1 ?_
    have hmem : p.1 ∈ s.parts.map (·.1) := List.mem_map_of_mem hp
    exact hmem
  rw [describe_eq_parts, List.map_map]
  exact List.map_congr_left fun p hp => keyAndValue?_line (hkeys p hp) p.2

/-- The lines as edits, but for the one of the token. -/
def shown (s : Settings) : List (String × String) :=
  (s.describe.filterMap keyAndValue?).filter (·.1 ≠ "api_token")

theorem shown_eq (s : Settings) : s.shown = s.parts.filter (·.1 ≠ "api_token") := by
  have hparts : s.describe.filterMap keyAndValue? = s.parts := by
    have hlines : s.describe.filterMap keyAndValue? =
        (s.describe.map keyAndValue?).filterMap id := by
      rw [List.filterMap_map]
      rfl
    rw [hlines, map_keyAndValue?_describe, List.filterMap_map]
    exact List.filterMap_some
  rw [shown, hparts]

/-! ### Edits that put back what was shown -/

/-- The edit gives the member that it names what the settings have there. -/
def Restores (s : Settings) (e : String × String) : Prop :=
  ∃ x, given? e.1 e.2 = some x ∧ s.member? e.1 = some x

theorem restores_of_mem_shown {s : Settings} (htrimmed : s.Trimmed) (hfits : s.Fits)
    {e : String × String} (he : e ∈ s.shown) : s.Restores e := by
  rw [shown_eq, List.mem_filter, decide_eq_true_eq] at he
  obtain ⟨hpart, htoken⟩ := he
  simp only [parts, List.mem_cons, List.not_mem_nil, or_false] at hpart
  rcases hpart with rfl | rfl | rfl | rfl | rfl | rfl | rfl
  · refine ⟨.text s.chatEndpoint, ?_, rfl⟩
    show some (Json.Value.text (Text.trim s.chatEndpoint)) = _
    rw [htrimmed.chatEndpoint]
  · refine ⟨.text s.historyEndpoint, ?_, rfl⟩
    show some (Json.Value.text (Text.trim s.historyEndpoint)) = _
    rw [htrimmed.historyEndpoint]
  · exact absurd rfl htoken
  · refine ⟨.text s.framing.name, ?_, rfl⟩
    show (Framing.ofName? (Text.trim s.framing.name)).map (fun f => Json.Value.text f.name) = _
    rw [ofName?_name, Option.map_some]
  · refine ⟨.text s.canceledMessage, ?_, rfl⟩
    show some (Json.Value.text (Text.trim s.canceledMessage)) = _
    rw [htrimmed.canceledMessage]
  · refine ⟨timeoutValue s.requestTimeout, ?_, rfl⟩
    show (readTimeout? (Text.trim (timeoutText s.requestTimeout))).map timeoutValue = _
    rw [trim_timeoutText, readTimeout?_timeoutText hfits.request, Option.map_some]
  · refine ⟨timeoutValue s.readTimeout, ?_, rfl⟩
    show (readTimeout? (Text.trim (timeoutText s.readTimeout))).map timeoutValue = _
    rw [trim_timeoutText, readTimeout?_timeoutText hfits.read, Option.map_some]

/-- None of them is refused. -/
theorem foldlM_setField {s : Settings} {edits : List (String × String)}
    (h : ∀ e ∈ edits, s.Restores e) (t : Settings) :
    edits.foldlM (fun u e => u.setField e.1 e.2) t = .ok (t.editAll edits) := by
  induction edits generalizing t with
  | nil => rfl
  | cons e edits ih =>
    obtain ⟨x, hgives, -⟩ := h e List.mem_cons_self
    cases goes e.1 e.2 with
    | refused error hgiven _ =>
      rw [hgiven] at hgives
      cases hgives
    | made _ _ hset =>
      obtain ⟨u, hset, -⟩ := hset t
      have hedit : (t.edit e.1 e.2).2 = u := by rw [edit, hset]
      rw [List.foldlM_cons, hset, editAll, List.foldl_cons, hedit]
      exact ih (fun f hf => h f (List.mem_cons_of_mem e hf)) u

/-- They bring back the members that they name, in whatever order, and leave the others. -/
theorem member?_editAll_of_restores {s : Settings} {edits : List (String × String)}
    (h : ∀ e ∈ edits, s.Restores e) (t : Settings) (name : String) :
    (t.editAll edits).member? name =
      if name ∈ edits.map (·.1) then s.member? name else t.member? name := by
  induction edits generalizing t with
  | nil => simp [editAll]
  | cons e edits ih =>
    obtain ⟨x, hgives, hmember⟩ := h e List.mem_cons_self
    have hfirst : t.editAll (e :: edits) = (t.edit e.1 e.2).2.editAll edits := rfl
    rw [hfirst, ih (fun f hf => h f (List.mem_cons_of_mem e hf)), member?_edit, hgives,
      Option.some_or, List.map_cons]
    by_cases hlater : name ∈ edits.map (·.1)
    · rw [if_pos hlater, if_pos (List.mem_cons_of_mem e.1 hlater)]
    · by_cases hname : name = e.1
      · rw [if_neg hlater, if_pos hname, hname, if_pos List.mem_cons_self, hmember]
      · have hnot : name ∉ e.1 :: edits.map (·.1) := by
          rw [List.mem_cons, not_or]
          exact ⟨hname, hlater⟩
        rw [if_neg hlater, if_neg hname, if_neg hnot]

/-- Of all names, it is the token's alone that is not shown. -/
theorem mem_names_shown (s : Settings) {name : String} (hname : name ∈ memberNames) :
    name ∈ s.shown.map (·.1) ↔ name ≠ "api_token" := by
  have hpart : name ∈ s.parts.map (·.1) := hname
  obtain ⟨e, he, rfl⟩ := List.mem_map.mp hpart
  rw [shown_eq, List.mem_map]
  constructor
  · rintro ⟨f, hf, hsame⟩
    rw [List.mem_filter, decide_eq_true_eq, hsame] at hf
    exact hf.2
  · intro htoken
    refine ⟨e, ?_, rfl⟩
    rw [List.mem_filter, decide_eq_true_eq]
    exact ⟨he, htoken⟩

theorem member?_withToken (s : Settings) (token : String) {name : String}
    (hname : name ≠ "api_token") : (s.withToken token).member? name = s.member? name := by
  simp [member?, members, withToken, List.find?_cons, hname.symm]

/-- What the settings show gives them back when it is typed: each line has a name and a value, and
the lines but the one of the token, as edits in any order of any settings, are all made and leave
nothing of those settings but their token. -/
def TypedBack (s : Settings) : Prop :=
  (∀ line ∈ s.describe, (keyAndValue? line).isSome = true) ∧
  ∀ edits : List (String × String), edits.Perm s.shown → ∀ t : Settings,
    edits.foldlM (fun u e => u.setField e.1 e.2) t = .ok (s.withToken t.apiToken)

theorem Trimmed.typedBack {s : Settings} (htrimmed : s.Trimmed) (hfits : s.Fits) :
    s.TypedBack := by
  refine ⟨fun line hline => ?_, fun edits horder t => ?_⟩
  · have hcut : keyAndValue? line ∈ s.describe.map keyAndValue? := List.mem_map_of_mem hline
    rw [map_keyAndValue?_describe] at hcut
    obtain ⟨p, -, hp⟩ := List.mem_map.mp hcut
    rw [← hp, Option.isSome_some]
  · have hrestores : ∀ e ∈ edits, s.Restores e := fun e he =>
      restores_of_mem_shown htrimmed hfits (horder.mem_iff.mp he)
    rw [foldlM_setField hrestores]
    refine congrArg Except.ok (eq_of_member? fun name hname => ?_)
    have hnames : name ∈ edits.map (·.1) ↔ name ≠ "api_token" :=
      (horder.map (·.1)).mem_iff.trans (s.mem_names_shown hname)
    rw [member?_editAll_of_restores hrestores]
    by_cases htoken : name = "api_token"
    · rw [if_neg fun h => hnames.mp h htoken, htoken]
      rfl
    · rw [if_pos (hnames.mpr htoken), s.member?_withToken t.apiToken htoken]

/-- **What settings show can be typed back.**  Settings without white space at the ends of the texts
that they show are given back by their lines, and so are all settings in normal form. -/
theorem typed_back (s : Settings) (hfits : s.Fits) :
    (s.Trimmed → s.TypedBack) ∧ s.normalized.TypedBack :=
  ⟨fun htrimmed => htrimmed.typedBack hfits,
    ((normal_iff_tidy _).mp s.normal_normalized).trimmed.typedBack hfits.normalized⟩

/-- Texts in which the mark stands itself, and the longest timeout there is. -/
def marked : Settings where
  chatEndpoint := "http://h/chat?a = b"
  apiToken := "one"
  framing := .plainText
  canceledMessage := "= 1 = 2"
  requestTimeout := some 18446744073709551615

theorem typed_back_marked :
    marked.Fits ∧ marked.Trimmed ∧
      marked.shown = [("chat_endpoint", "http://h/chat?a = b"),
        ("history_endpoint", "http://127.0.0.1:8000/api/chats"), ("framing", "plain_text"),
        ("canceled_message", "= 1 = 2"), ("request_timeout_secs", "18446744073709551615"),
        ("read_timeout_secs", "none")] ∧
      marked.shown.reverse.foldlM (fun (u : Settings) e => u.setField e.1 e.2)
        { apiToken := "two" } = .ok (marked.withToken "two") := by
  have hfits : marked.Fits := ⟨by simp [marked], by simp [marked]⟩
  have htrimmed : marked.Trimmed := ⟨by decide, by decide, by decide⟩
  have hback : marked.TypedBack := (typed_back marked hfits).1 htrimmed
  refine ⟨hfits, htrimmed, ?_, hback.2 marked.shown.reverse marked.shown.reverse_perm _⟩
  rw [shown_eq]
  decide

end Settings

end Dialogue
