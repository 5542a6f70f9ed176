/-
What a typed line asks for.

White space around a line means nothing, and a line of white space asks for nothing.  Any other is a
question, or it has a slash in front; then the text up to the first white space is the name of a
command, and what is behind that is its argument.  A grammar says so by putting lines together
(`Says`), where the program takes them apart, and both agree on every line (`parse?_eq_some_iff`).

So what arguments look like is read off the grammar, case by case; and a line is read as it was
meant if it can be put together that way.
-/
import Dialogue.Proofs.Text.Word
import Dialogue.Proofs.Session.Atomic
import Dialogue.Shell.Command

namespace Dialogue.Shell.Command

open Text (Word Parted trim isBlank isBlankText firstWord)

/-! ### What lines say -/

/-- The names that commands have. -/
def names : List String := ["new", "open", "stop", "settings", "set", "quit", "exit"]

/-- What a name and its argument ask for. -/
inductive Means : String → String → Command → Prop
  | newChat (argument : String) : Means "new" argument .newChat
  | openChat (chatId : String) : Means "open" chatId (.openChat chatId)
  | stop (argument : String) : Means "stop" argument .stop
  | showSettings (argument : String) : Means "settings" argument .showSettings
  | set {argument key value : String} (h : Parted argument key value) :
      Means "set" argument (.set key value)
  | quit (argument : String) : Means "quit" argument .quit
  | exit (argument : String) : Means "exit" argument .quit
  | unknown {name : String} (argument : String) (h : name ∉ names) :
      Means name argument (.unknown name)

/-- What a line without white space around it asks for. -/
inductive Says : String → Command → Prop
  | question {q : String} (hsome : q ≠ "") (hslash : q.toList.head? ≠ some '/') : Says q (.ask q)
  | command {words name argument : String} {c : Command} (hparts : Parted words name argument)
      (hmeans : Means name argument c) : Says ("/" ++ words) c

/-! ### What lines are read as -/

theorem named_set (argument : String) :
    named "set" argument = .set (firstWord argument).1 (firstWord argument).2 := by
  cases hsplit : Text.splitAtBlank argument with
  | none => simp [named, firstWord, hsplit]
  | some p => simp [named, firstWord, hsplit]

theorem Means.named_eq {name argument : String} {c : Command} (h : Means name argument c) :
    named name argument = c := by
  cases h with
  | newChat | openChat | stop | showSettings | quit | exit => rfl
  | set h => rw [named_set, h.firstWord_eq]
  | unknown argument h =>
    simp only [names, List.mem_cons, List.not_mem_nil, or_false, not_or] at h
    obtain ⟨hnew, hopen, hstop, hsettings, hset, hquit, hexit⟩ := h
    simp [named, hnew, hopen, hstop, hsettings, hset, hquit, hexit]

theorem means_named (name : String) {argument : String} (htrim : trim argument = argument) :
    Means name argument (named name argument) := by
  by_cases hname : name ∈ names
  · simp only [names, List.mem_cons, List.not_mem_nil, or_false] at hname
    rcases hname with rfl | rfl | rfl | rfl | rfl | rfl | rfl
    · exact .newChat argument
    · exact .openChat argument
    · exact .stop argument
    · exact .showSettings argument
    · rw [named_set]
      exact .set (Text.parted_firstWord (Text.trim_eq_self_iff.mp htrim).2)
    · exact .quit argument
    · exact .exit argument
  · have hunknown : Means name argument (.unknown name) := .unknown argument hname
    rwa [hunknown.named_eq]

theorem parse?_of_slash {line words : String} (h : trim line = "/" ++ words) :
    parse? line = some (named (firstWord words).1 (firstWord words).2) := by
  have hchars : (trim line).toList = '/' :: words.toList := by
    rw [h, String.toList_append]
    rfl
  rw [parse?, hchars, firstWord]
  simp only [String.ofList_toList]
  cases Text.splitAtBlank words <;> rfl

theorem parse?_of_question {line : String} (hsome : trim line ≠ "")
    (hslash : (trim line).toList.head? ≠ some '/') : parse? line = some (.ask (trim line)) := by
  unfold parse?
  split
  · rename_i hnil
    exact absurd (String.toList_eq_nil_iff.mp hnil) hsome
  · rename_i hcons
    exact absurd (by rw [hcons]; rfl) hslash
  · rfl

theorem Says.parse?_eq {line text : String} {c : Command} (h : Says text c)
    (hline : trim line = text) : parse? line = some c := by
  cases h with
  | question hsome hslash =>
    rw [← hline] at hsome hslash ⊢
    exact parse?_of_question hsome hslash
  | command hparts hmeans =>
    rw [parse?_of_slash hline, hparts.firstWord_eq]
    exact congrArg some hmeans.named_eq

/-- Every line but a blank one says something. -/
theorem exists_says {line : String} (h : isBlankText line = false) :
    ∃ c, Says (trim line) c := by
  have hsome : trim line ≠ "" := by simp [Text.trim_eq_empty_iff, h]
  by_cases hslash : (trim line).toList.head? = some '/'
  · obtain ⟨cs, hcs⟩ := List.head?_eq_some_iff.mp hslash
    obtain ⟨words, hwords⟩ : ∃ words : String, words.toList = cs :=
      ⟨String.ofList cs, String.toList_ofList⟩
    have hline : trim line = "/" ++ words := by
      rw [← String.toList_inj, String.toList_append, hcs, hwords]
      rfl
    have hlast : ∀ c ∈ words.toList.getLast?, isBlank c = false := by
      intro c hc
      refine (Text.trim_eq_self_iff.mp (Text.trim_trim line)).2 c ?_
      rw [hline, String.toList_append, List.getLast?_append, hc]
      rfl
    have hparts := Text.parted_firstWord hlast
    rw [hline]
    exact ⟨_, .command hparts (means_named _ hparts.trim_rest)⟩
  · exact ⟨_, .question hsome hslash⟩

theorem parse?_eq_none_iff {line : String} : parse? line = none ↔ isBlankText line = true := by
  constructor
  · intro hnone
    by_contra hblank
    obtain ⟨c, hsaid⟩ := exists_says (Bool.not_eq_true _ ▸ hblank)
    rw [hsaid.parse?_eq rfl] at hnone
    cases hnone
  · intro hblank
    rw [parse?, Text.trim_eq_empty_iff.mpr hblank]
    rfl

/-- A line is read as the command that it says. -/
theorem parse?_eq_some_iff {line : String} {c : Command} :
    parse? line = some c ↔ Says (trim line) c := by
  constructor
  · intro hparse
    have hblank : isBlankText line = false := by
      by_contra hblank
      rw [parse?_eq_none_iff.mpr (Bool.not_eq_false _ ▸ hblank)] at hparse
      cases hparse
    obtain ⟨d, hsaid⟩ := exists_says hblank
    rw [hsaid.parse?_eq rfl, Option.some.injEq] at hparse
    rwa [← hparse]
  · intro h
    exact h.parse?_eq rfl

theorem parse?_eq_ask_iff {line q : String} :
    parse? line = some (.ask q) ↔
      isBlankText line = false ∧ (trim line).toList.head? ≠ some '/' ∧ q = trim line := by
  constructor
  · intro hparse
    have hblank : isBlankText line = false := by
      rw [← Bool.not_eq_true, ← parse?_eq_none_iff, hparse]
      exact Option.some_ne_none _
    have hsaid := parse?_eq_some_iff.mp hparse
    generalize trim line = text at hsaid ⊢
    cases hsaid with
    | question _ hslash => exact ⟨hblank, hslash, rfl⟩
    | command _ hmeans => cases hmeans
  · rintro ⟨hblank, hslash, rfl⟩
    exact parse?_of_question (by simp [Text.trim_eq_empty_iff, hblank]) hslash

/-! ### Arguments -/

/-- What a command that was typed has for its arguments: no white space around any, none at all in a
name or a key, and no value without a key. -/
def Sound : Command → Prop
  | .ask question => trim question = question ∧ isBlankText question = false
  | .openChat chatId => trim chatId = chatId
  | .set key value => Word key ∧ trim value = value ∧ (key = "" → value = "")
  | .unknown name => Word name
  | .newChat | .stop | .showSettings | .quit => True

theorem Means.sound {name argument : String} {c : Command} (h : Means name argument c)
    (hname : Word name) (htrim : trim argument = argument) : c.Sound := by
  cases h with
  | newChat | stop | showSettings | quit | exit => trivial
  | openChat => exact htrim
  | set h =>
    exact ⟨h.word, h.trim_rest, h.rest_eq_empty (Text.trim_eq_self_iff.mp htrim).1⟩
  | unknown => exact hname

theorem Says.sound {text : String} {c : Command} (h : Says text c) (htrim : trim text = text) :
    c.Sound := by
  cases h with
  | question hsome hslash =>
    refine ⟨htrim, ?_⟩
    rw [← Bool.not_eq_true, ← Text.trim_eq_empty_iff, htrim]
    exact hsome
  | command hparts hmeans => exact hmeans.sound hparts.word hparts.trim_rest

/-! ### Lines as they are meant -/

/-- A line with a name, white space and an argument is read as the command of that name. -/
theorem parse?_slash_append {name gap argument : String} {c : Command}
    (hmeans : Means name argument c) (hname : Word name) (hgap : isBlankText gap = true)
    (hsome : gap ≠ "") (hargument : argument ≠ "") (htrim : trim argument = argument) :
    parse? ("/" ++ (name ++ gap ++ argument)) = some c := by
  have hparts : Parted (name ++ gap ++ argument) name argument :=
    .apart hname hgap hsome hargument htrim
  refine (Says.command hparts hmeans).parse?_eq ?_
  have hline : "/" ++ (name ++ gap ++ argument) = ("/" ++ name ++ gap) ++ argument := by
    simp only [String.append_assoc]
  have hslash : ∀ d ∈ ("/" ++ name ++ gap).toList.head?, isBlank d = false := by
    intro d hd
    have hhead : ("/" ++ name ++ gap).toList.head? = some '/' := by
      rw [String.append_assoc, String.toList_append]
      rfl
    rw [hhead, Option.mem_some_iff] at hd
    rw [← hd]
    decide
  have hfront : "/" ++ name ++ gap ≠ "" := by
    intro hempty
    rw [String.append_assoc, String.append_eq_empty_iff] at hempty
    exact absurd hempty.1 (by decide)
  rw [hline]
  exact Text.trim_append hfront hargument hslash htrim

/-- A key and a value come back as they were typed, with any white space between them. -/
theorem parse?_set {before key between value : String} (hbefore : isBlankText before = true)
    (hbefore' : before ≠ "") (hkey : Word key) (hkey' : key ≠ "")
    (hbetween : isBlankText between = true) (hbetween' : between ≠ "") (hvalue : value ≠ "")
    (htrim : trim value = value) :
    parse? ("/set" ++ before ++ key ++ between ++ value) = some (.set key value) := by
  have hline : "/set" ++ before ++ key ++ between ++ value =
      "/" ++ ("set" ++ before ++ (key ++ between ++ value)) := by
    have hset : "/set" = "/" ++ "set" := rfl
    rw [hset]
    simp only [String.append_assoc]
  have hparts : Parted (key ++ between ++ value) key value :=
    .apart hkey hbetween hbetween' hvalue htrim
  have hargument : key ++ between ++ value ≠ "" := by
    intro hempty
    exact hvalue (String.append_eq_empty_iff.mp hempty).2
  have hfirst : ∀ c ∈ (key ++ between).toList.head?, isBlank c = false := by
    rw [String.toList_append,
      List.head?_append_of_ne_nil _ (String.toList_eq_nil_iff.not.mpr hkey')]
    exact fun c hc => hkey c (List.mem_of_mem_head? hc)
  rw [hline]
  refine parse?_slash_append (.set hparts) (by decide) hbefore hbefore' hargument ?_
  refine Text.trim_append ?_ hvalue hfirst htrim
  intro hempty
  exact hkey' (String.append_eq_empty_iff.mp hempty).1

theorem parse?_open {gap chatId : String} (hgap : isBlankText gap = true) (hsome : gap ≠ "")
    (hchatId : chatId ≠ "") (htrim : trim chatId = chatId) :
    parse? ("/open" ++ gap ++ chatId) = some (.openChat chatId) := by
  have hline : "/open" ++ gap ++ chatId = "/" ++ ("open" ++ gap ++ chatId) := by
    have hopen : "/open" = "/" ++ "open" := rfl
    rw [hopen]
    simp only [String.append_assoc]
  rw [hline]
  exact parse?_slash_append (.openChat chatId) (by decide) hgap hsome hchatId htrim

/-- **Lines are read as what they say.**  A line asks for nothing just if it is blank, and white
space around it changes nothing.  It asks a question just if what is left without that white space
is not empty and has no slash in front; that is then the question, which no session finds empty.
Any other line says its command in the grammar, and no line is read as a command that it does not
say.  The arguments of all commands are sound; and a key with its value, or the name of a chat, come
back as they were typed, whatever white space stands before and between them. -/
theorem lines_read (line : String) :
    (parse? line = none ↔ isBlankText line = true) ∧
    (∀ before after, isBlankText before = true → isBlankText after = true →
      parse? (before ++ line ++ after) = parse? line) ∧
    (∀ q, parse? line = some (.ask q) ↔
      isBlankText line = false ∧ (trim line).toList.head? ≠ some '/' ∧ q = trim line) ∧
    (∀ q, parse? line = some (.ask q) → ∀ (s : Session) (feed : Event.Feed),
      (s.submit feed q).1 ≠ .error .emptyQuestion) ∧
    (∀ c, parse? line = some c ↔ Says (trim line) c) ∧
    (∀ c, parse? line = some c → c.Sound) ∧
    (∀ before key between value : String,
      isBlankText before = true → before ≠ "" → Word key → key ≠ "" →
      isBlankText between = true → between ≠ "" → value ≠ "" → trim value = value →
      parse? ("/set" ++ before ++ key ++ between ++ value) = some (.set key value)) ∧
    (∀ gap chatId : String, isBlankText gap = true → gap ≠ "" → chatId ≠ "" →
      trim chatId = chatId → parse? ("/open" ++ gap ++ chatId) = some (.openChat chatId)) := by
  have hsound : ∀ c, parse? line = some c → c.Sound := by
    intro c hparse
    exact (parse?_eq_some_iff.mp hparse).sound (Text.trim_trim line)
  refine ⟨parse?_eq_none_iff, ?_, fun q => parse?_eq_ask_iff, ?_, fun c => parse?_eq_some_iff,
    hsound, ?_, ?_⟩
  · intro before after hbefore hafter
    unfold parse?
    rw [Text.trim_around hbefore hafter]
  · intro q hparse s feed hempty
    have hblank : isBlankText q = true := Session.submit_eq_empty_iff.mp hempty
    rw [(hsound _ hparse).2] at hblank
    cases hblank
  · intro before key between value hbefore hbefore' hkey hkey' hbetween hbetween' hvalue htrim
    exact parse?_set hbefore hbefore' hkey hkey' hbetween hbetween' hvalue htrim
  · intro gap chatId hgap hsome hchatId htrim
    exact parse?_open hgap hsome hchatId htrim

example : parse? "\u3000/set \u2003framing\u00a0 plain  text " =
    some (.set "framing" "plain  text") := by decide

end Dialogue.Shell.Command
