/-
Settings that start the program.

At the start two services are made out of the settings, and each refuses an empty endpoint on
its own terms: the one for chats takes off white space first, the one for stored chats takes off
slashes as well.  Normal form puts a default in the place of an endpoint of white space, so the
first service is always made.  An endpoint of nothing but slashes is left as it is, and of that
the second service keeps nothing.  There is no other way in which the start can fail, whatever
stands in the file and in the environment (`start_eq_error_iff`).

Such an endpoint does not come about by itself: it was there when the settings were loaded, or
somebody has set it.
-/
import Dialogue.Proofs.Settings.Kept
import Dialogue.Shell

namespace Dialogue

/-- A text of slashes, and at least one of them. -/
def OnlySlashes (s : String) : Prop := s ≠ "" ∧ ∀ c ∈ s.toList, c = '/'

instance (s : String) : Decidable (OnlySlashes s) :=
  have : Decidable (∀ c ∈ s.toList, c = '/') := List.decidableBAll (fun c => c = '/') s.toList
  inferInstanceAs (Decidable (s ≠ "" ∧ ∀ c ∈ s.toList, c = '/'))

namespace Text

/-- Nothing is left of a text if everything in it is taken off. -/
theorem dropEndWhile_eq_empty_iff {p : Char → Bool} {s : String} :
    dropEndWhile p s = "" ↔ ∀ c ∈ s.toList, p c = true := by
  rw [dropEndWhile, String.ofList_eq_empty_iff, List.reverse_eq_nil_iff, List.dropWhile_eq_nil_iff]
  simp only [List.mem_reverse]

end Text

namespace Http

theorem Archive.baseOf_eq_empty_iff {endpoint : String} :
    Archive.baseOf endpoint = "" ↔ ∀ c ∈ (Text.trim endpoint).toList, c = '/' := by
  simp only [Archive.baseOf, Text.dropEndWhile_eq_empty_iff, decide_eq_true_eq]

end Http

namespace Settings

/-! ### Endpoints in normal form -/

theorem historyEndpoint_normalized (s : Settings) :
    s.normalized.historyEndpoint = nonBlankOr defaultHistoryEndpoint s.historyEndpoint := by
  simp only [normalized]

/-- The default is no text of slashes, so one in normal form was there before. -/
theorem onlySlashes_historyEndpoint {s : String} :
    OnlySlashes (nonBlankOr defaultHistoryEndpoint s) ↔ OnlySlashes (Text.trim s) := by
  unfold nonBlankOr
  by_cases hblank : Text.trim s = ""
  · have hdefault : ¬ OnlySlashes defaultHistoryEndpoint := by decide
    have hempty : ¬ OnlySlashes "" := by decide
    simp [hblank, hdefault, hempty]
  · simp [hblank]

theorem endpoint_chatConfig (s : Settings) : s.normalized.chatConfig.endpoint =
    Text.trim (nonBlankOr defaultChatEndpoint s.chatEndpoint) := by
  simp only [chatConfig, Http.ChatConfig.of, normalized]

/-- The service for chats is always made. -/
theorem chatService_new (s : Settings) (tokens : Http.TokenProvider) :
    Http.ChatService.new s.normalized.chatConfig tokens =
      .ok ⟨s.normalized.chatConfig, tokens⟩ := by
  have hne : s.normalized.chatConfig.endpoint ≠ "" := by
    rw [endpoint_chatConfig, trim_nonBlankOr (by decide)]
    exact nonBlankOr_ne_empty (by decide) s.chatEndpoint
  rw [Http.ChatService.new, if_neg hne]

/-- The service for stored chats is made unless its endpoint is nothing but slashes. -/
theorem archive_new (s : Settings) (timeout : Option Nat) (tokens : Http.TokenProvider) :
    Http.Archive.new s.normalized.historyEndpoint timeout tokens =
      if OnlySlashes (Text.trim s.historyEndpoint) then .error (.missingEndpoint .history)
      else .ok ⟨Http.Archive.baseOf s.normalized.historyEndpoint, timeout, tokens⟩ := by
  have hempty : Http.Archive.baseOf s.normalized.historyEndpoint = "" ↔
      OnlySlashes (Text.trim s.historyEndpoint) := by
    rw [Http.Archive.baseOf_eq_empty_iff, historyEndpoint_normalized, trim_nonBlankOr (by decide),
      ← onlySlashes_historyEndpoint]
    exact (and_iff_right (nonBlankOr_ne_empty (by decide) s.historyEndpoint)).symm
  simp only [Http.Archive.new, hempty]

end Settings

namespace Shell

open Settings

/-! ### The start -/

/-- With settings in normal form the start fails for one reason only. -/
theorem start_eq_error_iff {k : KeptSettings} (hk : k.current.Normal) (f : Http.Failure) :
    start k = .error f ↔ f = .missingEndpoint .history ∧ OnlySlashes k.current.historyEndpoint := by
  have hchat := chatService_new k.current (.fixed k.current.token)
  have harchive := archive_new k.current (milliseconds k.current.requestTimeout)
    (.fixed k.current.token)
  have htrim : Text.trim k.current.historyEndpoint = k.current.historyEndpoint := by
    have hnormal := k.current.historyEndpoint_normalized
    rw [show k.current.normalized = k.current from hk] at hnormal
    rw [hnormal]
    exact trim_nonBlankOr (by decide) _
  rw [show k.current.normalized = k.current from hk] at hchat harchive
  rw [htrim] at harchive
  by_cases hslashes : OnlySlashes k.current.historyEndpoint
  · rw [if_pos hslashes] at harchive
    simp [start, Services.ofSettings, bind, Except.bind, hchat, harchive, hslashes, eq_comm]
  · rw [if_neg hslashes] at harchive
    simp [start, Services.ofSettings, bind, Except.bind, pure, Except.pure, hchat, harchive,
      hslashes]

theorem exists_start_iff {k : KeptSettings} (hk : k.current.Normal) :
    (∃ shell, start k = .ok shell) ↔ ¬ OnlySlashes k.current.historyEndpoint := by
  constructor
  · rintro ⟨shell, hshell⟩ hslashes
    have hfailed := (start_eq_error_iff hk _).mpr ⟨rfl, hslashes⟩
    rw [hshell] at hfailed
    cases hfailed
  · intro hslashes
    cases hstart : start k with
    | ok shell => exact ⟨shell, rfl⟩
    | error f => exact absurd ((start_eq_error_iff hk f).mp hstart).2 hslashes

end Shell

namespace KeptSettings

open FileTree Settings

variable {σ : Type} {disk : Disk (StateM σ)} {view : σ → Volume}
  {environment : List (String × String)}

theorem normal_load (disk : Disk (StateM σ)) (path : String)
    (environment : List (String × String)) (s : σ) :
    (load disk path environment s).1.current.Normal :=
  normal_ofFound (disk.look path s).1

/-! ### Endpoints that were set -/

/-- An edit gives the history endpoint nothing but slashes only if it says so. -/
theorem onlySlashes_setField {s s' : Settings} {key value : String}
    (h : s.setField key value = .ok s')
    (hslashes : OnlySlashes s'.normalized.historyEndpoint) :
    OnlySlashes s.normalized.historyEndpoint ∨
      key = "history_endpoint" ∧ OnlySlashes (Text.trim value) := by
  rw [historyEndpoint_normalized] at hslashes ⊢
  cases edits_of_setField h with
  | historyEndpoint =>
    rw [onlySlashes_historyEndpoint, Text.trim_trim] at hslashes
    exact Or.inr ⟨rfl, hslashes⟩
  | chatEndpoint | apiToken | canceledMessage | framing | requestTimeout | readTimeout =>
    exact Or.inl hslashes

/-- One more change behind the others. -/
theorem setAll_concat {changes : List (String × String)} {key value : String} {k k' : KeptSettings}
    {s s' : σ} {r : Except ChangeError Unit}
    (h : (setAll disk changes k s).1.set disk key value (setAll disk changes k s).2 =
      ((r, k'), s')) : setAll disk (changes ++ [(key, value)]) k s = (k', s') := by
  induction changes generalizing k s with
  | nil =>
    have hset : k.set disk key value s = ((r, k'), s') := h
    simp only [List.nil_append, setAll, bind, StateT.bind, hset]
    rfl
  | cons change changes ih => exact ih h

/-- What was changed last is loaded afresh, if the change was made. -/
theorem load_setAll (hd : disk.Honest view) (henv : Silent environment) {k k' : KeptSettings}
    {s s' : σ} (hk : Orderly view k s) {changes : List (String × String)} {key value : String}
    (hset : (setAll disk changes k s).1.set disk key value (setAll disk changes k s).2 =
      ((.ok (), k'), s')) : (load disk k.path environment s').1 = k' := by
  obtain ⟨hpath, hbefore, -⟩ := setAll_orderly hd henv hk changes
  obtain ⟨edited, -, rfl, hafter, hagrees, -⟩ := set_ok hd henv hbefore hset
  rw [← hpath]
  exact hagrees.load hd henv hafter.grounded

theorem onlySlashes_setAll (hd : disk.Honest view) (henv : Silent environment) {k : KeptSettings}
    {s : σ} (hk : Orderly view k s) {changes : List (String × String)}
    (h : OnlySlashes (setAll disk changes k s).1.current.historyEndpoint) :
    OnlySlashes k.current.historyEndpoint ∨
      ∃ value, ("history_endpoint", value) ∈ changes ∧ OnlySlashes (Text.trim value) := by
  induction changes generalizing k s with
  | nil => exact Or.inl h
  | cons change changes ih =>
    obtain ⟨key, value⟩ := change
    cases hset : k.set disk key value s with
    | mk answer s' =>
      obtain ⟨r, k'⟩ := answer
      have hrest : setAll disk ((key, value) :: changes) k s = setAll disk changes k' s' := by
        simp only [setAll, bind, StateT.bind, hset]
      rw [hrest] at h
      rcases ih (set_orderly hd henv hk hset).2.1 h with hnow | ⟨v, hv, hslashes⟩
      · cases r with
        | error e => exact Or.inl ((set_error hd hk hset).1 ▸ hnow)
        | ok u =>
          obtain ⟨edited, hedit, rfl, -⟩ := set_ok hd henv hk hset
          rcases onlySlashes_setField hedit hnow with hold | ⟨rfl, hslashes⟩
          · rw [show k.current.normalized = k.current from hk.normal] at hold
            exact Or.inl hold
          · exact Or.inr ⟨value, List.mem_cons_self, hslashes⟩
      · exact Or.inr ⟨v, List.mem_cons_of_mem _ hv, hslashes⟩

/-- **Settings in normal form start the program, unless the history endpoint is nothing but
slashes.**  Whatever the settings are, their normal form gives the service for chats its endpoint;
it gives the service for stored chats one too, unless the endpoint without white space around it
is slashes and nothing else.  So with settings that were loaded, whatever stood in the file and in
the environment, the start fails in this one case and for this one reason.

And a program that was started can be started again after any number of changes, made or refused,
the last of which was made, as long as none of them gives the history endpoint nothing but
slashes. -/
theorem started_unless_slashes (settings : Settings) (timeout : Option Nat)
    (tokens : Http.TokenProvider) :
    (∃ chat, Http.ChatService.new settings.normalized.chatConfig tokens = .ok chat) ∧
    (∀ f, Http.Archive.new settings.normalized.historyEndpoint timeout tokens = .error f ↔
      f = .missingEndpoint .history ∧ OnlySlashes (Text.trim settings.historyEndpoint)) ∧
    ∀ {σ : Type} (disk : Disk (StateM σ)) (path : String) (environment : List (String × String))
      (s₀ : σ),
      let loaded := load disk path environment s₀
      (∀ f, Shell.start loaded.1 = .error f ↔
        f = .missingEndpoint .history ∧ OnlySlashes loaded.1.current.historyEndpoint) ∧
      ∀ (view : σ → Volume) (changes : List (String × String)) (key value : String) k' s',
        disk.Honest view → Silent environment → (view s₀).tree.Grounded →
        let changed := setAll disk changes loaded.1 loaded.2
        changed.1.set disk key value changed.2 = ((.ok (), k'), s') →
        (∃ shell, Shell.start loaded.1 = .ok shell) →
        (∀ v, ("history_endpoint", v) ∈ changes ++ [(key, value)] → ¬ OnlySlashes (Text.trim v)) →
        ∃ shell, Shell.start (load disk path environment s').1 = .ok shell := by
  refine ⟨⟨_, chatService_new settings tokens⟩, fun f => ?_, ?_⟩
  · rw [archive_new]
    by_cases hslashes : OnlySlashes (Text.trim settings.historyEndpoint)
    · simp [hslashes, eq_comm]
    · simp [hslashes]
  · intro σ disk path environment s₀ loaded
    have hnormal := normal_load disk path environment
    refine ⟨Shell.start_eq_error_iff (hnormal s₀), ?_⟩
    intro view changes key value k' s' hd henv hg changed hset hstarted hnone
    obtain ⟨hk₀, -⟩ := load_orderly (s := s₀) hd henv path hg
    have hagain : (load disk path environment s').1 = k' := load_setAll hd henv hk₀ hset
    have hall : (setAll disk (changes ++ [(key, value)]) loaded.1 loaded.2).1 = k' :=
      congrArg Prod.fst (setAll_concat hset)
    rw [Shell.exists_start_iff (hnormal s'), hagain, ← hall]
    intro hslashes
    rcases onlySlashes_setAll hd henv hk₀ hslashes with hbefore | ⟨v, hv, hv'⟩
    · exact (Shell.exists_start_iff (hnormal s₀)).mp hstarted hbefore
    · exact hnone v hv hv'

/-- A change that is refused, and then one to an endpoint with slashes at its end. -/
theorem started_unless_slashes_slashesBehind :
    let start := load FileTree.disk "settings.json" [] {}
    let before := setAll FileTree.disk [("framing", "sse")] start.1 start.2
    let after := before.1.set FileTree.disk "history_endpoint" " http://h/x// " before.2
    before.1 = start.1 ∧ after.1.2.current.historyEndpoint = "http://h/x//" ∧
      ∃ shell, Shell.start (load FileTree.disk "settings.json" [] after.2).1 = .ok shell := by
  intro start before after
  obtain ⟨-, -, hrun⟩ := started_unless_slashes {} none (.fixed none)
  obtain ⟨-, hagain⟩ := hrun FileTree.disk "settings.json" [] {}
  have hmade : after.1.1 = .ok () := by decide +kernel
  have hset : before.1.set FileTree.disk "history_endpoint" " http://h/x// " before.2 =
      ((after.1.1, after.1.2), after.2) := rfl
  rw [hmade] at hset
  have hstart : ∃ shell, Shell.start start.1 = .ok shell :=
    (Shell.exists_start_iff (normal_load ..)).mpr (by decide +kernel)
  refine ⟨by decide +kernel, by decide +kernel, ?_⟩
  refine hagain FileTree.volume [("framing", "sse")] "history_endpoint" " http://h/x// "
    after.1.2 after.2 honest_disk (by simp [Silent]) (grounded_of_nodes (by decide)) hset hstart ?_
  intro v hv
  obtain rfl : v = " http://h/x// " := by simpa using hv
  decide +kernel

/-- With three slashes for the history endpoint, set while the program runs, it is not started
again. -/
theorem not_started_again :
    let start := load FileTree.disk "settings.json" [] {}
    let after := start.1.set FileTree.disk "history_endpoint" "///" start.2
    (∃ shell, Shell.start start.1 = .ok shell) ∧ after.1.1 = .ok () ∧
      Shell.start (load FileTree.disk "settings.json" [] after.2).1 =
        .error (.missingEndpoint .history) := by
  intro start after
  have hstart : ∃ shell, Shell.start start.1 = .ok shell :=
    (Shell.exists_start_iff (normal_load ..)).mpr (by decide +kernel)
  have hmade : after.1.1 = .ok () := by decide +kernel
  have hset : (setAll FileTree.disk [] start.1 start.2).1.set FileTree.disk "history_endpoint" "///"
      start.2 = ((after.1.1, after.1.2), after.2) := rfl
  rw [hmade] at hset
  have hsilent : Silent [] := by simp [Silent]
  have horderly : Orderly FileTree.volume start.1 start.2 :=
    (load_orderly honest_disk hsilent "settings.json" (grounded_of_nodes (by decide))).1
  have hagain : (load FileTree.disk "settings.json" [] after.2).1 = after.1.2 :=
    load_setAll honest_disk hsilent horderly hset
  refine ⟨hstart, hmade, (Shell.start_eq_error_iff (normal_load ..) _).mpr ⟨rfl, ?_⟩⟩
  rw [hagain]
  decide +kernel

end KeptSettings

end Dialogue
