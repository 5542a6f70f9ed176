/-
What a file of settings gives back.

Loading is the other way round from saving if two things hold of the settings, and both are
lasting: they are in normal form, or loading would normalise them, and their numbers have
sixty-four bits, or the reader would take them for doubles.  Settings that were loaded have
both, whatever the file holds, and so have the defaults that hold in the place of a file that
cannot be read.

The members of the file come back sorted, with each name once, and loading does nothing with
them but look them up.
-/
import Dialogue.Proofs.Json.Members
import Dialogue.Proofs.Settings.Normal
import Dialogue.Settings.Layered

namespace Dialogue

namespace Settings

open Json
open Text.Utf8 (encode)

/-! ### An environment without settings -/

/-- None of the variables is for a setting. -/
def Silent (environment : List (String × String)) : Prop :=
  ∀ v ∈ environment, Environment.settingParts? v.1 = none

variable {environment : List (String × String)}

theorem layer_of_silent (h : Silent environment) : Environment.layer environment = [] := by
  have hnone : environment.filterMap Environment.setting? = [] := by
    rw [List.filterMap_eq_nil_iff]
    intro v hv
    simp [Environment.setting?, h v hv]
  rw [Environment.layer, hnone]
  rfl

/-- Without variables only the file counts. -/
theorem ofFound_of_silent (h : Silent environment) (found : Found) :
    ofFound found environment =
      match (fileLayer? found).bind ofLayer? with
      | some s => s.normalized
      | none => {} := by
  rw [ofFound, layer_of_silent h]
  rfl

/-! ### Written settings -/

theorem simple_timeoutValue {t : Option Nat} (h : ∀ n ∈ t, n < 0x10000000000000000) :
    (timeoutValue t).Simple := by
  cases t with
  | none => exact .null
  | some n =>
    have hlt : n < 0x10000000000000000 := h n rfl
    exact .number ⟨by omega, by omega⟩

theorem Fits.simple_members {s : Settings} (h : s.Fits) : ∀ m ∈ s.members, m.2.Simple := by
  simp only [members, List.forall_mem_cons, List.not_mem_nil, false_implies, implies_true,
    and_true]
  exact ⟨.text _, .text _, .text _, .text _, .text _, simple_timeoutValue h.request,
    simple_timeoutValue h.read⟩

/-- The layer that written settings are read back as. -/
def fileLayer (s : Settings) : Layer :=
  (ofMembers s.members).map fun m => (m.1, Loose.ofJson m.2)

theorem fileLayer?_fileText {s : Settings} (h : s.Fits) :
    fileLayer? (.content (encode s.fileText.toList)) = some s.fileLayer := by
  have hread := readWhole_prettyMembers h.simple_members 126
  rw [fileLayer?, fileText, nestingLimit]
  simp only [members] at hread ⊢
  rw [hread]
  rfl

theorem value?_fileLayer (s : Settings) (name : String) :
    s.fileLayer.value? name = (s.member? name).map Loose.ofJson := by
  have hnodup : (s.members.map (·.1)).Nodup := by
    have hnames : s.members.map (·.1) = memberNames := rfl
    rw [hnames]
    decide
  have hfind : (ofMembers s.members).find? (·.1 = name) = s.members.find? (·.1 = name) := by
    rw [find?_ofMembers, find?_reverse_of_nodup hnodup]
  rw [Layer.value?, fileLayer, List.find?_map, Option.map_map, member?, Option.map_map, ← hfind]
  rfl

theorem textOf?_fileLayer {s : Settings} {name : String} (text : String)
    (h : s.member? name = some (.text text)) (fallback : String) :
    textOf? s.fileLayer name fallback = some text := by
  rw [textOf?, value?_fileLayer, h]
  rfl

theorem timeoutOf?_fileLayer {s : Settings} {name : String} {t : Option Nat}
    (h : s.member? name = some (timeoutValue t)) : timeoutOf? s.fileLayer name = some t := by
  rw [timeoutOf?, value?_fileLayer, h]
  cases t <;> rfl

theorem framingOf?_fileLayer (s : Settings) : framingOf? s.fileLayer = some s.framing := by
  have hmember : s.member? "framing" = some (.text s.framing.name) := rfl
  rw [framingOf?, value?_fileLayer, hmember]
  cases s.framing <;> rfl

theorem ofLayer?_fileLayer (s : Settings) : ofLayer? s.fileLayer = some s := by
  rw [ofLayer?, textOf?_fileLayer s.chatEndpoint rfl,
    textOf?_fileLayer s.historyEndpoint rfl,
    textOf?_fileLayer s.apiToken rfl, framingOf?_fileLayer,
    textOf?_fileLayer s.canceledMessage rfl,
    timeoutOf?_fileLayer (t := s.requestTimeout) rfl,
    timeoutOf?_fileLayer (t := s.readTimeout) rfl]
  rfl

/-- Settings that were saved are loaded as they are. -/
theorem ofFound_fileText (henv : Silent environment) {s : Settings} (hnormal : s.Normal)
    (hfits : s.Fits) : ofFound (.content (encode s.fileText.toList)) environment = s := by
  rw [ofFound_of_silent henv, fileLayer?_fileText hfits, Option.bind_some, ofLayer?_fileLayer]
  exact hnormal

/-! ### Loaded settings -/

theorem normal_ofFound (found : Found) : (ofFound found environment).Normal := by
  unfold ofFound
  split
  · exact normal_normalized _
  · exact normal_default

/-- Whole numbers of sixty-four bits in a layer. -/
def LayerFits (l : Layer) : Prop := ∀ m ∈ l, ∀ n : Nat, m.2 = .whole n → n < 0x10000000000000000

theorem eq_number_of_ofJson {v : Json.Value} {i : Int} (h : Loose.ofJson v = .whole i) :
    v = .number (.integer i) := by
  unfold Loose.ofJson at h
  split at h <;> cases h
  rfl

theorem layerFits_fileLayer? {found : Found} {l : Layer} (h : fileLayer? found = some l) :
    LayerFits l := by
  unfold fileLayer? at h
  split at h
  · cases h
    simp [LayerFits]
  · cases h
  · split at h
    · rename_i ms hwhole
      cases h
      obtain ⟨rest, hread⟩ := readWhole_eq_ok hwhole
      intro m hm n hn
      obtain ⟨x, hx, rfl⟩ := List.mem_map.mp hm
      have hfits := (readValue_readAs hread).membersFit x hx n (eq_number_of_ofJson hn)
      have hlt : (n : Int) < 0x10000000000000000 := hfits.2
      omega
    · cases h

theorem LayerFits.timeoutOf? {l : Layer} (h : LayerFits l) {name : String} {t : Option Nat}
    (ht : timeoutOf? l name = some t) : ∀ n ∈ t, n < 0x10000000000000000 := by
  unfold Settings.timeoutOf? at ht
  split at ht
  · cases ht
    simp
  · cases ht
    simp
  · rename_i k hvalue
    cases ht
    intro n hn
    obtain rfl := Option.some.inj hn
    rw [Layer.value?, Option.map_eq_some_iff] at hvalue
    obtain ⟨m, hfind, hm⟩ := hvalue
    exact h m (List.mem_of_find?_eq_some hfind) k hm
  · cases ht

theorem LayerFits.ofLayer? {l : Layer} (h : LayerFits l) {s : Settings}
    (hs : ofLayer? l = some s) : s.Fits := by
  simp only [Settings.ofLayer?, Option.bind_eq_bind, Option.bind_eq_some_iff] at hs
  obtain ⟨_, -, _, -, _, -, _, -, _, -, request, hrequest, read, hread, hs⟩ := hs
  cases hs
  exact ⟨h.timeoutOf? hrequest, h.timeoutOf? hread⟩

theorem fits_ofFound (henv : Silent environment) (found : Found) :
    (ofFound found environment).Fits := by
  rw [ofFound_of_silent henv]
  split
  · rename_i s hs
    obtain ⟨l, hl, hs⟩ := Option.bind_eq_some_iff.mp hs
    exact ((layerFits_fileLayer? hl).ofLayer? hs).normalized
  · exact fits_default

end Settings

end Dialogue
