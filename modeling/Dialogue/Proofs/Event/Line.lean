/-
The lines that are accepted, and what is heard of them.

A line is an object of members.  Four of them say something, each in its own way; they occur at
most once, and what stands in any other member matters only as far as one can see where it ends.
The same four may stand in a list, without their names and in their order, as far as it goes:
then there are no others.
-/
import Dialogue.Event.Line
import Dialogue.Proofs.Json.Grammar.Skip
import Dialogue.Proofs.Source.Grammar
import Dialogue.Proofs.Text.Blank

namespace Dialogue.Event

open Json
open Text.Utf8 (encode)

variable {depth : Nat} {bs rest : List UInt8}

/-- The names of the members that say something. -/
def lineNames : List String := ["chunk", "sources", "error", "done"]

/-- What one member of a line says. -/
inductive Said
  | chunk (text : Option String)
  | sources (docs : Option (List Source))
  | failure (message : Option String)
  | done (isDone : Bool)
  | other (name : String) (h : name ∉ lineNames)

/-- The name under which a member says it. -/
def Said.name : Said → String
  | .chunk _ => "chunk"
  | .sources _ => "sources"
  | .failure _ => "error"
  | .done _ => "done"
  | .other name _ => name

/-- The text of a list of documents, inside of which lists and objects nest less deep. -/
def SourcesText : Nat → Texts (List Source) :=
  Deeper fun depth => ListText (Deeper Source.DocumentText depth)

/-- The text of a member's value. -/
inductive SaidText (depth : Nat) : Texts Said
  | chunk {o : Option String} {bs rest : List UInt8} (h : OrNullText TextOf o bs rest) :
      SaidText depth (.chunk o) bs rest
  | sources {o : Option (List Source)} {bs rest : List UInt8}
      (h : OrNullText (SourcesText depth) o bs rest) : SaidText depth (.sources o) bs rest
  | failure {o : Option String} {bs rest : List UInt8} (h : OrNullText TextOf o bs rest) :
      SaidText depth (.failure o) bs rest
  | done {b : Bool} {bs rest : List UInt8} (h : BoolText b bs rest) :
      SaidText depth (.done b) bs rest
  | other {name : String} {hname : name ∉ lineNames} {bs rest : List UInt8}
      (h : AnyText () bs rest) : SaidText depth (.other name hname) bs rest

/-- The event that a member makes by itself. -/
def Said.event? : Said → Option Event
  | .chunk (some text) => if text = "" then none else some (.chunk text)
  | .sources (some docs) => some (.sources docs)
  | .failure (some message) => some (.failure message)
  | .done true => some .done
  | _ => none

/-- The event of the member of a name. -/
def eventOf (said : List Said) (name : String) : Option Event :=
  (said.find? (·.name = name)).bind Said.event?

/-- The events of a line, in their order.  The end is heard where there is no failure. -/
def heard (said : List Said) : List Event :=
  (eventOf said "chunk").toList ++ (eventOf said "sources").toList ++
    ((eventOf said "error").or (eventOf said "done")).toList

/-- The lines that are accepted, with their events.  Of the nesting that a text may have, the
object or the list of the line itself takes one. -/
inductive Accepted (line : String) : List Event → Prop
  | blank (h : Text.isBlankText line = true) : Accepted line []
  | object {said : List Said}
      (h : WholeText (ObjectText Said.name (SaidText 126)) said (encode (Text.trim line).toList))
      (honce : ((said.map Said.name).filter (· ∈ lineNames)).Nodup) : Accepted line (heard said)
  | list {said : List Said}
      (h : WholeText (ListText (SaidText 126)) said (encode (Text.trim line).toList))
      (horder : said.map Said.name <+: lineNames) : Accepted line (heard said)

/-! ### What is put into a line -/

namespace Said

variable {i : Said}

theorem ne_of_other {n m : String} (hn : n ∉ lineNames) (hm : m ∈ lineNames) : n ≠ m :=
  fun heq => hn (heq ▸ hm)

theorem name_eq_chunk : i.name = "chunk" ↔ ∃ o, i = .chunk o := by
  cases i with
  | other n hn => simpa [name] using ne_of_other hn (by decide)
  | _ => simp [name]

theorem name_eq_sources : i.name = "sources" ↔ ∃ o, i = .sources o := by
  cases i with
  | other n hn => simpa [name] using ne_of_other hn (by decide)
  | _ => simp [name]

theorem name_eq_error : i.name = "error" ↔ ∃ o, i = .failure o := by
  cases i with
  | other n hn => simpa [name] using ne_of_other hn (by decide)
  | _ => simp [name]

theorem name_eq_done : i.name = "done" ↔ ∃ b, i = .done b := by
  cases i with
  | other n hn => simpa [name] using ne_of_other hn (by decide)
  | _ => simp [name]

theorem name_eq_other {n : String} (hn : n ∉ lineNames) :
    i.name = n ↔ ∃ _ : Unit, i = .other n hn := by
  rw [exists_const]
  constructor
  · rintro rfl
    cases i with
    | other m hm => rfl
    | _ => exact absurd (by simp [name, lineNames]) hn
  · rintro rfl
    rfl

end Said

/-- Puts into a line what a member says. -/
def Line.put (l : Line) : Said → Line
  | .chunk o => { l with chunk := some o }
  | .sources o => { l with sources := some o }
  | .failure o => { l with failure := some o }
  | .done b => { l with done := some b }
  | .other _ _ => l

theorem fills_chunk : Fills Said.name Line.put "chunk" (·.chunk) fun i => (Line.put {} i).chunk where
  get_put l i := by cases i <;> rfl
  isSome_part i := by
    rw [Bool.eq_iff_iff, decide_eq_true_eq, Said.name_eq_chunk]
    cases i <;> simp [Line.put]

theorem fills_sources :
    Fills Said.name Line.put "sources" (·.sources) fun i => (Line.put {} i).sources where
  get_put l i := by cases i <;> rfl
  isSome_part i := by
    rw [Bool.eq_iff_iff, decide_eq_true_eq, Said.name_eq_sources]
    cases i <;> simp [Line.put]

theorem fills_failure :
    Fills Said.name Line.put "error" (·.failure) fun i => (Line.put {} i).failure where
  get_put l i := by cases i <;> rfl
  isSome_part i := by
    rw [Bool.eq_iff_iff, decide_eq_true_eq, Said.name_eq_error]
    cases i <;> simp [Line.put]

theorem fills_done : Fills Said.name Line.put "done" (·.done) fun i => (Line.put {} i).done where
  get_put l i := by cases i <;> rfl
  isSome_part i := by
    rw [Bool.eq_iff_iff, decide_eq_true_eq, Said.name_eq_done]
    cases i <;> simp [Line.put]

/-! ### How lines are read -/

theorem textOf_ne_null {s : String} {more : List UInt8} :
    ¬ TextOf s (Byte.lowerN :: more) rest := by
  intro h
  obtain ⟨t, ht⟩ := h.starts
  exact absurd (List.cons.inj ht).1 (by decide)

theorem reads_orNullText : Reads (readOptional readText) (OrNullText TextOf) :=
  reads_text.orNull textOf_ne_null

theorem sourcesText_ne_null {docs : List Source} {more : List UInt8} :
    ¬ SourcesText depth docs (Byte.lowerN :: more) rest := by
  intro h
  cases depth with
  | zero => exact h
  | succ depth =>
    obtain ⟨t, ht⟩ := ListText.starts h
    exact absurd (List.cons.inj ht).1 (by decide)

theorem reads_sources (depth : Nat) :
    Reads (readOptional (Source.readList depth)) (OrNullText (SourcesText depth)) :=
  (reads_list fun d _ => Source.reads_document d).orNull sourcesText_ne_null

theorem saidText_chunk {o : Option String} :
    SaidText depth (.chunk o) bs rest ↔ OrNullText TextOf o bs rest :=
  ⟨fun | .chunk h => h, .chunk⟩

theorem saidText_sources {o : Option (List Source)} :
    SaidText depth (.sources o) bs rest ↔ OrNullText (SourcesText depth) o bs rest :=
  ⟨fun | .sources h => h, .sources⟩

theorem saidText_failure {o : Option String} :
    SaidText depth (.failure o) bs rest ↔ OrNullText TextOf o bs rest :=
  ⟨fun | .failure h => h, .failure⟩

theorem saidText_done {b : Bool} : SaidText depth (.done b) bs rest ↔ BoolText b bs rest :=
  ⟨fun | .done h => h, .done⟩

theorem saidText_other {n : String} (hn : n ∉ lineNames) :
    SaidText depth (.other n hn) bs rest ↔ AnyText () bs rest :=
  ⟨fun | .other h => h, .other⟩

theorem gathers_line (depth : Nat) :
    lineRecord.Gathers depth Said.name (SaidText depth) Line.put where
  starts h := by
    cases h with
    | chunk h => exact reads_orNullText.starts h
    | sources h => exact (reads_sources depth).starts h
    | failure h => exact reads_orNullText.starts h
    | done h => exact reads_bool.starts h
    | other h => exact reads_any.starts h
  shorter h := by
    cases h with
    | chunk h => exact reads_orNullText.shorter h
    | sources h => exact (reads_sources depth).shorter h
    | failure h => exact reads_orNullText.shorter h
    | done h => exact reads_bool.shorter h
    | other h => exact reads_any.shorter h
  nodup := by decide
  field := by
    simp only [lineRecord, List.forall_mem_cons, List.not_mem_nil, false_implies, implies_true,
      and_true]
    exact ⟨.of_mk Said.chunk reads_orNullText Said.name_eq_chunk saidText_chunk,
      .of_mk Said.sources (reads_sources depth) Said.name_eq_sources saidText_sources,
      .of_mk Said.failure reads_orNullText Said.name_eq_error saidText_failure,
      .of_mk Said.done reads_bool Said.name_eq_done saidText_done⟩
  other n hn :=
    .of_mk (fun _ => Said.other n hn) reads_any (Said.name_eq_other hn) (saidText_other hn)
  optional := by decide
  unread := by decide
  isRead_put := by
    simp only [lineRecord, List.forall_mem_cons, List.not_mem_nil, false_implies, implies_true,
      and_true]
    exact ⟨fills_chunk.isSome_put, fills_sources.isSome_put, fills_failure.isSome_put,
      fills_done.isSome_put⟩

/-- A line is read from objects and from lists, and from nothing else. -/
theorem reads_line (depth : Nat) : Reads (lineRecord.read depth)
    (Deeper (fun d => Record.TextOf lineRecord Said.name (SaidText d) Line.put) depth) :=
  Record.Gathers.reads fun d _ => gathers_line d

/-! ### What is heard -/

/-- What is found by a name was made for it. -/
theorem find?_name {α : Type} {n : String} {mk : α → Said}
    (h : ∀ {i : Said}, i.name = n ↔ ∃ a, i = mk a) (said : List Said) :
    said.find? (·.name = n) = none ∨ ∃ a, said.find? (·.name = n) = some (mk a) := by
  cases hfind : said.find? (·.name = n) with
  | none => exact .inl rfl
  | some i =>
    have hname : i.name = n := by simpa using List.find?_some hfind
    obtain ⟨a, rfl⟩ := h.mp hname
    exact .inr ⟨a, rfl⟩

/-- What was put into a line makes the events that are heard of it. -/
theorem events_foldl {said : List Said}
    (honce : ((said.map Said.name).filter (· ∈ lineNames)).Nodup) :
    (said.foldl Line.put {}).events = heard said := by
  rw [Line.events, heard, eventOf, eventOf, eventOf, eventOf,
    fills_chunk.get_foldl_of_once (s := {}) (by decide) honce rfl,
    fills_sources.get_foldl_of_once (s := {}) (by decide) honce rfl,
    fills_failure.get_foldl_of_once (s := {}) (by decide) honce rfl,
    fills_done.get_foldl_of_once (s := {}) (by decide) honce rfl,
    fills_chunk.findSome?_eq_bind, fills_sources.findSome?_eq_bind,
    fills_failure.findSome?_eq_bind, fills_done.findSome?_eq_bind]
  refine congrArg₂ _ (congrArg₂ _ ?chunk ?sources) ?last
  case chunk =>
    obtain h | ⟨o, h⟩ := find?_name Said.name_eq_chunk said
    · rw [h]
      rfl
    · rw [h]
      cases o with
      | none => rfl
      | some text => by_cases htext : text = "" <;> simp [Line.put, Said.event?, htext]
  case sources =>
    obtain h | ⟨o, h⟩ := find?_name Said.name_eq_sources said
    · rw [h]
      rfl
    · rw [h]
      cases o <;> rfl
  case last =>
    have hdone : (if ((said.find? (·.name = "done")).bind fun i => (Line.put {} i).done).getD false
        then [Event.done] else []) = ((said.find? (·.name = "done")).bind Said.event?).toList := by
      obtain h | ⟨b, h⟩ := find?_name Said.name_eq_done said
      · rw [h]
        rfl
      · rw [h]
        cases b <;> rfl
    obtain h | ⟨o, h⟩ := find?_name Said.name_eq_error said
    · rw [h]
      exact hdone
    · rw [h]
      cases o with
      | none => exact hdone
      | some message => rfl

theorem finish_line {said : List Said} {events : List Event}
    (honce : ((said.map Said.name).filter (· ∈ lineNames)).Nodup) :
    lineRecord.finish (said.foldl Line.put lineRecord.start) = .ok events ↔
      heard said = events := by
  rw [← events_foldl honce]
  exact ⟨Except.ok.inj, congrArg _⟩

theorem once_of_order {said : List Said} (h : said.map Said.name <+: lineNames) :
    ((said.map Said.name).filter (· ∈ lineNames)).Nodup :=
  (List.Nodup.sublist h.sublist (by decide)).filter _

/-- A blank line holds neither an object nor a list. -/
theorem not_wholeText_of_blank {line : String} (hline : Text.trim line = "") {α : Type}
    {T : Texts α} (hT : ∀ {a bs rest}, T a bs rest → StartsItem bs) (a : α) :
    ¬ WholeText T a (encode (Text.trim line).toList) := by
  rintro ⟨bs, rest, hbs, ha, -⟩
  obtain ⟨b, more, rfl, -⟩ := hT ha
  rw [hline] at hbs
  have hle := hbs.length_le
  simp [encode] at hle

/-- A line is accepted just if it is blank, or an object or a list by the grammar; and its events
are those that are heard. -/
theorem parseLine_eq_ok_iff (line : String) (events : List Event) :
    parseLine line = .ok events ↔ Accepted line events := by
  unfold parseLine
  by_cases hblank : Text.trim line = ""
  · rw [if_pos hblank]
    constructor
    · rintro ⟨⟩
      exact .blank (Text.trim_eq_empty_iff.mp hblank)
    · intro h
      cases h with
      | blank _ => rfl
      | object h _ => exact absurd h (not_wholeText_of_blank hblank ObjectText.startsItem _)
      | list h _ => exact absurd h (not_wholeText_of_blank hblank ListText.startsItem _)
  · rw [if_neg hblank, readString, (reads_line nestingLimit).readWhole_eq_ok]
    constructor
    · rintro ⟨bs, rest, hbs, h, hrest⟩
      obtain h : Record.TextOf lineRecord Said.name (SaidText 126) Line.put events bs rest := h
      cases h with
      | object h honce hb =>
        obtain rfl := (finish_line honce).mp hb
        exact .object ⟨bs, rest, hbs, h, hrest⟩ honce
      | list _ h horder hb =>
        obtain rfl := (finish_line (once_of_order horder)).mp hb
        exact .list ⟨bs, rest, hbs, h, hrest⟩ horder
    · intro h
      cases h with
      | blank h => exact absurd (Text.trim_eq_empty_iff.mpr h) hblank
      | object h honce =>
        obtain ⟨bs, rest, hbs, h, hrest⟩ := h
        exact ⟨bs, rest, hbs, .object h honce ((finish_line honce).mpr rfl), hrest⟩
      | list h horder =>
        obtain ⟨bs, rest, hbs, h, hrest⟩ := h
        have hb := (finish_line (once_of_order horder)).mpr rfl
        exact ⟨bs, rest, hbs, .list rfl h horder hb, hrest⟩

/-- A line that is neither blank nor an object, and that tells something nevertheless. -/
theorem list_is_heard : parseLine "[\"hi\"]" = .ok [.chunk "hi"] ∧
    Text.isBlankText "[\"hi\"]" = false ∧ ∀ said,
      ¬ WholeText (ObjectText Said.name (SaidText 126)) said
        (encode (Text.trim "[\"hi\"]").toList) := by
  refine ⟨by decide +kernel, by decide, ?_⟩
  rintro said ⟨bs, rest, hbs, hobject, -⟩
  obtain ⟨more, rfl⟩ := hobject.starts
  have hbytes : encode (Text.trim "[\"hi\"]").toList =
      Byte.openBracket :: encode "\"hi\"]".toList := by rfl
  have hskip := hbs.skipBlanks_eq (by decide)
  rw [hbytes, skipBlanks_cons (by decide)] at hskip
  exact absurd (List.cons.inj hskip).1 (by decide)

end Dialogue.Event
