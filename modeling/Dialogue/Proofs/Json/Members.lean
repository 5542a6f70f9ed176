/-
Members of an object survive being written.

Writers differ in the blanks that they put between names, colons, values and commas, and
readers in what they do with a member that they have read.  So both are left open: if a reader
takes every single member as it was written (`Takes`), it takes all of them, one after the
other, and stops in front of the closing brace.  For a reader of any value this is so if the
values are read back, and simple ones are, that is, those that hold no others.

An object keeps its members sorted, and of two members of one name the later one.  For looking
them up the order makes no difference.
-/
import Dialogue.Json.Shape
import Dialogue.Proofs.Json.Token

namespace Dialogue.Json

open Text.Utf8

variable {σ : Type} {rest ws : List UInt8}

/-! ### Blanks -/

/-- Nothing but blanks. -/
def Blank (ws : List UInt8) : Prop := ∀ b ∈ ws, isJsonBlank b = true

instance (ws : List UInt8) : Decidable (Blank ws) :=
  List.decidableBAll (fun b => isJsonBlank b = true) ws

theorem skipBlanks_append (hws : Blank ws) {b : UInt8} (hb : isJsonBlank b = false) :
    skipBlanks (ws ++ b :: rest) = b :: rest := by
  unfold skipBlanks
  rw [List.dropWhile_append_of_pos hws, List.dropWhile_cons_of_neg (by simp [hb])]

theorem skipBlanks_cons {b : UInt8} (hb : isJsonBlank b = false) :
    skipBlanks (b :: rest) = b :: rest :=
  List.dropWhile_cons_of_neg (by simp [hb])

theorem not_in_number_of_blank {b : UInt8} (h : isJsonBlank b = true) :
    digit? b = none ∧ b ≠ Byte.dot ∧ isExponentLetter b = false := by
  simp only [isJsonBlank, Bool.or_eq_true, decide_eq_true_eq] at h
  rcases h with ((rfl | rfl) | rfl) | rfl <;> decide

/-! ### Names -/

theorem nextName_first (hws : Blank ws) (name : String) :
    nextName true (ws ++ (encode (writeText name) ++ rest)) = .ok (some name, rest) := by
  obtain ⟨body, hbytes, hread⟩ := readTextBody_writeText name rest
  rw [hbytes, List.cons_append, nextName, skipBlanks_append hws (by decide)]
  have hbrace : Byte.quote ≠ Byte.closeBrace := by decide
  simp [hbrace, hread, Except.map]

theorem nextName_comma (hws : Blank ws) (name : String) :
    nextName false (Byte.comma :: (ws ++ (encode (writeText name) ++ rest))) =
      .ok (some name, rest) := by
  obtain ⟨body, hbytes, hread⟩ := readTextBody_writeText name rest
  have hcomma : skipBlanks (Byte.comma :: (ws ++ (encode (writeText name) ++ rest))) = _ :=
    skipBlanks_cons (by decide)
  have hbrace : Byte.comma ≠ Byte.closeBrace := by decide
  rw [nextName, hcomma, hbytes, List.cons_append]
  simp [hbrace, skipBlanks_append hws (b := Byte.quote) (by decide), hread, Except.map]

theorem nextName_close (hws : Blank ws) (first : Bool) (rest : List UInt8) :
    nextName first (ws ++ Byte.closeBrace :: rest) = .ok (none, Byte.closeBrace :: rest) := by
  rw [nextName, skipBlanks_append hws (by decide)]
  simp

theorem behindColon_colon (read : Reader σ) (bs : List UInt8) :
    behindColon read (Byte.colon :: bs) = read bs := by
  have hcolon : skipBlanks (Byte.colon :: bs) = Byte.colon :: bs :=
    skipBlanks_cons (by decide)
  simp [behindColon, readColon, hcolon]

/-! ### Members -/

/-- The blanks of a writer. -/
structure Layout where
  beforeName : List UInt8
  beforeValue : List UInt8
  beforeBrace : List UInt8

/-- They are blanks indeed. -/
structure Layout.Blank (l : Layout) : Prop where
  beforeName : Json.Blank l.beforeName
  beforeValue : Json.Blank l.beforeValue
  beforeBrace : Json.Blank l.beforeBrace

namespace Layout

/-- What is written for the name of a member and its value. -/
def member (l : Layout) (m : String × Value) : List UInt8 :=
  l.beforeName ++ (encode (writeText m.1) ++
    Byte.colon :: (l.beforeValue ++ encode m.2.write))

/-- Members behind others. -/
def others (l : Layout) : List (String × Value) → List UInt8
  | [] => l.beforeBrace ++ [Byte.closeBrace]
  | m :: ms => Byte.comma :: (l.member m ++ l.others ms)

/-- All members and the closing brace. -/
def members (l : Layout) : List (String × Value) → List UInt8
  | [] => l.others []
  | m :: ms => l.member m ++ l.others ms

/-- What stands behind a value ends a number. -/
theorem endsNumber_others {l : Layout} (hl : l.Blank) (ms : List (String × Value)) :
    EndsNumber (l.others ms ++ rest) := by
  cases ms with
  | cons m ms => exact endsNumber_cons.mpr (by decide)
  | nil =>
    have hblank := hl.beforeBrace
    unfold others
    cases hws : l.beforeBrace with
    | nil => exact endsNumber_cons.mpr (by decide)
    | cons w ws =>
      rw [hws] at hblank
      exact endsNumber_cons.mpr (not_in_number_of_blank (hblank w (by simp)))

end Layout

/-- The reader goes from one state to another as it takes members that were written. -/
inductive Takes (l : Layout) (member : String → σ → Reader σ) : σ → List (String × Value) → σ → Prop
  | nil (s : σ) : Takes l member s [] s
  | cons {s s' t : σ} {m : String × Value} {ms : List (String × Value)}
      (hm : ∀ rest, EndsNumber rest →
        member m.1 s (Byte.colon :: (l.beforeValue ++ (encode m.2.write ++ rest))) =
          .ok (s', rest))
      (hms : Takes l member s' ms t) : Takes l member s (m :: ms) t

namespace Takes

variable {l : Layout} {member : String → σ → Reader σ} {ms : List (String × Value)} {s t : σ}

/-- The same is done with each member, whatever was read before it. -/
theorem foldl {take : σ → String × Value → σ} (hmember : ∀ m ∈ ms, ∀ s rest, EndsNumber rest →
      member m.1 s (Byte.colon :: (l.beforeValue ++ (encode m.2.write ++ rest))) =
        .ok (take s m, rest)) (s : σ) :
    Takes l member s ms (ms.foldl take s) := by
  induction ms generalizing s with
  | nil => exact .nil s
  | cons m ms ih =>
    exact .cons (hmember m (by simp) s) (ih (fun x hx => hmember x (by simp [hx])) (take s m))

/-- All members that are left are taken. -/
theorem readMembers_others (hl : l.Blank) (h : Takes l member s ms t) {fuel : Nat}
    (hfuel : ms.length < fuel) :
    readMembers member fuel false s (l.others ms ++ rest) =
      .ok (t, Byte.closeBrace :: rest) := by
  induction h generalizing fuel with
  | nil s =>
    cases fuel with
    | zero => simp at hfuel
    | succ fuel =>
      have hclose := nextName_close hl.beforeBrace false rest
      have hbytes : l.others [] ++ rest = l.beforeBrace ++ Byte.closeBrace :: rest := by
        simp [Layout.others]
      rw [hbytes, readMembers, hclose]
  | @cons s s' t m ms hm _ ih =>
    cases fuel with
    | zero => simp at hfuel
    | succ fuel =>
      have hbytes : l.others (m :: ms) ++ rest = Byte.comma :: (l.beforeName ++
          (encode (writeText m.1) ++
            Byte.colon :: (l.beforeValue ++ (encode m.2.write ++ (l.others ms ++ rest))))) := by
        simp [Layout.others, Layout.member]
      rw [hbytes, readMembers, nextName_comma hl.beforeName]
      simp only
      rw [hm _ (Layout.endsNumber_others hl ms)]
      exact ih (by simpa using hfuel)

theorem readMembers (hl : l.Blank) (h : Takes l member s ms t) {fuel : Nat}
    (hfuel : ms.length < fuel) :
    Json.readMembers member fuel true s (l.members ms ++ rest) =
      .ok (t, Byte.closeBrace :: rest) := by
  cases fuel with
  | zero => simp at hfuel
  | succ fuel =>
    cases h with
    | nil s =>
      have hclose := nextName_close hl.beforeBrace true rest
      have hbytes : l.members [] ++ rest = l.beforeBrace ++ Byte.closeBrace :: rest := by
        simp [Layout.members, Layout.others]
      rw [hbytes, Json.readMembers, hclose]
    | @cons s s' t m ms hm hms =>
      have hbytes : l.members (m :: ms) ++ rest = l.beforeName ++ (encode (writeText m.1) ++
          Byte.colon :: (l.beforeValue ++ (encode m.2.write ++ (l.others ms ++ rest)))) := by
        simp [Layout.members, Layout.member]
      rw [hbytes, Json.readMembers, nextName_first hl.beforeName]
      simp only
      rw [hm _ (Layout.endsNumber_others hl ms)]
      exact readMembers_others hl hms (by simpa using hfuel)

end Takes

/-! ### Simple values -/

/-- A value that holds no other, and no double. -/
inductive Value.Simple : Value → Prop
  | null : Simple .null
  | text (s : String) : Simple (.text s)
  | number {x : Number} (h : x.Fits) : Simple (.number x)

theorem not_blank_of_startsNumber {b : UInt8} (h : startsNumber b = true) :
    isJsonBlank b = false := by
  by_contra hb
  have hblank := not_in_number_of_blank (eq_true_of_ne_false hb)
  simp only [startsNumber, hblank.1, Option.isSome_none, Bool.or_false, decide_eq_true_eq] at h
  rw [h] at hb
  exact hb (by decide)

theorem not_word_of_startsNumber {b : UInt8} (h : startsNumber b = true) :
    b ≠ Byte.lowerN ∧ b ≠ Byte.lowerT ∧ b ≠ Byte.lowerF := by
  refine ⟨?_, ?_, ?_⟩
  all_goals
    rintro rfl
    exact absurd h (by decide)

/-- A simple value is read back, whatever blanks stand before it. -/
theorem readValue_write {v : Value} (h : v.Simple) (depth : Nat) (hws : Blank ws)
    (hrest : EndsNumber rest) :
    readValue depth (ws ++ (encode v.write ++ rest)) = .ok (v, rest) := by
  cases h with
  | null =>
    have hword : encode ['n', 'u', 'l', 'l'] = Byte.lowerN :: afterN := by decide
    have hbytes : encode Value.null.write ++ rest = Byte.lowerN :: (afterN ++ rest) := by
      rw [Value.write, hword, List.cons_append]
    rw [hbytes, readValue, skipBlanks_append hws (by decide)]
    rfl
  | text s =>
    obtain ⟨body, hbytes, hread⟩ := readTextBody_writeText s rest
    have hmarks : Byte.quote ≠ Byte.lowerN ∧ Byte.quote ≠ Byte.lowerT ∧ Byte.quote ≠ Byte.lowerF ∧
        startsNumber Byte.quote = false := by decide
    rw [Value.write, hbytes, List.cons_append, readValue, skipBlanks_append hws (by decide)]
    simp [hmarks, hread, Except.map]
  | @number x hfits =>
    obtain ⟨b, bs, hbytes, hstarts⟩ := encode_write_cons hfits
    have hread := readNumber_write hfits hrest
    rw [hbytes, List.cons_append] at hread
    rw [Value.write, hbytes, List.cons_append, readValue,
      skipBlanks_append hws (not_blank_of_startsNumber hstarts)]
    simp [not_word_of_startsNumber hstarts, hstarts, hread, Except.map]

/-! ### Objects of simple values -/

theorem length_le_others (l : Layout) (ms : List (String × Value)) :
    ms.length ≤ (l.others ms).length := by
  induction ms with
  | nil => exact Nat.zero_le _
  | cons m ms ih =>
    simp only [Layout.others, List.length_cons, List.length_append]
    omega

/-- As many steps as there are bytes suffice for all members. -/
theorem length_lt_members (l : Layout) (ms : List (String × Value)) (rest : List UInt8) :
    ms.length < (l.members ms ++ rest).length + 1 := by
  cases ms with
  | nil => exact Nat.succ_pos _
  | cons m ms =>
    have hle := length_le_others l ms
    simp only [Layout.members, Layout.member, List.length_cons, List.length_append]
    omega

/-- What reads the value of a member and puts it to the others. -/
def readInto (depth : Nat) (name : String) (ms : List (String × Value)) :
    Reader (List (String × Value)) :=
  behindColon fun bs => (readValue depth bs).map fun r => (insertMember name r.1 ms, r.2)

theorem readValue_openBrace (depth : Nat) (bs : List UInt8) :
    readValue (depth + 1) (Byte.openBrace :: bs) =
      (closing closeObject (readMembers (readInto depth) (bs.length + 1) true [] bs)).map
        fun r => (.object r.1, r.2) := by
  have hopen : skipBlanks (Byte.openBrace :: bs) = _ :=
    skipBlanks_cons (by decide)
  have hmarks : Byte.openBrace ≠ Byte.lowerN ∧ Byte.openBrace ≠ Byte.lowerT ∧
      Byte.openBrace ≠ Byte.lowerF ∧ startsNumber Byte.openBrace = false ∧
      Byte.openBrace ≠ Byte.quote ∧ Byte.openBrace ≠ Byte.openBracket := by decide
  obtain ⟨hn, ht, hf, hnumber, hquote, hbracket⟩ := hmarks
  rw [readValue, hopen]
  simp only [hn, ht, hf, hnumber, hquote, hbracket, if_false, if_true]
  rfl

theorem closeObject_closeBrace (rest : List UInt8) :
    closeObject (Byte.closeBrace :: rest) = (none, rest) := by
  have hbrace : skipBlanks (Byte.closeBrace :: rest) = _ :=
    skipBlanks_cons (by decide)
  simp [closeObject, hbrace]

theorem Takes.closing {l : Layout} (hl : l.Blank) {member : String → σ → Reader σ}
    {ms : List (String × Value)} {s t : σ} (h : Takes l member s ms t) :
    closing closeObject (Json.readMembers member ((l.members ms ++ rest).length + 1) true s
      (l.members ms ++ rest)) = .ok (t, rest) := by
  rw [h.readMembers hl (length_lt_members l ms rest)]
  simp only [Json.closing, closeObject_closeBrace]

/-- An object is read back with its members sorted if all its values are read back. -/
theorem readValue_members {l : Layout} (hl : l.Blank) {ms : List (String × Value)} {depth : Nat}
    (hms : ∀ m ∈ ms, ∀ rest, EndsNumber rest →
      readValue depth (l.beforeValue ++ (encode m.2.write ++ rest)) = .ok (m.2, rest)) :
    readValue (depth + 1) (Byte.openBrace :: (l.members ms ++ rest)) =
      .ok (.object (ofMembers ms), rest) := by
  have htakes : Takes l (readInto depth) [] ms (ofMembers ms) := by
    refine Takes.foldl (fun m hm s rest hrest => ?_) []
    rw [readInto, behindColon_colon, hms m hm rest hrest]
    rfl
  rw [readValue_openBrace, htakes.closing hl]
  rfl

/-- An object of simple values is read back with its members sorted. -/
theorem readValue_object {l : Layout} (hl : l.Blank) {ms : List (String × Value)}
    (hms : ∀ m ∈ ms, m.2.Simple) (depth : Nat) :
    readValue (depth + 1) (Byte.openBrace :: (l.members ms ++ rest)) =
      .ok (.object (ofMembers ms), rest) :=
  readValue_members hl fun m hm _ hrest =>
    readValue_write (hms m hm) depth hl.beforeValue hrest

/-! ### One member a line -/

/-- The blanks of a settings file: a line for each member. -/
def Layout.pretty : Layout := ⟨[0x0A, 0x20, 0x20], [0x20], [0x0A]⟩

theorem Layout.pretty_blank : Layout.pretty.Blank := ⟨by decide, by decide, by decide⟩

/-- A line without the newline before it. -/
def prettyLine (m : String × Value) : List Char :=
  [' ', ' '] ++ writeText m.1 ++ [':', ' '] ++ m.2.write

theorem pretty_member (m : String × Value) :
    Layout.pretty.member m = 0x0A :: encode (prettyLine m) := by
  have hblanks : encode [' ', ' '] = [0x20, 0x20] := by decide
  have hcolon : encode [':', ' '] = [Byte.colon, 0x20] := by decide
  simp only [prettyLine, encode_append, hblanks, hcolon, List.append_assoc]
  rfl

theorem encode_lines (m : String × Value) (ms : List (String × Value)) :
    encode (List.intercalate [',', '\n'] ((m :: ms).map prettyLine) ++ ['\n', '\x7d']) =
      encode (prettyLine m) ++ Layout.pretty.others ms := by
  induction ms generalizing m with
  | nil =>
    rw [encode_append]
    have hend : encode ['\n', '\x7d'] = Layout.pretty.others [] := by decide
    rw [List.map_singleton, List.intercalate_singleton, hend]
  | cons x ms ih =>
    have hcomma : encode [',', '\n'] = [Byte.comma, 0x0A] := by decide
    have hlines : List.intercalate [',', '\n'] ((m :: x :: ms).map prettyLine) =
        prettyLine m ++ ([',', '\n'] ++
          List.intercalate [',', '\n'] ((x :: ms).map prettyLine)) := by
      rw [List.map_cons, List.map_cons, List.intercalate_cons_cons, List.append_assoc]
    rw [hlines, List.append_assoc, List.append_assoc, encode_append, encode_append, ih, hcomma]
    simp [Layout.others, pretty_member]

theorem encode_prettyMembers (m : String × Value) (ms : List (String × Value)) :
    encode (prettyMembers (m :: ms)).toList =
      Byte.openBrace :: Layout.pretty.members (m :: ms) := by
  have hopen : encode ['\x7b', '\n'] = [Byte.openBrace, 0x0A] := by decide
  have htext : (prettyMembers (m :: ms)).toList = ['\x7b', '\n'] ++
      (List.intercalate [',', '\n'] ((m :: ms).map prettyLine) ++ ['\n', '\x7d']) := by
    rw [prettyMembers, String.toList_ofList, List.append_assoc]
    rfl
  rw [htext, encode_append, encode_lines, hopen, Layout.members, pretty_member]
  rfl

/-- What is written a member a line, is read back with its members sorted. -/
theorem readWhole_prettyMembers {m : String × Value} {ms : List (String × Value)}
    (hms : ∀ x ∈ m :: ms, x.2.Simple) (depth : Nat) :
    readWhole (readValue (depth + 1)) (encode (prettyMembers (m :: ms)).toList) =
      .ok (.object (ofMembers (m :: ms))) := by
  have hread : readValue (depth + 1) (Byte.openBrace :: (Layout.pretty.members (m :: ms) ++ [])) =
      .ok (.object (ofMembers (m :: ms)), []) := readValue_object Layout.pretty_blank hms depth
  rw [List.append_nil] at hread
  rw [encode_prettyMembers, readWhole, hread]
  rfl

/-! ### Looking up -/

theorem find?_insertMember {α : Type} (name : String) (v : α) (ms : List (String × α))
    (n : String) : (insertMember name v ms).find? (·.1 = n) =
      if name = n then some (name, v) else ms.find? (·.1 = n) := by
  induction ms with
  | nil =>
    by_cases hn : name = n
    · simp [insertMember, hn]
    · simp [insertMember, hn]
  | cons m ms ih =>
    obtain ⟨k, w⟩ := m
    rw [insertMember]
    by_cases hlt : name < k
    · rw [if_pos hlt]
      by_cases hn : name = n
      · simp [hn]
      · simp [hn]
    rw [if_neg hlt]
    by_cases hk : name = k
    · subst hk
      rw [if_pos rfl]
      by_cases hn : name = n
      · simp [hn]
      · simp [hn]
    · rw [if_neg hk]
      by_cases hkn : k = n
      · have hn : name ≠ n := fun hn => hk (hn.trans hkn.symm)
        simp [hkn, hn]
      · rw [List.find?_cons_of_neg (by simpa using hkn), ih,
          List.find?_cons_of_neg (by simpa using hkn)]

/-- Of the members of a name the last one is found. -/
theorem find?_ofMembers {α : Type} (ms : List (String × α)) (n : String) :
    (ofMembers ms).find? (·.1 = n) = ms.reverse.find? (·.1 = n) := by
  have hfold : ∀ (ms acc : List (String × α)),
      (ms.foldl (fun acc m => insertMember m.1 m.2 acc) acc).find? (·.1 = n) =
        (ms.reverse ++ acc).find? (·.1 = n) := by
    intro ms
    induction ms with
    | nil => exact fun acc => rfl
    | cons m ms ih =>
      intro acc
      obtain ⟨k, v⟩ := m
      rw [List.foldl_cons, ih, List.reverse_cons, List.append_assoc, List.find?_append,
        List.find?_append, find?_insertMember]
      by_cases hk : k = n
      · simp [hk]
      · simp [hk]
  rw [ofMembers, hfold, List.append_nil]

/-- Where no name occurs twice it makes no difference from which end one looks. -/
theorem find?_reverse_of_nodup {α : Type} {ms : List (String × α)} (h : (ms.map (·.1)).Nodup)
    (name : String) : ms.reverse.find? (·.1 = name) = ms.find? (·.1 = name) := by
  induction ms with
  | nil => rfl
  | cons m ms ih =>
    obtain ⟨hm, hms⟩ := List.nodup_cons.mp h
    rw [List.reverse_cons, List.find?_append, ih hms]
    by_cases hname : m.1 = name
    · have hnone : ms.find? (·.1 = name) = none := by
        rw [List.find?_eq_none]
        intro x hx hxname
        have hx1 : x.1 = m.1 := (of_decide_eq_true hxname).trans hname.symm
        exact hm (List.mem_map.mpr ⟨x, hx, hx1⟩)
      rw [hnone, List.find?_cons_of_pos (by simpa using hname)]
      simp [hname]
    · rw [List.find?_cons_of_neg (by simpa using hname)]
      simp [hname]

/-! ### What is read fits -/

/-- What every member keeps, all of them keep. -/
theorem readMembers_induction {member : String → σ → Reader σ} {P : σ → Prop}
    (hmember : ∀ name s bs s' rest, P s → member name s bs = .ok (s', rest) → P s')
    {fuel : Nat} {first : Bool} {s s' : σ} {bs : List UInt8} (hs : P s)
    (h : readMembers member fuel first s bs = .ok (s', rest)) : P s' := by
  induction fuel generalizing first s bs with
  | zero => cases h
  | succ fuel ih =>
    unfold readMembers at h
    split at h
    · cases h
    · cases h
      exact hs
    · split at h
      · cases h
      · rename_i hread
        exact ih (hmember _ _ _ _ _ hs hread) h

/-- A whole number fits. -/
def Value.NumberFits (v : Value) : Prop := ∀ i, v = .number (.integer i) → (Number.integer i).Fits

theorem mem_insertMember {α : Type} {name : String} {v : α} {ms : List (String × α)}
    {m : String × α} (h : m ∈ insertMember name v ms) : m = (name, v) ∨ m ∈ ms := by
  induction ms with
  | nil => exact Or.inl (List.mem_singleton.mp h)
  | cons x ms ih =>
    obtain ⟨k, w⟩ := x
    rw [insertMember] at h
    split_ifs at h with hlt hk
    · exact (List.mem_cons.mp h)
    · rcases List.mem_cons.mp h with rfl | hmem
      · exact Or.inl rfl
      · exact Or.inr (List.mem_cons_of_mem _ hmem)
    · rcases List.mem_cons.mp h with rfl | hmem
      · exact Or.inr List.mem_cons_self
      · rcases ih hmem with heq | hmem
        · exact Or.inl heq
        · exact Or.inr (List.mem_cons_of_mem _ hmem)

theorem map_eq_ok {α β : Type} {x : Except Fault α} {f : α → β} {b : β}
    (h : x.map f = .ok b) : ∃ a, x = .ok a ∧ f a = b := by
  cases x with
  | error e => cases h
  | ok a => exact ⟨a, rfl, Except.ok.inj h⟩

/-- The ways in which a value can be read, as far as its parts go. -/
inductive ReadAs : Nat → Value → Prop
  | null {depth} : ReadAs depth .null
  | bool {depth b} : ReadAs depth (.bool b)
  | number {depth x bs rest} (h : readNumber bs = .ok (x, rest)) : ReadAs depth (.number x)
  | text {depth s} : ReadAs depth (.text s)
  | array {depth items fuel bs rest}
      (h : readItems (readValue depth) fuel true [] bs = .ok (items, rest)) :
      ReadAs (depth + 1) (.array items)
  | object {depth ms fuel bs rest}
      (h : readMembers (readInto depth) fuel true [] bs = .ok (ms, rest)) :
      ReadAs (depth + 1) (.object ms)

/-- A structure is closed where its content has left off. -/
theorem closing_eq_ok {α : Type} {close : List UInt8 → Option Fault × List UInt8}
    {content : Except Fault (α × List UInt8)} {a : α} : closing close content = .ok (a, rest) ↔
      ∃ more, content = .ok (a, more) ∧ close more = (none, rest) := by
  cases content with
  | error f => cases f <;> simp [closing]
  | ok r =>
    obtain ⟨b, more⟩ := r
    simp only [closing, Except.ok.injEq, Prod.mk.injEq]
    cases hclose : close more with
    | mk fault left =>
      cases fault with
      | none => simp [hclose]
      | some f => simp [hclose]

theorem readValue_readAs {depth : Nat} {bs : List UInt8} {v : Value}
    (h : readValue depth bs = .ok (v, rest)) : ReadAs depth v := by
  rw [readValue] at h
  split at h
  · cases h
  split_ifs at h with hn ht hf hnumber hquote hbracket hbrace
  · obtain ⟨r, -, hr⟩ := map_eq_ok h
    obtain ⟨rfl, -⟩ := Prod.mk.inj hr
    exact .null
  · obtain ⟨r, -, hr⟩ := map_eq_ok h
    obtain ⟨rfl, -⟩ := Prod.mk.inj hr
    exact .bool
  · obtain ⟨r, -, hr⟩ := map_eq_ok h
    obtain ⟨rfl, -⟩ := Prod.mk.inj hr
    exact .bool
  · obtain ⟨r, hread, hr⟩ := map_eq_ok h
    obtain ⟨rfl, -⟩ := Prod.mk.inj hr
    exact .number hread
  · obtain ⟨r, -, hr⟩ := map_eq_ok h
    obtain ⟨rfl, -⟩ := Prod.mk.inj hr
    exact .text
  · cases depth with
    | zero => cases h
    | succ depth =>
      obtain ⟨r, hclosing, hr⟩ := map_eq_ok h
      obtain ⟨rfl, -⟩ := Prod.mk.inj hr
      obtain ⟨rest', hread, -⟩ := closing_eq_ok.mp hclosing
      exact .array hread
  · cases depth with
    | zero => cases h
    | succ depth =>
      obtain ⟨r, hclosing, hr⟩ := map_eq_ok h
      obtain ⟨rfl, -⟩ := Prod.mk.inj hr
      obtain ⟨rest', hread, -⟩ := closing_eq_ok.mp hclosing
      exact .object hread
  · cases h

theorem ReadAs.numberFits {depth : Nat} {v : Value} (h : ReadAs depth v) : v.NumberFits := by
  intro i hv
  cases h with
  | number hread =>
    obtain rfl := Value.number.inj hv
    exact readNumber_fits hread
  | null => cases hv
  | bool => cases hv
  | text => cases hv
  | array => cases hv
  | object => cases hv

/-- The numbers among the members of an object that was read fit. -/
theorem ReadAs.membersFit {depth : Nat} {ms : List (String × Value)}
    (h : ReadAs depth (.object ms)) : ∀ m ∈ ms, m.2.NumberFits := by
  cases h with
  | object hread =>
    refine readMembers_induction (P := fun ms => ∀ m ∈ ms, m.2.NumberFits) ?_ (by simp) hread
    intro name s bs s' rest hs hmember m hm
    unfold readInto behindColon at hmember
    split at hmember
    · cases hmember
    · obtain ⟨r, hvalue, hr⟩ := map_eq_ok hmember
      obtain ⟨rfl, -⟩ := Prod.mk.inj hr
      rcases mem_insertMember hm with rfl | hold
      · exact (readValue_readAs hvalue).numberFits
      · exact hs m hold

theorem readWhole_eq_ok {α : Type} {read : Reader α} {bytes : List UInt8} {a : α}
    (h : readWhole read bytes = .ok a) : ∃ rest, read bytes = .ok (a, rest) := by
  unfold readWhole at h
  cases hread : read bytes with
  | error e =>
    rw [hread] at h
    cases h
  | ok r =>
    rw [hread] at h
    dsimp only at h
    split at h
    · cases h
      exact ⟨r.2, rfl⟩
    · cases h

end Dialogue.Json
