/-
Values of any depth survive being written.

A value that was read is proper: the members of each object in it are sorted, it is nested no
deeper than the reader allowed, and every whole number in it fits.  Of a proper value without
doubles, writing and reading give the value back.  Doubles are left out, because their text is
their shortest one, and to read it back is another matter.

A list is like an object without names: the reader of an item is left open, and if it reads
each item from what was written for it, the list is read.
-/
import Dialogue.Proofs.Json.Members
import Mathlib.Data.List.Induction
import Mathlib.Data.List.Nodup

namespace Dialogue.Json

open Text.Utf8

variable {α : Type} {rest : List UInt8} {depth : Nat}

/-! ### Sorted members -/

/-- Sorted by name, each name once. -/
def Sorted (ms : List (String × α)) : Prop := ms.Pairwise fun m n => m.1 < n.1

variable {ms : List (String × α)}

theorem Sorted.nodup (h : Sorted ms) : (ms.map (·.1)).Nodup := by
  refine List.pairwise_map.mpr (h.imp fun {m n} hlt heq => ?_)
  rw [heq] at hlt
  exact String.lt_irrefl n.1 hlt

theorem name_lt_of_not {name k : String} (hlt : ¬ name < k) (hne : name ≠ k) : k < name := by
  by_contra hnot
  exact hne (String.le_antisymm (String.not_lt.mp hnot) (String.not_lt.mp hlt))

theorem Sorted.insertMember (h : Sorted ms) (name : String) (v : α) :
    Sorted (insertMember name v ms) := by
  induction ms with
  | nil => exact List.pairwise_singleton _ _
  | cons m ms ih =>
    obtain ⟨k, w⟩ := m
    obtain ⟨hhead, htail⟩ := List.pairwise_cons.mp h
    rw [Json.insertMember]
    split_ifs with hlt heq
    · refine List.pairwise_cons.mpr ⟨fun m hm => ?_, h⟩
      rcases List.mem_cons.mp hm with rfl | hm
      · exact hlt
      · exact String.lt_trans hlt (hhead m hm)
    · subst heq
      exact List.pairwise_cons.mpr ⟨hhead, htail⟩
    · refine List.pairwise_cons.mpr ⟨fun m hm => ?_, ih htail⟩
      rcases mem_insertMember hm with rfl | hm
      · exact name_lt_of_not hlt heq
      · exact hhead m hm

theorem ofMembers_concat (ms : List (String × α)) (m : String × α) :
    ofMembers (ms ++ [m]) = insertMember m.1 m.2 (ofMembers ms) := by
  simp [ofMembers]

theorem sorted_ofMembers (ms : List (String × α)) : Sorted (ofMembers ms) := by
  induction ms using List.reverseRecOn with
  | nil => exact List.Pairwise.nil
  | append_singleton ms m ih =>
    rw [ofMembers_concat]
    exact ih.insertMember m.1 m.2

theorem insertMember_last {name : String} (h : ∀ m ∈ ms, m.1 < name) (v : α) :
    insertMember name v ms = ms ++ [(name, v)] := by
  induction ms with
  | nil => rfl
  | cons m ms ih =>
    have hlt : m.1 < name := h m (by simp)
    have hne : name ≠ m.1 := fun heq => String.lt_irrefl _ (heq ▸ hlt)
    rw [insertMember, if_neg (String.lt_asymm hlt), if_neg hne, ih fun x hx => h x (by simp [hx])]
    rfl

/-- Sorted members stay as they are. -/
theorem Sorted.ofMembers (h : Sorted ms) : ofMembers ms = ms := by
  induction ms using List.reverseRecOn with
  | nil => rfl
  | append_singleton ms m ih =>
    obtain ⟨hms, -, hlast⟩ := List.pairwise_append.mp h
    rw [ofMembers_concat, ih hms, insertMember_last fun x hx => hlast x hx m (by simp)]

/-- The value is the last one that stands with the name. -/
def LastOf (ms : List (String × α)) (name : String) (v : α) : Prop :=
  ∃ before after, ms = before ++ (name, v) :: after ∧ ∀ m ∈ after, m.1 ≠ name

theorem lastOf_iff_find? {name : String} {v : α} :
    LastOf ms name v ↔ ms.reverse.find? (·.1 = name) = some (name, v) := by
  rw [List.find?_eq_some_iff_append]
  constructor
  · rintro ⟨before, after, rfl, hafter⟩
    exact ⟨by simp, after.reverse, before.reverse, by simp,
      fun m hm => by simpa using hafter m (List.mem_reverse.mp hm)⟩
  · rintro ⟨-, after, before, hms, hafter⟩
    refine ⟨before.reverse, after.reverse, ?_, fun m hm => ?_⟩
    · rw [← List.reverse_reverse ms, hms]
      simp
    · simpa using hafter m (List.mem_reverse.mp hm)

theorem mem_iff_find? (h : (ms.map (·.1)).Nodup) {name : String} {v : α} :
    (name, v) ∈ ms ↔ ms.find? (·.1 = name) = some (name, v) := by
  refine ⟨fun hmem => ?_, List.mem_of_find?_eq_some⟩
  cases hfind : ms.find? (·.1 = name) with
  | none => exact absurd (List.find?_eq_none.mp hfind (name, v) hmem) (by simp)
  | some x =>
    have hname : x.1 = name := by simpa using List.find?_some hfind
    exact congrArg some
      (List.inj_on_of_nodup_map h (List.mem_of_find?_eq_some hfind) hmem hname)

/-- Members that are sorted in are the last ones of their names. -/
theorem mem_ofMembers {name : String} {v : α} : (name, v) ∈ ofMembers ms ↔ LastOf ms name v := by
  rw [mem_iff_find? (sorted_ofMembers ms).nodup, find?_ofMembers, lastOf_iff_find?]

theorem lastOf_filter {name k : String} {v : α} :
    LastOf (ms.filter (·.1 ≠ k)) name v ↔ name ≠ k ∧ LastOf ms name v := by
  rw [lastOf_iff_find?, lastOf_iff_find?, ← List.filter_reverse, List.find?_filter]
  by_cases hname : name = k
  · subst hname
    refine ⟨fun h => ?_, fun h => absurd rfl h.1⟩
    have hfound := List.find?_some h
    simp at hfound
  · have hsame : (fun m : String × α => decide (decide (m.1 ≠ k) = true ∧
        decide (m.1 = name) = true)) = fun m => decide (m.1 = name) := by
      funext m
      by_cases hm : m.1 = name
      · simp [hm, hname]
      · simp [hm]
    rw [hsame]
    exact ⟨fun h => ⟨hname, h⟩, fun h => h.2⟩

/-! ### Proper values -/

/-- Without doubles at any depth. -/
inductive Value.Whole : Value → Prop
  | null : Whole .null
  | bool (b : Bool) : Whole (.bool b)
  | number (i : Int) : Whole (.number (.integer i))
  | text (s : String) : Whole (.text s)
  | array {items : List Value} (h : ∀ v ∈ items, Whole v) : Whole (.array items)
  | object {members : List (String × Value)} (h : ∀ m ∈ members, Whole m.2) :
      Whole (.object members)

/-- A value without doubles that a reader may give to whom this much nesting is left. -/
inductive Value.Proper : Nat → Value → Prop
  | null {depth : Nat} : Proper depth .null
  | bool {depth : Nat} (b : Bool) : Proper depth (.bool b)
  | number {depth : Nat} {x : Number} (h : x.Fits) : Proper depth (.number x)
  | text {depth : Nat} (s : String) : Proper depth (.text s)
  | array {depth : Nat} {items : List Value} (h : ∀ v ∈ items, Proper depth v) :
      Proper (depth + 1) (.array items)
  | object {depth : Nat} {members : List (String × Value)} (hsorted : Sorted members)
      (h : ∀ m ∈ members, Proper depth m.2) : Proper (depth + 1) (.object members)

/-! ### Items and members without blanks -/

/-- Items behind others, and the closing bracket. -/
def otherItems : List Value → List UInt8
  | [] => [Byte.closeBracket]
  | v :: vs => Byte.comma :: (encode v.write ++ otherItems vs)

theorem encode_writeItems (v : Value) (vs : List Value) :
    encode (writeItems (v :: vs)) = encode v.write ++ otherItems vs := by
  induction vs generalizing v with
  | nil =>
    rw [writeItems, encode_append]
    rfl
  | cons w vs ih =>
    rw [writeItems, encode_append, encode_cons, ih]
    · rfl
    · simp

/-- No blanks at all. -/
def Layout.compact : Layout := ⟨[], [], []⟩

theorem Layout.compact_blank : Layout.compact.Blank := ⟨by simp [compact, Json.Blank],
  by simp [compact, Json.Blank], by simp [compact, Json.Blank]⟩

theorem encode_colon_write (m : String × Value) (cs : List Char) :
    encode (writeText m.1 ++ ':' :: m.2.write ++ cs) = Layout.compact.member m ++ encode cs := by
  rw [List.append_assoc, encode_append, List.cons_append, encode_cons, encode_append,
    Layout.member]
  simp only [Layout.compact, List.nil_append, List.append_assoc, List.cons_append]
  rfl

theorem encode_writeMembers (ms : List (String × Value)) :
    encode (writeMembers ms) = Layout.compact.members ms := by
  cases ms with
  | nil => rfl
  | cons m ms =>
    induction ms generalizing m with
    | nil =>
      rw [writeMembers, encode_colon_write]
      rfl
    | cons n ms ih =>
      rw [writeMembers, encode_colon_write, encode_cons, ih n]
      · rfl
      · simp

theorem encode_object (ms : List (String × Value)) :
    encode (Value.object ms).write = Byte.openBrace :: Layout.compact.members ms := by
  rw [Value.write, encode_cons, encode_writeMembers]
  rfl

theorem encode_array (items : List Value) :
    encode (Value.array items).write = Byte.openBracket :: encode (writeItems items) := by
  rw [Value.write, encode_cons]
  rfl

/-! ### Lists -/

/-- The bytes start an item: they do not look like a blank or the end of the list. -/
def StartsItem (bs : List UInt8) : Prop :=
  ∃ b more, bs = b :: more ∧ isJsonBlank b = false ∧ b ≠ Byte.closeBracket

theorem StartsItem.append {bs : List UInt8} (h : StartsItem bs) (rest : List UInt8) :
    StartsItem (bs ++ rest) := by
  obtain ⟨b, more, rfl, hb⟩ := h
  exact ⟨b, more ++ rest, rfl, hb⟩

theorem startsItem_object (ms : List (String × Value)) :
    StartsItem (encode (Value.object ms).write) :=
  ⟨_, _, encode_object ms, by decide, by decide⟩

theorem nextItem_first {bs : List UInt8} (h : StartsItem bs) :
    nextItem true bs = .ok (true, bs) := by
  obtain ⟨b, more, rfl, hblank, hclose⟩ := h
  simp [nextItem, skipBlanks_cons hblank, hclose]

theorem nextItem_comma {bs : List UInt8} (h : StartsItem bs) :
    nextItem false (Byte.comma :: bs) = .ok (true, bs) := by
  obtain ⟨b, more, rfl, hblank, hclose⟩ := h
  have hcomma : skipBlanks (Byte.comma :: b :: more) = _ := skipBlanks_cons (by decide)
  have hbracket : Byte.comma ≠ Byte.closeBracket := by decide
  simp [nextItem, hcomma, skipBlanks_cons hblank, hclose, hbracket]

theorem skipBlanks_closeBracket (rest : List UInt8) :
    skipBlanks (Byte.closeBracket :: rest) = Byte.closeBracket :: rest :=
  skipBlanks_cons (by decide)

/-- The reader reads the item from what is written for it. -/
structure ReadsItem (item : Reader α) (value : α → Value) (a : α) : Prop where
  starts : StartsItem (encode (value a).write)
  reads : ∀ rest, EndsNumber rest → item (encode (value a).write ++ rest) = .ok (a, rest)

section Lists

variable {item : Reader α} {value : α → Value} {as : List α}

theorem endsNumber_otherItems (vs : List Value) : EndsNumber (otherItems vs ++ rest) := by
  cases vs with
  | nil => exact endsNumber_cons.mpr (by decide)
  | cons v vs => exact endsNumber_cons.mpr (by decide)

theorem length_lt_otherItems (vs : List Value) : vs.length < (otherItems vs).length := by
  induction vs with
  | nil => exact Nat.one_pos
  | cons v vs ih =>
    simp only [otherItems, List.length_cons, List.length_append]
    omega

theorem readItems_close (fuel : Nat) (first : Bool) (acc : List α) :
    readItems item (fuel + 1) first acc (Byte.closeBracket :: rest) =
      .ok (acc.reverse, Byte.closeBracket :: rest) := by
  simp [readItems, nextItem, skipBlanks_closeBracket]

theorem readItems_others (h : ∀ a ∈ as, ReadsItem item value a) {fuel : Nat}
    (hfuel : as.length < fuel) (acc : List α) :
    readItems item fuel false acc (otherItems (as.map value) ++ rest) =
      .ok (acc.reverse ++ as, Byte.closeBracket :: rest) := by
  induction as generalizing fuel acc with
  | nil =>
    obtain ⟨fuel, rfl⟩ := Nat.exists_eq_succ_of_ne_zero (Nat.ne_of_gt hfuel)
    rw [List.append_nil]
    exact readItems_close fuel false acc
  | cons a as ih =>
    obtain ⟨fuel, rfl⟩ := Nat.exists_eq_succ_of_ne_zero (Nat.ne_of_gt (Nat.zero_lt_of_lt hfuel))
    have ha := h a (by simp)
    have hbytes : otherItems ((a :: as).map value) ++ rest =
        Byte.comma :: (encode (value a).write ++ (otherItems (as.map value) ++ rest)) := by
      simp [otherItems]
    rw [hbytes, readItems, nextItem_comma (ha.starts.append _)]
    simp only
    rw [ha.reads _ (endsNumber_otherItems _)]
    simp only
    rw [ih (fun x hx => h x (by simp [hx])) (by simpa using hfuel)]
    simp

theorem readItems_written (h : ∀ a ∈ as, ReadsItem item value a) {fuel : Nat}
    (hfuel : as.length < fuel) :
    readItems item fuel true [] (encode (writeItems (as.map value)) ++ rest) =
      .ok (as, Byte.closeBracket :: rest) := by
  obtain ⟨fuel, rfl⟩ := Nat.exists_eq_succ_of_ne_zero (Nat.ne_of_gt (Nat.zero_lt_of_lt hfuel))
  cases as with
  | nil => exact readItems_close fuel true []
  | cons a as =>
    have ha := h a (by simp)
    rw [List.map_cons, encode_writeItems, List.append_assoc, readItems,
      nextItem_first (ha.starts.append _)]
    simp only
    rw [ha.reads _ (endsNumber_otherItems _)]
    simp only
    rw [readItems_others (fun x hx => h x (by simp [hx])) (by simpa using hfuel)]
    rfl

/-- A list is read from what is written for its items. -/
theorem readListBody_written (h : ∀ a ∈ as, ReadsItem item value a) :
    readListBody item (encode (writeItems (as.map value)) ++ rest) = .ok (as, rest) := by
  have hfuel : as.length < (encode (writeItems (as.map value)) ++ rest).length + 1 := by
    cases as with
    | nil => exact Nat.succ_pos _
    | cons a as =>
      have hlt := length_lt_otherItems (as.map value)
      simp only [List.map_cons, encode_writeItems, List.length_append, List.length_cons,
        List.length_map] at hlt ⊢
      omega
  have hclose : closeList (Byte.closeBracket :: rest) = (none, rest) := by
    simp [closeList, skipBlanks_closeBracket]
  rw [readListBody, readItems_written h hfuel]
  simp only [closing, hclose]

theorem readList_written {item : Nat → Reader α} (h : ∀ a ∈ as, ReadsItem (item depth) value a) :
    readList item (depth + 1) (encode (Value.array (as.map value)).write ++ rest) =
      .ok (as, rest) := by
  have hopen : ∀ bs, skipBlanks (Byte.openBracket :: bs) = Byte.openBracket :: bs := fun bs =>
    skipBlanks_cons (by decide)
  rw [encode_array, List.cons_append, readList, atValue, hopen]
  exact readListBody_written h

end Lists

/-! ### Any value -/

theorem readValue_openBracket (depth : Nat) (bs : List UInt8) :
    readValue (depth + 1) (Byte.openBracket :: bs) =
      (readListBody (readValue depth) bs).map fun r => (.array r.1, r.2) := by
  have hopen : skipBlanks (Byte.openBracket :: bs) = _ :=
    skipBlanks_cons (by decide)
  have hmarks : Byte.openBracket ≠ Byte.lowerN ∧ Byte.openBracket ≠ Byte.lowerT ∧
      Byte.openBracket ≠ Byte.lowerF ∧ startsNumber Byte.openBracket = false ∧
      Byte.openBracket ≠ Byte.quote := by decide
  obtain ⟨hn, ht, hf, hnumber, hquote⟩ := hmarks
  rw [readValue, hopen]
  simp only [hn, ht, hf, hnumber, hquote, if_false, if_true]
  rfl

theorem readValue_bool (depth : Nat) (b : Bool) (rest : List UInt8) :
    readValue depth (encode (Value.bool b).write ++ rest) = .ok (.bool b, rest) := by
  cases b with
  | false =>
    have hword : encode ['f', 'a', 'l', 's', 'e'] = Byte.lowerF :: afterF := by decide
    have hbytes : encode (Value.bool false).write ++ rest = Byte.lowerF :: (afterF ++ rest) := by
      rw [Value.write, hword, List.cons_append]
    rw [hbytes, readValue, skipBlanks_cons (by decide)]
    rfl
  | true =>
    have hword : encode ['t', 'r', 'u', 'e'] = Byte.lowerT :: afterT := by decide
    have hbytes : encode (Value.bool true).write ++ rest = Byte.lowerT :: (afterT ++ rest) := by
      rw [Value.write, hword, List.cons_append]
    rw [hbytes, readValue, skipBlanks_cons (by decide)]
    rfl

namespace Value.Proper

variable {v : Value}

theorem startsItem (h : v.Proper depth) : StartsItem (encode v.write) := by
  cases h with
  | null => exact ⟨_, _, rfl, by decide, by decide⟩
  | bool b => cases b <;> exact ⟨_, _, rfl, by decide, by decide⟩
  | number hfits =>
    obtain ⟨b, bs, hbytes, hstarts⟩ := encode_write_cons hfits
    refine ⟨b, bs, hbytes, not_blank_of_startsNumber hstarts, ?_⟩
    rintro rfl
    exact absurd hstarts (by decide)
  | text s =>
    obtain ⟨body, hbytes, -⟩ := readTextBody_writeText s []
    exact ⟨_, body, hbytes, by decide, by decide⟩
  | array => exact ⟨_, _, encode_array _, by decide, by decide⟩
  | object => exact startsItem_object _

/-- A proper value is read back. -/
theorem readValue (h : v.Proper depth) (hrest : EndsNumber rest) :
    readValue depth (encode v.write ++ rest) = .ok (v, rest) := by
  have hnone : Blank [] := by simp [Blank]
  -- Each part is followed by a comma or a bracket, so the induction is over all that may follow.
  induction h generalizing rest with
  | null => exact readValue_write .null _ hnone hrest
  | bool b => exact readValue_bool _ b rest
  | number hfits => exact readValue_write (.number hfits) _ hnone hrest
  | text s => exact readValue_write (.text s) _ hnone hrest
  | @array depth items hitems ih =>
    have hread : ∀ v ∈ items, ReadsItem (Json.readValue depth) id v := fun v hv =>
      ⟨(hitems v hv).startsItem, fun rest => ih v hv⟩
    have hbody : readListBody (Json.readValue depth) (encode (writeItems (items.map id)) ++ rest) =
        .ok (items, rest) := readListBody_written hread
    rw [List.map_id] at hbody
    rw [encode_array, List.cons_append, readValue_openBracket, hbody]
    rfl
  | @object depth members hsorted _ ih =>
    have hread : Json.readValue (depth + 1)
        (Byte.openBrace :: (Layout.compact.members members ++ rest)) =
          .ok (.object (ofMembers members), rest) :=
      readValue_members Layout.compact_blank fun m hm rest => ih m hm
    rw [encode_object, List.cons_append, hread, hsorted.ofMembers]

end Value.Proper

/-! ### Written records -/

theorem readText_write (s : String) (rest : List UInt8) :
    readText (encode (Value.text s).write ++ rest) = .ok (s, rest) := by
  obtain ⟨body, hbytes, hread⟩ := readTextBody_writeText s rest
  have hquote : skipBlanks (Byte.quote :: (body ++ rest)) = _ := skipBlanks_cons (by decide)
  rw [Value.write, hbytes, List.cons_append, readText, atValue, hquote]
  simp [hread]

theorem readOptional_null (read : Reader α) (rest : List UInt8) :
    readOptional read (encode Value.null.write ++ rest) = .ok (none, rest) := by
  have hword : encode ['n', 'u', 'l', 'l'] = Byte.lowerN :: afterN := by decide
  have hnull : skipBlanks (Byte.lowerN :: (afterN ++ rest)) = _ := skipBlanks_cons (by decide)
  rw [Value.write, hword, List.cons_append, readOptional, hnull]
  rfl

/-- What does not start like `null` is read. -/
theorem readOptional_some {read : Reader α} {b : UInt8} {bs : List UInt8} {a : α}
    (hblank : isJsonBlank b = false) (hn : b ≠ Byte.lowerN)
    (h : read (b :: bs) = .ok (a, rest)) :
    readOptional read (b :: bs) = .ok (some a, rest) := by
  rw [readOptional, skipBlanks_cons hblank]
  simp only [hn, if_false, h]
  rfl

theorem readOptional_text {read : Reader α} {a : α} (s : String)
    (h : read (encode (Value.text s).write ++ rest) = .ok (a, rest)) :
    readOptional read (encode (Value.text s).write ++ rest) = .ok (some a, rest) := by
  obtain ⟨body, hbytes, -⟩ := readTextBody_writeText s rest
  rw [Value.write, hbytes, List.cons_append] at h ⊢
  exact readOptional_some (by decide) (by decide) h

namespace Record

variable {σ β : Type} {r : Record σ β} {name : String} {v : Value} {s t : σ}

/-- A member that is a field is taken if the field was not read before. -/
theorem takes_field {get : σ → Option α} {put : α → σ → σ} {read : Nat → Reader α}
    {required : Bool} (a : α)
    (hf : r.fields.find? (·.name = name) = some (Field.of name get put read required))
    (hfree : (get s).isSome = false)
    (hread : ∀ rest, EndsNumber rest → read depth (encode v.write ++ rest) = .ok (a, rest))
    {ms : List (String × Value)}
    (hms : Takes Layout.compact (r.readMember depth) (put a s) ms t) :
    Takes Layout.compact (r.readMember depth) s ((name, v) :: ms) t := by
  refine .cons (fun rest hrest => ?_) hms
  have hvalue : read depth (Layout.compact.beforeValue ++ (encode v.write ++ rest)) =
      .ok (a, rest) := hread rest hrest
  rw [readMember, hf]
  simp only [Field.of, hfree, Bool.false_eq_true, if_false, behindColon_colon, hvalue]
  rfl

/-- Another member is collected. -/
theorem takes_other (hf : r.fields.find? (·.name = name) = none)
    {keep : String → Value → σ → σ} (hkeep : r.collect = some keep) (hv : v.Proper depth)
    {ms : List (String × Value)}
    (hms : Takes Layout.compact (r.readMember depth) (keep name v s) ms t) :
    Takes Layout.compact (r.readMember depth) s ((name, v) :: ms) t := by
  refine .cons (fun rest hrest => ?_) hms
  have hread : readValue depth (Layout.compact.beforeValue ++ (encode v.write ++ rest)) =
      .ok (v, rest) := hv.readValue hrest
  rw [readMember, hf, hkeep]
  simp only [behindColon_colon, hread]
  rfl

/-- A record is read from what is written for its members. -/
theorem read_written {ms : List (String × Value)} {b : β}
    (htakes : Takes Layout.compact (r.readMember depth) r.start ms s)
    (hmissing : r.missing? s = none) (hfinish : r.finish s = .ok b) (rest : List UInt8) :
    r.read (depth + 1) (encode (Value.object ms).write ++ rest) = .ok (b, rest) := by
  have hopen : ∀ bs, skipBlanks (Byte.openBrace :: bs) = Byte.openBrace :: bs := fun bs =>
    skipBlanks_cons (by decide)
  have hfuel := length_lt_members Layout.compact ms rest
  rw [encode_object, List.cons_append, read, atValue, hopen]
  simp only [if_true, deeper, readObjectBody, htakes.readMembers Layout.compact_blank hfuel,
    hmissing, hfinish, closing, closeObject_closeBrace]

end Record

/-- What is read of a written value wherever it may stand, is read of the text of the value. -/
theorem readString_compact {read : Reader α} {v : Value} {a : α}
    (h : ∀ rest, EndsNumber rest → read (encode v.write ++ rest) = .ok (a, rest)) :
    readString read v.compact = .ok a := by
  have hread := h [] endsNumber_nil
  rw [List.append_nil] at hread
  rw [readString, Value.compact, String.toList_ofList, readWhole, hread]
  rfl

/-! ### What is read is proper -/

/-- What holds of every item that can be read, holds of all those that are. -/
theorem readItems_forall {item : Reader α} {P : α → Prop}
    (hitem : ∀ bs a rest, item bs = .ok (a, rest) → P a) {fuel : Nat} {first : Bool}
    {acc as : List α} {bs : List UInt8} (hacc : ∀ a ∈ acc, P a)
    (h : readItems item fuel first acc bs = .ok (as, rest)) : ∀ a ∈ as, P a := by
  induction fuel generalizing first acc bs with
  | zero => cases h
  | succ fuel ih =>
    unfold readItems at h
    split at h
    · cases h
    · cases h
      exact fun a ha => hacc a (List.mem_reverse.mp ha)
    · split at h
      · cases h
      · rename_i a more hread
        refine ih (fun x hx => ?_) h
        rcases List.mem_cons.mp hx with rfl | hx
        · exact hitem _ _ _ hread
        · exact hacc x hx

/-- A value that was read is proper if it is without doubles. -/
theorem proper_of_readValue {bs : List UInt8} {v : Value}
    (h : readValue depth bs = .ok (v, rest)) (hwhole : v.Whole) : v.Proper depth := by
  -- What stands in a value is read with less nesting left, and so the induction is on that.
  induction depth using Nat.strongRecOn generalizing v bs rest with
  | ind depth ih =>
    cases readValue_readAs h with
    | null => exact .null
    | bool => exact .bool _
    | text => exact .text _
    | number hread =>
      cases hwhole
      exact .number (readNumber_fits hread)
    | @array depth items fuel bs rest hread =>
      cases hwhole with
      | array hitems =>
        have hproper : ∀ v ∈ items, v.Whole → v.Proper depth :=
          readItems_forall (fun bs v rest hv => ih depth (Nat.lt_succ_self depth) hv) (by simp) hread
        exact .array fun v hv => hproper v hv (hitems v hv)
    | @object depth members fuel bs rest hread =>
      cases hwhole with
      | object hmembers =>
        have hproper : Sorted members ∧ ∀ m ∈ members, m.2.Whole → m.2.Proper depth := by
          refine readMembers_induction
            (P := fun ms => Sorted ms ∧ ∀ m ∈ ms, m.2.Whole → m.2.Proper depth)
            ?_ ⟨List.Pairwise.nil, by simp⟩ hread
          intro name ms bs ms' rest hms hmember
          unfold readInto behindColon at hmember
          split at hmember
          · cases hmember
          · obtain ⟨r, hvalue, hr⟩ := map_eq_ok hmember
            obtain ⟨rfl, -⟩ := Prod.mk.inj hr
            refine ⟨hms.1.insertMember _ _, fun m hm => ?_⟩
            rcases mem_insertMember hm with rfl | hold
            · exact ih depth (Nat.lt_succ_self depth) hvalue
            · exact hms.2 m hold
        exact .object hproper.1 fun m hm => hproper.2 m hm (hmembers m hm)

end Dialogue.Json
