/-
What is read of a document.

A document is read from the members of an object, and these are known from a reader that lists
them as the text has them.  Two things about a document hang on them: its citation id, which is
made of the value of one member, and its location, which is found among the members that are no
fields.  As long as no name occurs twice, there is one member to ask for each name.

The id is made of any value.  What is empty in its kind gives none, and nothing gives an empty
id; so every id that was read is a key.
-/
import Mathlib.Data.List.Forall2
import Dialogue.Proofs.Json.Follows
import Dialogue.Proofs.Source
import Dialogue.Source.Json

namespace Dialogue

open Json

variable {depth : Nat}

/-! ### Numbers are written -/

namespace Decimal

theorem Layout.plain_ne_nil (ds : List Char) (lead : Int) : Layout.plain ds lead ≠ [] := by
  unfold Layout.plain
  split
  · simp
  · simp

theorem Layout.write_ne_empty (l : Layout) (b : Binary64) : (l.write b).toList ≠ [] := by
  unfold Layout.write
  dsimp only
  split
  · simp
  · rw [String.toList_ofList]
    refine List.append_ne_nil_of_right_ne_nil _ ?_
    unfold digits
    split
    · exact plain_ne_nil _ _
    · simp [power]

end Decimal

namespace Json

theorem Number.write_ne_nil (x : Number) : x.write ≠ [] := by
  match x with
  | .integer (.ofNat n) => exact Nat.toDigits_ne_nil
  | .integer (.negSucc n) => exact List.cons_ne_nil _ _
  | .real b => exact Decimal.jsonLayout.write_ne_empty b

end Json

namespace Source

/-! ### Citation ids -/

/-- No value, or one that is empty in its kind. -/
def Falsy : Option Value → Prop
  | none => True
  | some .null => True
  | some (.bool b) => b = false
  | some (.text s) => s = ""
  | some (.number n) => n.isZero = true
  | some (.array _) => False
  | some (.object _) => False

/-- No value gives an empty id. -/
theorem citationIdOfValue_ne_empty (v : Value) : citationIdOfValue v ≠ some "" := by
  have hsome : ∀ {cs : List Char}, cs ≠ [] → some (String.ofList cs) ≠ some "" :=
    fun hcs heq => hcs (String.ofList_eq_empty_iff.mp (Option.some.inj heq))
  cases v with
  | null => simp [citationIdOfValue]
  | bool b => cases b <;> simp [citationIdOfValue]
  | number n =>
    rw [citationIdOfValue]
    split
    · simp
    · exact hsome n.write_ne_nil
  | text s =>
    rw [citationIdOfValue]
    split
    · simp
    · rename_i hne
      exact fun heq => hne (Option.some.inj heq)
  | array items => exact hsome (by simp [Value.write])
  | object members => exact hsome (by simp [Value.write])

theorem citationIdOfValue_eq_none_iff (v : Value) :
    citationIdOfValue v = none ↔ Falsy (some v) := by
  cases v with
  | null => simp [citationIdOfValue, Falsy]
  | bool b => cases b <;> simp [citationIdOfValue, Falsy]
  | number n => simp [citationIdOfValue, Falsy]
  | text s => simp [citationIdOfValue, Falsy]
  | array items => simp [citationIdOfValue, Falsy]
  | object members => simp [citationIdOfValue, Falsy]

theorem bind_citationIdOfValue_ne_empty (o : Option Value) :
    o.bind citationIdOfValue ≠ some "" := by
  cases o with
  | none => simp
  | some v => exact citationIdOfValue_ne_empty v

theorem bind_citationIdOfValue_eq_none_iff (o : Option Value) :
    o.bind citationIdOfValue = none ↔ Falsy o := by
  cases o with
  | none => simp [Falsy]
  | some v => exact citationIdOfValue_eq_none_iff v

/-- An id that is not empty is a key. -/
theorem citationKey_eq_citationId {d : Source} (h : d.citationId ≠ some "") :
    d.citationKey = d.citationId := by
  unfold citationKey
  cases hid : d.citationId with
  | none => rfl
  | some id =>
    have hne : id ≠ "" := fun heq => h (by rw [hid, heq])
    simp [hne]

/-! ### The members of a document -/

/-- The members that are no fields, as they are collected. -/
def otherMembers (ms : List (String × Value)) : List (String × Value) :=
  (ms.filter fun m => m.1 ∉ record.fields.map (·.name)).reverse

/-- What the last member for the id gives. -/
def idOfMembers (ms : List (String × Value)) : Option String :=
  ((ms.reverse.find? (·.1 = "citationId")).map (·.2)).bind citationIdOfValue

/-- What was read of a document, against the list of the members. -/
structure Draft.OfListed (d : Draft) (ms : List (String × Value)) : Prop where
  citationId : d.citationId.join.bind citationIdOfValue = idOfMembers ms
  others : d.others = otherMembers ms

/-- A document, against the list of the members of its object. -/
structure OfListed (s : Source) (ms : List (String × Value)) : Prop where
  citationId : s.citationId = idOfMembers ms
  location : locationOf? (otherMembers ms) = some s.location

theorem otherMembers_field {name : String} (h : name ∈ record.fields.map (·.name))
    (ms : List (String × Value)) (v : Value) :
    otherMembers (ms ++ [(name, v)]) = otherMembers ms := by
  rw [otherMembers, List.filter_append, List.filter_cons_of_neg (by simpa using h)]
  simp [otherMembers]

theorem idOfMembers_other {name : String} (h : name ≠ "citationId")
    (ms : List (String × Value)) (v : Value) : idOfMembers (ms ++ [(name, v)]) = idOfMembers ms := by
  rw [idOfMembers, List.reverse_concat, List.find?_cons_of_neg (by simpa using h)]
  rfl

theorem idOfMembers_citationId (ms : List (String × Value)) (v : Value) :
    idOfMembers (ms ++ [("citationId", v)]) = citationIdOfValue v := by
  simp [idOfMembers]

theorem ofListed_of_finish {d : Draft} {ms : List (String × Value)} {s : Source}
    (h : d.OfListed ms) (hs : d.finish = .ok s) : s.OfListed ms := by
  unfold Draft.finish at hs
  split at hs
  · cases hs
  · rename_i location hlocation
    cases hs
    exact ⟨h.citationId, by rw [← h.others, hlocation]⟩

theorem like_listed (depth : Nat) :
    Record.Like Draft.OfListed OfListed depth record listed := by
  refine .ofListed rfl rfl ⟨rfl, rfl⟩ ?_ ?_ fun _ _ _ => ofListed_of_finish
  · have hreal := (follows_readReal depth).orNull
    have hvalue := (Follows.same (readValue depth)).orNull
    simp only [record, List.forall_mem_cons, List.not_mem_nil, false_implies, implies_true,
      and_true]
    refine ⟨fun d ms h => hreal.field fun _ v _ => ?_, fun d ms h => hreal.field fun _ v _ => ?_,
      fun d ms h => hvalue.field fun o v hov => ?_⟩
    · refine ⟨h.citationId.trans (idOfMembers_other (by decide) ms v).symm, ?_⟩
      exact h.others.trans (otherMembers_field (by decide) ms v).symm
    · refine ⟨h.citationId.trans (idOfMembers_other (by decide) ms v).symm, ?_⟩
      exact h.others.trans (otherMembers_field (by decide) ms v).symm
    · refine ⟨?_, h.others.trans (otherMembers_field (by decide) ms v).symm⟩
      rw [idOfMembers_citationId]
      cases hov with
      | null => rfl
      | value hsame => rw [← hsame]; rfl
  · intro name v d ms hother _ h
    have hname : name ∉ record.fields.map (·.name) := fun hmem => by
      obtain ⟨f, hf, hfname⟩ := List.mem_map.mp hmem
      exact hother f hf hfname
    refine ⟨h.citationId.trans (idOfMembers_other ?_ ms v).symm, ?_⟩
    · rintro rfl
      exact hname (by decide)
    · rw [otherMembers, List.filter_append, List.filter_cons_of_pos (by simpa using hname),
        List.filter_nil, List.reverse_concat]
      exact congrArg ((name, v) :: ·) h.others

/-- A document is read where any object would be, and of its members. -/
theorem follows_listed (depth : Nat) :
    Follows OfListed (readJson depth) (listed.read depth) :=
  Record.Like.read fun d _ => like_listed d

theorem OfListed.citationId_ne_empty {s : Source} {ms : List (String × Value)}
    (h : s.OfListed ms) : s.citationId ≠ some "" := by
  rw [h.citationId]
  exact bind_citationIdOfValue_ne_empty _

theorem filter_otherMembers {name : String} (h : name ∉ record.fields.map (·.name))
    (ms : List (String × Value)) :
    (otherMembers ms).filter (·.1 = name) = (ms.filter (·.1 = name)).reverse := by
  have hsame : (fun m : String × Value => decide (m.1 = name) &&
      decide (m.1 ∉ record.fields.map (·.name))) = fun m => decide (m.1 = name) := by
    funext m
    by_cases hm : m.1 = name
    · simp only [hm, h, not_false_eq_true, decide_true, Bool.and_self]
    · simp [hm]
  rw [otherMembers, List.filter_reverse, List.filter_filter, hsame]

/-! ### Where no name occurs twice -/

/-- The value of a member that occurs once. -/
def member (ms : List (String × Value)) (name : String) : Option Value :=
  (Value.object ms).member? name

section Nodup

variable {ms : List (String × Value)} {name : String}

theorem filter_name_of_nodup (h : (ms.map (·.1)).Nodup) (name : String) :
    ms.filter (·.1 = name) = (ms.find? (·.1 = name)).toList := by
  induction ms with
  | nil => rfl
  | cons m ms ih =>
    obtain ⟨hm, hms⟩ := List.nodup_cons.mp h
    by_cases hname : m.1 = name
    · have hnone : ms.filter (·.1 = name) = [] := by
        refine List.filter_eq_nil_iff.mpr fun x hx hxname => hm ?_
        exact List.mem_map.mpr ⟨x, hx, (of_decide_eq_true hxname).trans hname.symm⟩
      rw [List.filter_cons_of_pos (by simpa using hname), hnone,
        List.find?_cons_of_pos (by simpa using hname)]
      rfl
    · rw [List.filter_cons_of_neg (by simpa using hname), ih hms,
        List.find?_cons_of_neg (by simpa using hname)]

theorem soleText?_otherMembers (h : (ms.map (·.1)).Nodup)
    (hname : name ∉ record.fields.map (·.name)) :
    soleText? name (otherMembers ms) = (member ms name).bind Value.text? := by
  have hothers : (otherMembers ms).filter (·.1 = name) = (ms.find? (·.1 = name)).toList := by
    rw [filter_otherMembers hname, filter_name_of_nodup h]
    cases ms.find? (·.1 = name) <;> rfl
  rw [soleText?, hothers, member, Value.member?]
  cases ms.find? (·.1 = name) with
  | none => rfl
  | some m =>
    obtain ⟨n, v⟩ := m
    cases v <;> rfl

theorem idOfMembers_of_nodup (h : (ms.map (·.1)).Nodup) :
    idOfMembers ms = (member ms "citationId").bind citationIdOfValue := by
  rw [idOfMembers, find?_reverse_of_nodup h]
  rfl

end Nodup

/-- What the members of its object say of a document. -/
structure SaidBy (s : Source) (ms : List (String × Value)) : Prop where
  /-- It has no key just if the id is left out or empty in its kind. -/
  key_none_iff : s.citationKey = none ↔ Falsy (member ms "citationId")
  /-- A text is kept as it is. -/
  key_of_text : ∀ text, member ms "citationId" = some (.text text) → text ≠ "" →
    s.citationKey = some text
  /-- Whatever the value is, the key is not empty. -/
  key_ne_empty : s.citationKey ≠ some ""
  key_eq : s.citationKey = s.citationId
  /-- A file has two names, whatever else there is. -/
  file_iff : ∀ bucket object, s.location = .file bucket object ↔
    member ms "bucketName" = some (.text bucket) ∧ member ms "objectName" = some (.text object)
  /-- Without both names there is a link. -/
  link_iff : ∀ url, s.location = .link url ↔
    (¬ ∃ bucket object, member ms "bucketName" = some (.text bucket) ∧
      member ms "objectName" = some (.text object)) ∧ member ms "link" = some (.text url)

theorem text?_eq_some_iff {o : Option Value} {text : String} :
    o.bind Value.text? = some text ↔ o = some (.text text) := by
  cases o with
  | none => simp
  | some v => cases v <;> simp [Value.text?]

theorem OfListed.saidBy {s : Source} {ms : List (String × Value)} (h : s.OfListed ms)
    (hnodup : (ms.map (·.1)).Nodup) : s.SaidBy ms := by
  have hne := h.citationId_ne_empty
  have hkey := citationKey_eq_citationId hne
  have hid := h.citationId
  rw [idOfMembers_of_nodup hnodup] at hid
  have hlocation := h.location
  rw [locationOf?, soleText?_otherMembers hnodup (by decide),
    soleText?_otherMembers hnodup (by decide), soleText?_otherMembers hnodup (by decide)]
    at hlocation
  refine ⟨?_, fun text htext htextne => ?_, by rwa [hkey], hkey, ?_, ?_⟩
  · rw [hkey, hid]
    exact bind_citationIdOfValue_eq_none_iff _
  · rw [hkey, hid, htext]
    simp [citationIdOfValue, htextne]
  all_goals
    simp only [← text?_eq_some_iff]
    revert hlocation
    cases (member ms "bucketName").bind Value.text? with
    | none => cases (member ms "link").bind Value.text? <;> simp +contextual [eq_comm]
    | some b =>
      cases (member ms "objectName").bind Value.text? with
      | none => cases (member ms "link").bind Value.text? <;> simp +contextual [eq_comm]
      | some o => simp +contextual [eq_comm]

/-! ### Lists of documents -/

/-- The members of the objects of an array, as the text has them. -/
def memberLists (s : String) : Except Problem (List (List (String × Value))) :=
  readString (Json.readList (fun depth => listed.read depth) nestingLimit) s

/-- Wherever a list of documents is read, it is read from objects, and where none of them has a
name twice, each document is what its members say.  Of these documents those are kept whose id
is there, and which no document before them has. -/
theorem list_saidBy {s : String} {docs : List Source} (hread : parseList s = .ok docs) :
    ∃ mss, memberLists s = .ok mss ∧
      ((∀ ms ∈ mss, (ms.map (·.1)).Nodup) →
        List.Forall₂ SaidBy docs mss ∧ dedupe docs = firsts docs ∧
          ∀ i d ms, docs[i]? = some d → mss[i]? = some ms →
            (d.NewAfter (docs.take i) ↔ ¬ Falsy (member ms "citationId") ∧
              ∀ t ∈ docs.take i, t.citationId ≠ d.citationId)) := by
  obtain ⟨mss, hmss, hlisted⟩ :=
    (Follows.readList nestingLimit fun d _ => follows_listed d).readWhole hread
  refine ⟨mss, hmss, fun hnodup => ?_⟩
  have hsaid : List.Forall₂ SaidBy docs mss := by
    have hboth := (List.forall₂_and_left mss docs).mpr ⟨hnodup, hlisted.flip⟩
    exact (hboth.imp fun ms d h => OfListed.saidBy h.2 h.1).flip
  have hkeys : ∀ d ∈ docs, d.citationKey = d.citationId :=
    forall_of_forall₂ (fun d ms h => h.key_eq) hsaid
  refine ⟨hsaid, dedupe_eq_firsts docs, fun i d ms hd hms => ?_⟩
  obtain ⟨hi, rfl⟩ := List.getElem?_eq_some_iff.mp hd
  obtain ⟨hi', rfl⟩ := List.getElem?_eq_some_iff.mp hms
  have hthis : SaidBy docs[i] mss[i] := hsaid.get hi hi'
  rw [newAfter_iff, Ne, hthis.key_none_iff, hthis.key_eq]
  refine and_congr_right fun _ => forall₂_congr fun t ht => ?_
  rw [hkeys t (List.mem_of_mem_take ht)]

/-- Three documents: the first one has the members of both kinds of location, the second one has
the same id again, and the id of the last one is a zero with a sign. -/
def sampleText : String :=
  "[\x7b\"link\":\"a\",\"bucketName\":\"b\",\"objectName\":\"o\",\"citationId\":\"0\"\x7d," ++
  "\x7b\"citationId\":\"0\",\"bucketName\":[1],\"link\":\"c\"\x7d," ++
  "\x7b\"link\":\"d\",\"citationId\":-0\x7d]"

/-- The documents that are read of it. -/
def sampleDocs : List Source :=
  [{ location := .file "b" "o", citationId := some "0" },
    { location := .link "c", citationId := some "0" }, { location := .link "d" }]

/-- Their members, as the text lists them. -/
def sampleMembers : List (List (String × Value)) :=
  [[("link", .text "a"), ("bucketName", .text "b"), ("objectName", .text "o"),
      ("citationId", .text "0")],
    [("citationId", .text "0"), ("bucketName", .array [.number (.integer 1)]),
      ("link", .text "c")],
    [("link", .text "d"), ("citationId", .number (.real ⟨0x8000000000000000⟩))]]

set_option maxRecDepth 2000 in
theorem list_saidBy_sample :
    parseList sampleText = .ok sampleDocs ∧ memberLists sampleText = .ok sampleMembers ∧
      (∀ ms ∈ sampleMembers, (ms.map (·.1)).Nodup) ∧
      List.Forall₂ SaidBy sampleDocs sampleMembers ∧ dedupe sampleDocs = firsts sampleDocs := by
  have hread : parseList sampleText = .ok sampleDocs := by decide +kernel
  have hmembers : memberLists sampleText = .ok sampleMembers := by decide +kernel
  have hnodup : ∀ ms ∈ sampleMembers, (ms.map (·.1)).Nodup := by simp [sampleMembers]
  obtain ⟨mss, hmss, hsaid⟩ := list_saidBy hread
  obtain rfl : mss = sampleMembers := Except.ok.inj (hmss.symm.trans hmembers)
  obtain ⟨hall, hkept, -⟩ := hsaid hnodup
  exact ⟨hread, hmembers, hnodup, hall, hkept⟩

end Source

end Dialogue
