/-
Records are read by their grammar.

What a record is made of is a list of items, each of which has a name and is put into the state
of the record.  In an object the items stand with their names, in any order, and those that are
fields at most once; in a list they stand without names, in the order of the fields.  What the
fields are, and what is put where, is left open (`Record.Gathers`).
-/
import Dialogue.Proofs.Json.Grammar.Value

namespace Dialogue.Json

variable {α β ι σ : Type} {bs rest : List UInt8}

/-- The reader of members of one name reads their texts, and puts what it has read into the
state. -/
structure Puts (name : ι → String) (T : Texts ι) (put : σ → ι → σ) (n : String)
    (read : σ → Reader σ) : Prop where
  sound : ∀ {s s' bs rest}, read s bs = .ok (s', rest) →
    ∃ i, name i = n ∧ T i (skipBlanks bs) rest ∧ s' = put s i
  complete : ∀ {s i bs rest}, name i = n → T i (skipBlanks bs) rest → EndsNumber rest →
    read s bs = .ok (put s i, rest)

/-- A field puts what a reader reads. -/
theorem Puts.of {name : ι → String} {T : Texts ι} {put : σ → ι → σ} {n : String}
    {read : Reader α} {U : Texts α} (keep : α → σ → σ) (h : Reads read U)
    (sound : ∀ {a bs rest}, U a bs rest →
      ∃ i, name i = n ∧ T i bs rest ∧ ∀ s, put s i = keep a s)
    (complete : ∀ {i bs rest}, name i = n → T i bs rest →
      ∃ a, U a bs rest ∧ ∀ s, put s i = keep a s) :
    Puts name T put n fun s bs => (read bs).map fun r => (keep r.1 s, r.2) where
  sound hread := by
    obtain ⟨r, hr, heq⟩ := map_eq_ok hread
    obtain ⟨rfl, rfl⟩ := Prod.mk.inj heq
    obtain ⟨i, hi, hT, hput⟩ := sound (h.sound hr)
    exact ⟨i, hi, hT, (hput _).symm⟩
  complete hi hT hrest := by
    obtain ⟨a, ha, hput⟩ := complete hi hT
    rw [h.complete ha hrest, hput]
    rfl

/-- A field whose items are made by one constructor puts what it reads as such an item. -/
theorem Puts.of_mk {name : ι → String} {T : Texts ι} {put : σ → ι → σ} {n : String}
    {read : Reader α} {U : Texts α} (mk : α → ι) (h : Reads read U)
    (hname : ∀ {i}, name i = n ↔ ∃ a, i = mk a)
    (hT : ∀ {a bs rest}, T (mk a) bs rest ↔ U a bs rest) :
    Puts name T put n fun s bs => (read bs).map fun r => (put s (mk r.1), r.2) := by
  refine .of (fun a s => put s (mk a)) h (fun {a _ _} ha => ?_) fun {i _ _} hi hT' => ?_
  · exact ⟨mk a, hname.mpr ⟨a, rfl⟩, hT.mpr ha, fun _ => rfl⟩
  · obtain ⟨a, rfl⟩ := hname.mp hi
    exact ⟨a, hT.mp hT', fun _ => rfl⟩

/-! ### What was gathered -/

/-- A part of the state is filled by the items of one name; of any other item, `part` takes
nothing. -/
structure Fills (name : ι → String) (put : σ → ι → σ) (n : String) (get : σ → Option α)
    (part : ι → Option α) : Prop where
  get_put : ∀ s i, get (put s i) = (part i).or (get s)
  isSome_part : ∀ i, (part i).isSome = decide (name i = n)

namespace Fills

variable {name : ι → String} {put : σ → ι → σ} {n : String} {get : σ → Option α}
  {part : ι → Option α}

theorem isSome_put (h : Fills name put n get part) (s : σ) (i : ι) :
    (get (put s i)).isSome = ((get s).isSome || decide (name i = n)) := by
  rw [h.get_put, Option.isSome_or, h.isSome_part, Bool.or_comm]

/-- The last item of the name is the one that counts. -/
theorem get_foldl (h : Fills name put n get part) (is : List ι) (s : σ) :
    get (is.foldl put s) = (is.reverse.findSome? part).or (get s) := by
  induction is generalizing s with
  | nil => rfl
  | cons i is ih =>
    rw [List.foldl_cons, ih, h.get_put, List.reverse_cons, List.findSome?_append, Option.or_assoc]
    cases hpart : part i <;> simp [hpart]

/-- The first item of which there is a part is the first one of the name. -/
theorem findSome?_eq_bind (h : Fills name put n get part) (is : List ι) :
    is.findSome? part = (is.find? (name · = n)).bind part := by
  induction is with
  | nil => rfl
  | cons i is ih =>
    have hi := h.isSome_part i
    rw [List.findSome?_cons, List.find?_cons]
    cases hpart : part i with
    | none =>
      rw [hpart] at hi
      simp only [← hi, Option.isSome_none, ih]
    | some a =>
      rw [hpart] at hi
      simp only [← hi, Option.isSome_some, Option.bind_some, hpart]

theorem findSome?_eq_none (h : Fills name put n get part) {is : List ι}
    (hn : n ∉ is.map name) : is.findSome? part = none := by
  rw [List.findSome?_eq_none_iff]
  intro i hi
  rw [← Option.isNone_iff_eq_none, ← Option.not_isSome, h.isSome_part]
  simpa using fun hname => hn (List.mem_map.mpr ⟨i, hi, hname⟩)

/-- Where the name occurs once, the last item of it is the first one. -/
theorem findSome?_reverse (h : Fills name put n get part) {names : List String} (hn : n ∈ names)
    {is : List ι} (honce : ((is.map name).filter (· ∈ names)).Nodup) :
    is.reverse.findSome? part = is.findSome? part := by
  induction is with
  | nil => rfl
  | cons i is ih =>
    rw [List.reverse_cons, List.findSome?_append]
    cases hpart : part i with
    | none =>
      have hrest := honce.sublist (((List.sublist_cons_self i is).map name).filter _)
      simp [hpart, ih hrest]
    | some a =>
      have hname : name i = n := by simpa [hpart] using h.isSome_part i
      rw [List.map_cons, hname, List.filter_cons_of_pos (by simpa using hn),
        List.nodup_cons] at honce
      have hnew : n ∉ is.reverse.map name := fun hmem =>
        honce.1 (List.mem_filter.mpr ⟨by simpa using hmem, by simpa using hn⟩)
      simp [hpart, h.findSome?_eq_none hnew]

/-- What a state holds of a name that occurs once. -/
theorem get_foldl_of_once (h : Fills name put n get part) {names : List String} (hn : n ∈ names)
    {is : List ι} (honce : ((is.map name).filter (· ∈ names)).Nodup) {s : σ} (hs : get s = none) :
    get (is.foldl put s) = is.findSome? part := by
  rw [h.get_foldl, h.findSome?_reverse hn honce, hs, Option.or_none]

end Fills

namespace Record

/-- Reads a member that is no field. -/
def readOther (r : Record σ β) (depth : Nat) (name : String) (s : σ) : Reader σ :=
  match r.collect with
  | none => fun bs => (skipValue bs).map fun p => (s, p.2)
  | some keep => fun bs => (readValue depth bs).map fun p => (keep name p.1 s, p.2)

/-- A record gathers items: each field reads those of its name, and other members are read as
others.  No field is required, and a field counts as read from then on. -/
structure Gathers (r : Record σ β) (depth : Nat) (name : ι → String) (T : Texts ι)
    (put : σ → ι → σ) : Prop where
  starts : ∀ {i bs rest}, T i bs rest → StartsItem bs
  shorter : ∀ {i bs rest}, T i bs rest → rest.length < bs.length
  nodup : (r.fields.map (·.name)).Nodup
  field : ∀ f ∈ r.fields, Puts name T put f.name (f.read depth)
  other : ∀ n ∉ r.fields.map (·.name), Puts name T put n (r.readOther depth n)
  optional : ∀ f ∈ r.fields, f.required = false
  unread : ∀ f ∈ r.fields, f.isRead r.start = false
  isRead_put : ∀ f ∈ r.fields, ∀ s i, f.isRead (put s i) = (f.isRead s || decide (name i = f.name))

/-- Is a member of that name a field that was read already? -/
def refuses (r : Record σ β) (s : σ) (n : String) : Bool :=
  r.fields.any fun f => f.name = n && f.isRead s

/-- Puts an item into the state unless it is a field that was read already. -/
def take (r : Record σ β) (name : ι → String) (put : σ → ι → σ) (s : σ) (i : ι) : Option σ :=
  if r.refuses s (name i) then none else some (put s i)

/-- The text of a record. -/
inductive TextOf (r : Record σ β) (name : ι → String) (T : Texts ι) (put : σ → ι → σ) : Texts β
  | object {is : List ι} {b : β} {bs rest : List UInt8} (h : ObjectText name T is bs rest)
      (honce : ((is.map name).filter (· ∈ r.fields.map (·.name))).Nodup)
      (hb : r.finish (is.foldl put r.start) = .ok b) : TextOf r name T put b bs rest
  | list {is : List ι} {b : β} {bs rest : List UInt8} (hlist : r.asList = true)
      (h : ListText T is bs rest) (horder : is.map name <+: r.fields.map (·.name))
      (hb : r.finish (is.foldl put r.start) = .ok b) : TextOf r name T put b bs rest

namespace Gathers

variable {r : Record σ β} {depth : Nat} {name : ι → String} {T : Texts ι} {put : σ → ι → σ}

/-! ### Objects -/

theorem refuses_put (h : r.Gathers depth name T put) (s : σ) (i : ι) (n : String) :
    r.refuses (put s i) n =
      (r.refuses s n || decide (n = name i ∧ n ∈ r.fields.map (·.name))) := by
  rw [Bool.eq_iff_iff]
  simp only [refuses, List.any_eq_true, Bool.and_eq_true, Bool.or_eq_true, decide_eq_true_eq,
    List.mem_map]
  constructor
  · rintro ⟨f, hf, rfl, hread⟩
    rw [h.isRead_put f hf, Bool.or_eq_true, decide_eq_true_eq] at hread
    rcases hread with hread | hname
    · exact .inl ⟨f, hf, rfl, hread⟩
    · exact .inr ⟨hname.symm, f, hf, rfl⟩
  · rintro (⟨f, hf, rfl, hread⟩ | ⟨rfl, f, hf, hname⟩)
    · exact ⟨f, hf, rfl, by rw [h.isRead_put f hf, hread, Bool.true_or]⟩
    · exact ⟨f, hf, hname, by rw [h.isRead_put f hf, hname]; simp⟩

theorem refuses_start (h : r.Gathers depth name T put) (n : String) :
    r.refuses r.start n = false := by
  simp only [refuses, List.any_eq_false, Bool.and_eq_true, not_and]
  intro f hf _
  simp [h.unread f hf]

/-- All items are taken if none of them is refused, and if no field occurs twice among them. -/
theorem foldlM_take (h : r.Gathers depth name T put) (is : List ι) (s s' : σ) :
    is.foldlM (r.take name put) s = some s' ↔ s' = is.foldl put s ∧
      (∀ i ∈ is, r.refuses s (name i) = false) ∧
      ((is.map name).filter (· ∈ r.fields.map (·.name))).Nodup := by
  induction is generalizing s with
  | nil => simpa using eq_comm
  | cons i is ih =>
    rw [List.foldlM_cons, take]
    cases hrefuses : r.refuses s (name i) with
    | true =>
      refine ⟨fun h => (by cases h), fun ⟨_, hall, _⟩ => ?_⟩
      rw [hall i List.mem_cons_self] at hrefuses
      cases hrefuses
    | false =>
      have hrest : (is.foldlM (r.take name put) (put s i) = some s') ↔ _ := ih (put s i)
      simp only [Bool.false_eq_true, if_false]
      refine hrest.trans ?_
      simp only [h.refuses_put, Bool.or_eq_false_iff, decide_eq_false_iff_not, List.foldl_cons,
        List.forall_mem_cons, hrefuses, true_and, List.map_cons]
      refine and_congr_right fun _ => ?_
      by_cases hfield : name i ∈ r.fields.map (·.name)
      · have hnew : name i ∉ (is.map name).filter (· ∈ r.fields.map (·.name)) ↔
            ∀ j ∈ is, ¬ (name j = name i ∧ name j ∈ r.fields.map (·.name)) := by
          rw [List.mem_filter, List.mem_map, not_and]
          constructor
          · rintro hnot j hj ⟨hname, -⟩
            exact hnot ⟨j, hj, hname⟩ (by simpa using hfield)
          · rintro hnot ⟨j, hj, hname⟩ -
            exact hnot j hj ⟨hname, hname ▸ hfield⟩
        rw [List.filter_cons_of_pos (by simpa using hfield), List.nodup_cons, hnew, ← and_assoc,
          forall₂_and]
      · have hother : ∀ j ∈ is, ¬ (name j = name i ∧ name j ∈ r.fields.map (·.name)) :=
          fun j _ hj => hfield (hj.1 ▸ hj.2)
        rw [List.filter_cons_of_neg (by simpa using hfield), forall₂_and, and_iff_left hother]

/-- All items are taken from the start if no field occurs twice among them. -/
theorem foldlM_start (h : r.Gathers depth name T put) (is : List ι) (s : σ) :
    is.foldlM (r.take name put) r.start = some s ↔ s = is.foldl put r.start ∧
      ((is.map name).filter (· ∈ r.fields.map (·.name))).Nodup := by
  rw [h.foldlM_take]
  exact and_congr_right fun _ => and_iff_right fun i _ => h.refuses_start (name i)

theorem refuses_field (h : r.Gathers depth name T put) {f : Field σ} (hf : f ∈ r.fields) (s : σ) :
    r.refuses s f.name = f.isRead s := by
  rw [Bool.eq_iff_iff]
  simp only [refuses, List.any_eq_true, Bool.and_eq_true, decide_eq_true_eq]
  constructor
  · rintro ⟨g, hg, hname, hread⟩
    rwa [← List.inj_on_of_nodup_map h.nodup hg hf hname]
  · exact fun hread => ⟨f, hf, rfl, hread⟩

/-- A member is read by its field or as another one, unless it is refused. -/
theorem exists_puts (h : r.Gathers depth name T put) (n : String) :
    ∃ read, Puts name T put n read ∧
      (∀ s bs, r.refuses s n = false → r.readMember depth n s bs = behindColon (read s) bs) ∧
      ∀ s bs p, r.readMember depth n s bs = .ok p → r.refuses s n = false := by
  cases hfind : r.fields.find? (·.name = n) with
  | some f =>
    have hf := List.mem_of_find?_eq_some hfind
    obtain rfl : f.name = n := by simpa using List.find?_some hfind
    refine ⟨f.read depth, h.field f hf, fun s bs hfree => ?_, fun s bs p hread => ?_⟩
    · rw [h.refuses_field hf] at hfree
      simp only [readMember, hfind, hfree, Bool.false_eq_true, if_false]
    · rw [h.refuses_field hf]
      simp only [readMember, hfind] at hread
      split_ifs at hread with hfree
      exact eq_false_of_ne_true hfree
  | none =>
    have hother : n ∉ r.fields.map (·.name) := by simpa using hfind
    have hfree : ∀ s, r.refuses s n = false := by
      intro s
      simp only [refuses, List.any_eq_false, Bool.and_eq_true, decide_eq_true_eq, not_and]
      exact fun f hf hname _ => hother (List.mem_map.mpr ⟨f, hf, hname⟩)
    refine ⟨r.readOther depth n, h.other n hother, fun s bs _ => ?_, fun s _ _ _ => hfree s⟩
    simp only [readMember, hfind, readOther]
    cases r.collect <;> rfl

theorem takesMembers (h : r.Gathers depth name T put) :
    TakesMembers (r.readMember depth) name T (r.take name put) where
  shorter hi := h.shorter hi
  sound {n s s' bs rest} hread := by
    obtain ⟨read, hputs, heq, hfree⟩ := h.exists_puts n
    have hfree := hfree s bs _ hread
    rw [heq s bs hfree] at hread
    obtain ⟨bs₁, hcolon, hread⟩ := behindColon_eq_ok.mp hread
    obtain ⟨i, rfl, hi, rfl⟩ := hputs.sound hread
    exact ⟨i, bs₁, _, rfl, hcolon, blanks_skipBlanks bs₁, hi, by simp [take, hfree]⟩
  complete {i s s' bs bs₁ bs₂ rest} hcolon hblanks hi hrest htake := by
    obtain ⟨read, hputs, heq, -⟩ := h.exists_puts (name i)
    unfold take at htake
    split_ifs at htake with hfree
    obtain rfl := Option.some.inj htake
    rw [heq s bs (eq_false_of_ne_true hfree), behindColon_eq_ok]
    refine ⟨bs₁, hcolon, hputs.complete rfl ?_ hrest⟩
    rwa [(h.starts hi).skipBlanks_eq hblanks]

theorem missing?_eq_none (h : r.Gathers depth name T put) (s : σ) : r.missing? s = none := by
  simp only [missing?, Option.map_eq_none_iff, List.find?_eq_none]
  intro f hf
  simp [h.optional f hf]

theorem readObjectBody_eq_ok (h : r.Gathers depth name T put) {b : β} :
    r.readObjectBody depth bs = .ok (b, rest) ↔
      ∃ is, Items Byte.closeBrace (NameAnd fun i => Json.TextOf (name i)) T true is bs rest ∧
        ((is.map name).filter (· ∈ r.fields.map (·.name))).Nodup ∧
        r.finish (is.foldl put r.start) = .ok b := by
  rw [readObjectBody, closing_eq_ok]
  constructor
  · rintro ⟨more, hcontent, hclose⟩
    split at hcontent
    · cases hcontent
    · rename_i s after hread
      rw [h.missing?_eq_none s] at hcontent
      dsimp only at hcontent
      split at hcontent
      · cases hcontent
      · rename_i b' hb
        obtain ⟨rfl, rfl⟩ := Prod.mk.inj (Except.ok.inj hcontent)
        have hmembers := closing_eq_ok.mpr ⟨after, hread, hclose⟩
        obtain ⟨is, his, hfold⟩ := h.takesMembers.readMembers_eq_ok.mp hmembers
        obtain ⟨rfl, honce⟩ := (h.foldlM_start is s).mp hfold
        exact ⟨is, his, honce, hb⟩
  · rintro ⟨is, his, honce, hb⟩
    have hfold := (h.foldlM_start is _).mpr ⟨rfl, honce⟩
    have hmembers := h.takesMembers.readMembers_eq_ok.mpr ⟨is, his, hfold⟩
    obtain ⟨more, hread, hclose⟩ := closing_eq_ok.mp hmembers
    refine ⟨more, ?_, hclose⟩
    simp only [hread, h.missing?_eq_none, hb]

/-! ### Lists -/

theorem closeList_eq_none : closeList bs = (none, rest) ↔
    Blanks bs (Byte.closeBracket :: rest) := by
  constructor
  · intro h
    unfold closeList at h
    split at h
    · cases h
    · rename_i b more hskip
      split_ifs at h with hclose
      · subst hclose
        obtain rfl := (Prod.mk.inj h).2
        exact (blanks_of_skipBlanks hskip).1
      · dsimp only at h
        split at h <;> cases h
      · cases h
  · intro h
    simp [closeList, h.skipBlanks_eq (b := Byte.closeBracket) (by decide)]

/-- Where the list has ended, no field is read any more. -/
theorem readFields_closeBracket {fields : List (Field σ)} (h : ∀ f ∈ fields, f.required = false)
    (index : Nat) (first : Bool) (s : σ) (rest : List UInt8) :
    r.readFields depth fields index first s (Byte.closeBracket :: rest) =
      .ok (s, Byte.closeBracket :: rest) := by
  induction fields generalizing index with
  | nil => rfl
  | cons f fields ih =>
    obtain ⟨hf, hfields⟩ := List.forall_mem_cons.mp h
    rw [readFields, nextItem_eq_false.mpr ⟨.refl _, rest, rfl⟩]
    simp only [hf, Bool.false_eq_true, if_false]
    exact ih hfields (index + 1)

/-- What the fields of a list have read, up to the closing bracket, are items in their order. -/
theorem readFields_sound (h : r.Gathers depth name T put) {fields : List (Field σ)}
    (hfields : ∀ f ∈ fields, f ∈ r.fields) {index : Nat} {first : Bool} {s s' : σ}
    {more : List UInt8} (hread : r.readFields depth fields index first s bs = .ok (s', more))
    (hclose : closeList more = (none, rest)) :
    ∃ is, Items Byte.closeBracket NoHeading T first is bs rest ∧
      is.map name <+: fields.map (·.name) ∧ s' = is.foldl put s := by
  induction fields generalizing index first s bs with
  | nil =>
    obtain ⟨rfl, rfl⟩ := Prod.mk.inj (Except.ok.inj hread)
    exact ⟨[], .close (closeList_eq_none.mp hclose), List.nil_prefix, rfl⟩
  | cons f fields ih =>
    obtain ⟨hf, hfields⟩ := List.forall_mem_cons.mp hfields
    rw [readFields] at hread
    split at hread
    · cases hread
    · rename_i after hnext
      obtain ⟨hblanks, more', rfl⟩ := nextItem_eq_false.mp hnext
      rw [h.optional f hf, readFields_closeBracket fun g hg => h.optional g (hfields g hg)] at hread
      obtain ⟨rfl, rfl⟩ := Prod.mk.inj (Except.ok.inj hread)
      rw [closeList_closeBracket] at hclose
      obtain rfl := (Prod.mk.inj hclose).2
      exact ⟨[], .close hblanks, List.nil_prefix, rfl⟩
    · rename_i after hnext
      obtain ⟨hahead, hstarts⟩ := nextItem_eq_true.mp hnext
      split at hread
      · cases hread
      · rename_i s₁ after' hitem
        obtain ⟨i, hi, hT, rfl⟩ := (h.field f hf).sound hitem
        rw [hstarts.skipBlanks_eq (.refl after)] at hT
        obtain ⟨is, hitems, hnames, hfold⟩ := ih hfields hread
        refine ⟨i :: is, .item hahead rfl hT hitems, ?_, hfold⟩
        rw [List.map_cons, List.map_cons, List.cons_prefix_cons]
        exact ⟨hi, hnames⟩

/-- Items in the order of the fields are read up to the closing bracket. -/
theorem readFields_complete (h : r.Gathers depth name T put) {fields : List (Field σ)}
    (hfields : ∀ f ∈ fields, f ∈ r.fields) {first : Bool} {is : List ι}
    (hitems : Items Byte.closeBracket NoHeading T first is bs rest)
    (hnames : is.map name <+: fields.map (·.name)) (index : Nat) (s : σ) :
    ∃ more, r.readFields depth fields index first s bs = .ok (is.foldl put s, more) ∧
      closeList more = (none, rest) := by
  induction fields generalizing index first s bs is with
  | nil =>
    obtain rfl : is = [] := by simpa using hnames
    cases hitems with
    | close hblanks => exact ⟨bs, rfl, closeList_eq_none.mpr hblanks⟩
  | cons f fields ih =>
    obtain ⟨hf, hfields⟩ := List.forall_mem_cons.mp hfields
    cases hitems with
    | close hblanks =>
      refine ⟨Byte.closeBracket :: rest, ?_, closeList_closeBracket rest⟩
      rw [readFields, nextItem_eq_false.mpr ⟨hblanks, rest, rfl⟩]
      simp only [h.optional f hf, Bool.false_eq_true, if_false]
      exact readFields_closeBracket (fun g hg => h.optional g (hfields g hg)) _ _ _ _
    | @item _ i is _ bs₁ bs₂ bs₃ _ hahead hhead hT hmore =>
      obtain rfl : bs₁ = bs₂ := hhead
      rw [List.map_cons, List.map_cons, List.cons_prefix_cons] at hnames
      have hstarts := h.starts hT
      have hread : f.read depth s bs₁ = .ok (put s i, bs₃) := by
        refine (h.field f hf).complete hnames.1 ?_ (hmore.endsNumber endsNumber_closeBracket)
        rwa [hstarts.skipBlanks_eq (.refl bs₁)]
      obtain ⟨more, hrest, hclose⟩ := ih hfields hmore hnames.2 (index + 1) (put s i)
      refine ⟨more, ?_, hclose⟩
      rw [readFields, nextItem_eq_true.mpr ⟨hahead, hstarts⟩]
      simp only [hread]
      exact hrest

theorem readListBody_eq_ok (h : r.Gathers depth name T put) {b : β} :
    r.readListBody depth bs = .ok (b, rest) ↔
      ∃ is, Items Byte.closeBracket NoHeading T true is bs rest ∧
        is.map name <+: r.fields.map (·.name) ∧ r.finish (is.foldl put r.start) = .ok b := by
  rw [readListBody, closing_eq_ok]
  constructor
  · rintro ⟨more, hcontent, hclose⟩
    split at hcontent
    · cases hcontent
    · rename_i s after hread
      split at hcontent
      · cases hcontent
      · rename_i b' hb
        obtain ⟨rfl, rfl⟩ := Prod.mk.inj (Except.ok.inj hcontent)
        obtain ⟨is, his, hnames, rfl⟩ := h.readFields_sound (fun f hf => hf) hread hclose
        exact ⟨is, his, hnames, hb⟩
  · rintro ⟨is, his, hnames, hb⟩
    obtain ⟨more, hread, hclose⟩ :=
      h.readFields_complete (fun f hf => hf) his hnames 0 r.start
    refine ⟨more, ?_, hclose⟩
    simp only [hread, hb]

/-! ### Both -/

theorem textOf_starts {b : β} (h : TextOf r name T put b bs rest) : StartsItem bs := by
  cases h with
  | object h _ _ => exact h.startsItem
  | list _ h _ _ => exact h.startsItem

theorem textOf_shorter (h : r.Gathers depth name T put) {b : β} {bs rest : List UInt8}
    (hb : TextOf r name T put b bs rest) : rest.length < bs.length := by
  cases hb with
  | object hb _ _ => exact hb.shorter h.shorter
  | list _ hb _ _ => exact hb.shorter h.shorter

/-- A record is read from its texts, and from nothing else. -/
theorem reads {T : Nat → Texts ι} (h : ∀ d, depth = d + 1 → r.Gathers d name (T d) put) :
    Reads (r.read depth) (Deeper (fun d => TextOf r name (T d) put) depth) := by
  cases depth with
  | zero =>
    refine .atValue (fun h => h.elim) (fun h => h.elim) (fun h => ?_) fun h _ => h.elim
    split_ifs at h
    · cases h
    · cases h
    · exact absurd h failWrongType_ne_ok
  | succ depth =>
    have hgathers := h depth rfl
    refine .atValue textOf_starts hgathers.textOf_shorter (fun h => ?_) fun h _ => ?_
    · split_ifs at h with hbrace hbracket
      · subst hbrace
        obtain ⟨is, his, honce, hb⟩ := hgathers.readObjectBody_eq_ok.mp h
        exact .object (.intro his) honce hb
      · rw [Bool.and_eq_true, decide_eq_true_eq] at hbracket
        obtain ⟨rfl, hlist⟩ := hbracket
        obtain ⟨is, his, hnames, hb⟩ := hgathers.readListBody_eq_ok.mp h
        exact .list hlist (.intro his) hnames hb
      · exact absurd h failWrongType_ne_ok
    · cases h with
      | object h honce hb =>
        cases h with
        | intro his =>
          rw [if_pos rfl]
          exact hgathers.readObjectBody_eq_ok.mpr ⟨_, his, honce, hb⟩
      | list hlist h hnames hb =>
        cases h with
        | intro his =>
          have hbrackets : Byte.openBracket ≠ Byte.openBrace := by decide
          rw [if_neg hbrackets, if_pos (by simp [hlist])]
          exact hgathers.readListBody_eq_ok.mpr ⟨_, his, hnames, hb⟩

end Gathers

end Record

/-! ### All members of an object -/

/-- The text of an object of values, with its members as they stand in it. -/
def MembersText : Nat → Texts (List (String × Value)) :=
  Deeper fun depth => ObjectText Prod.fst fun m => ValueText depth m.2

theorem foldl_listed (ms : List (String × Value)) :
    ms.foldl (fun ms m => ms ++ [m]) listed.start = ms := by
  induction ms using List.reverseRecOn with
  | nil => rfl
  | append_singleton ms m ih => rw [List.foldl_concat, ih]

theorem gathers_listed (depth : Nat) :
    listed.Gathers depth Prod.fst (fun m => ValueText depth m.2) fun ms m => ms ++ [m] where
  starts := (reads_value depth).starts
  shorter := (reads_value depth).shorter
  nodup := List.nodup_nil
  field _ hf := absurd hf List.not_mem_nil
  other n _ := by
    refine .of (fun v ms => ms ++ [(n, v)]) (reads_value depth)
      (fun {v _ _} h => ⟨(n, v), rfl, h, fun _ => rfl⟩) fun {m _ _} hname h => ?_
    exact ⟨m.2, h, fun _ => by rw [← hname]⟩
  optional _ hf := absurd hf List.not_mem_nil
  unread _ hf := absurd hf List.not_mem_nil
  isRead_put _ hf := absurd hf List.not_mem_nil

theorem textOf_listed {depth : Nat} {ms : List (String × Value)} :
    Record.TextOf listed Prod.fst (fun m => ValueText depth m.2) (fun ms m => ms ++ [m]) ms bs
      rest ↔ ObjectText Prod.fst (fun m => ValueText depth m.2) ms bs rest := by
  constructor
  · intro h
    cases h with
    | object h _ hms =>
      rw [foldl_listed] at hms
      exact Except.ok.inj hms ▸ h
    | list hlist => cases hlist
  · intro h
    exact .object h (by simp [listed]) (congrArg Except.ok (foldl_listed ms))

/-- The members are listed of objects, and of nothing else. -/
theorem reads_listed (depth : Nat) : Reads (listed.read depth) (MembersText depth) := by
  have hsame : (fun d => ObjectText Prod.fst fun m : String × Value => ValueText d m.2) =
      fun d => Record.TextOf listed Prod.fst (fun m => ValueText d m.2) fun ms m => ms ++ [m] := by
    funext d ms bs rest
    exact propext textOf_listed.symm
  rw [MembersText, hsame]
  exact Record.Gathers.reads fun d _ => gathers_listed d

/-- The members are listed that were written. -/
theorem listed_read_written {depth : Nat} {ms : List (String × Value)}
    (h : ∀ m ∈ ms, m.2.Proper depth) (rest : List UInt8) :
    listed.read (depth + 1) (Text.Utf8.encode (Value.object ms).write ++ rest) =
      .ok (ms, rest) := by
  have htakes : Takes Layout.compact (listed.readMember depth) listed.start ms
      (ms.foldl (fun ms m => ms ++ [m]) listed.start) := by
    refine .foldl (fun m hm s rest hrest => ?_) listed.start
    have hread : readValue depth (Text.Utf8.encode m.2.write ++ rest) = .ok (m.2, rest) :=
      (h m hm).readValue hrest
    have hmember : listed.readMember depth m.1 s = behindColon (readBehind depth m.1 s) := rfl
    rw [hmember, behindColon_colon]
    simp only [Layout.compact, List.nil_append, readBehind, hread]
    rfl
  rw [foldl_listed] at htakes
  exact listed.read_written htakes rfl rfl rest

end Dialogue.Json
