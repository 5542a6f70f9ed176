/-
Two readers of one text.

What a text holds is known from readers only, and readers differ in what they keep of it.  So
two of them are compared: the second follows the first if it accepts whatever the first one
accepts, stops at the same byte, and gives a value that is related to the first one's.  This
is kept by everything that readers are built with, so it is enough to compare the readers of
single members.

The members of an object are told by a reader that keeps all of them as the text has them
(`listed`).  What other readers make of an object is related to this list.
-/
import Dialogue.Proofs.Json.Nested
import Mathlib.Data.List.DropRight
import Mathlib.Data.List.Forall2

namespace Dialogue.Json

variable {α β γ σ τ : Type} {R : α → β → Prop}

/-- Each success of the one result is a success of the other, at the same byte. -/
def Matches (R : α → β → Prop) (x : Except Fault (α × List UInt8))
    (y : Except Fault (β × List UInt8)) : Prop :=
  ∀ a rest, x = .ok (a, rest) → ∃ b, y = .ok (b, rest) ∧ R a b

/-- The second reader follows the first. -/
def Follows (R : α → β → Prop) (read : Reader α) (other : Reader β) : Prop :=
  ∀ bs, Matches R (read bs) (other bs)

/-- What a relation tells of the first value, holds all along the first list. -/
theorem forall_of_forall₂ {P : α → Prop} (hRP : ∀ a b, R a b → P a) {as : List α} {bs : List β}
    (h : List.Forall₂ R as bs) : ∀ a ∈ as, P a :=
  ((List.forall₂_and_left as bs).mp (h.imp fun a b hab => ⟨hRP a b hab, hab⟩)).1

/-! ### Results -/

namespace Matches

variable {x : Except Fault (α × List UInt8)} {y : Except Fault (β × List UInt8)}

theorem error (f : Fault) (y : Except Fault (β × List UInt8)) : Matches R (.error f) y := by
  intro a rest h
  cases h

theorem ok {a : α} {b : β} (h : R a b) (rest : List UInt8) :
    Matches R (.ok (a, rest)) (.ok (b, rest)) := by
  intro a' rest' heq
  obtain ⟨rfl, rfl⟩ := Prod.mk.inj (Except.ok.inj heq)
  exact ⟨b, rfl, h⟩

theorem map {α' β' : Type} {S : α' → β' → Prop} {f : α → α'} {g : β → β'} (h : Matches R x y)
    (hfg : ∀ a b, R a b → S (f a) (g b)) :
    Matches S (x.map fun r => (f r.1, r.2)) (y.map fun r => (g r.1, r.2)) := by
  intro a rest heq
  obtain ⟨⟨a', rest'⟩, hx, hr⟩ := map_eq_ok heq
  obtain ⟨rfl, rfl⟩ := Prod.mk.inj hr
  obtain ⟨b, hy, hab⟩ := h a' rest' hx
  exact ⟨g b, by rw [hy]; rfl, hfg a' b hab⟩

/-- Two results match and what goes on behind them does, so all of it does. -/
theorem next {α' β' : Type} {S : α' → β' → Prop}
    {k : α → List UInt8 → Except Fault (α' × List UInt8)}
    {k' : β → List UInt8 → Except Fault (β' × List UInt8)}
    (hk : ∀ a b rest, R a b → Matches S (k a rest) (k' b rest)) : Matches R x y →
    Matches S (match x with | .error f => .error f | .ok (a, rest) => k a rest)
      (match y with | .error f => .error f | .ok (b, rest) => k' b rest) := by
  intro h
  cases x with
  | error f => exact error _ _
  | ok r =>
    obtain ⟨b, rfl, hab⟩ := h r.1 r.2 rfl
    exact hk r.1 b r.2 hab

theorem closing (close : List UInt8 → Option Fault × List UInt8) (h : Matches R x y) :
    Matches R (closing close x) (closing close y) := by
  intro a rest heq
  obtain ⟨rest', hx, hclose⟩ := closing_eq_ok.mp heq
  obtain ⟨b, hy, hab⟩ := h a rest' hx
  exact ⟨b, closing_eq_ok.mpr ⟨rest', hy, hclose⟩, hab⟩

theorem deeper {depth : Nat} {bs : List UInt8} {k : Nat → Except Fault (α × List UInt8)}
    {k' : Nat → Except Fault (β × List UInt8)}
    (h : ∀ d, depth = d + 1 → Matches R (k d) (k' d)) :
    Matches R (deeper depth bs k) (deeper depth bs k') := by
  cases depth with
  | zero => exact error _ _
  | succ depth => exact h depth rfl

end Matches

/-! ### Readers -/

namespace Follows

variable {read : Reader α} {other : Reader β}

theorem mono {S : α → β → Prop} (h : Follows R read other) (hRS : ∀ a b, R a b → S a b) :
    Follows S read other := by
  intro bs a rest heq
  obtain ⟨b, hb, hab⟩ := h bs a rest heq
  exact ⟨b, hb, hRS a b hab⟩

theorem trans {S : β → γ → Prop} {third : Reader γ} (h : Follows R read other)
    (h' : Follows S other third) : Follows (fun a c => ∃ b, R a b ∧ S b c) read third := by
  intro bs a rest heq
  obtain ⟨b, hb, hab⟩ := h bs a rest heq
  obtain ⟨c, hc, hbc⟩ := h' bs b rest hb
  exact ⟨c, hc, b, hab, hbc⟩

/-- A reader follows itself, and so tells what holds of all that it reads. -/
theorem self {P : α → Prop} (h : ∀ bs a rest, read bs = .ok (a, rest) → P a) :
    Follows (fun a b => a = b ∧ P a) read read := fun bs a rest heq =>
  ⟨a, heq, rfl, h bs a rest heq⟩

theorem same (read : Reader α) : Follows (fun a b => a = b) read read := fun _ a _ heq =>
  ⟨a, heq, rfl⟩

theorem map {α' β' : Type} {S : α' → β' → Prop} {f : α → α'} {g : β → β'}
    (h : Follows R read other) (hfg : ∀ a b, R a b → S (f a) (g b)) :
    Follows S (fun bs => (read bs).map fun r => (f r.1, r.2))
      (fun bs => (other bs).map fun r => (g r.1, r.2)) := fun bs => (h bs).map hfg

theorem behindColon (h : Follows R read other) :
    Follows R (behindColon read) (behindColon other) := by
  intro bs
  unfold Json.behindColon
  split
  · exact .error _ _
  · exact h _

theorem atValue {k : UInt8 → List UInt8 → Except Fault (α × List UInt8)}
    {k' : UInt8 → List UInt8 → Except Fault (β × List UInt8)}
    (h : ∀ b rest, Matches R (k b rest) (k' b rest)) :
    Follows R (Json.atValue k) (Json.atValue k') := by
  intro bs
  unfold Json.atValue
  split
  · exact .error _ _
  · exact h _ _

/-- What is no value of the wanted kind, is not read at all. -/
theorem failWrongType (wanted : String) (bs : List UInt8)
    (y : Except Fault (β × List UInt8)) : Matches R (Json.failWrongType wanted bs) y := by
  unfold Json.failWrongType
  split
  · exact .error _ _
  · exact .error _ _

theorem readOptional (h : Follows R read other) :
    Follows (Option.Rel R) (readOptional read) (readOptional other) := by
  intro bs
  have hsome : ∀ bs, Matches (Option.Rel R) ((read bs).map fun r => (some r.1, r.2))
      ((other bs).map fun r => (some r.1, r.2)) := fun bs =>
    (h bs).map fun a b hab => Option.Rel.some hab
  unfold Json.readOptional
  split
  · split_ifs with hn
    · cases readWord afterN _ with
      | error f => exact .error _ _
      | ok rest => exact .ok Option.Rel.none rest
    · exact hsome _
  · exact hsome _

theorem readItems (h : Follows R read other) (fuel : Nat) (first : Bool) {acc : List α}
    {acc' : List β} (hacc : List.Forall₂ R acc acc') :
    Follows (List.Forall₂ R) (readItems read fuel first acc)
      (readItems other fuel first acc') := by
  induction fuel generalizing first acc acc' with
  | zero => exact fun bs => .error _ _
  | succ fuel ih =>
    intro bs
    unfold Json.readItems
    split
    · exact .error _ _
    · exact .ok (List.rel_reverse hacc) _
    · exact .next (fun a b rest hab => ih false (.cons hab hacc) rest) (h _)

theorem readList {item : Nat → Reader α} {item' : Nat → Reader β}
    (depth : Nat) (h : ∀ d, depth = d + 1 → Follows R (item d) (item' d)) :
    Follows (List.Forall₂ R) (readList item depth) (readList item' depth) := by
  refine atValue fun b rest => ?_
  split_ifs with hopen
  · refine .deeper fun d hd => .closing closeList ?_
    exact (h d hd).readItems _ true .nil rest
  · exact failWrongType _ _ _

/-- Readers of members that follow each other, do so over all members. -/
theorem readMembers {S : σ → τ → Prop} {member : String → σ → Reader σ}
    {member' : String → τ → Reader τ}
    (h : ∀ name s t, S s t → Follows S (member name s) (member' name t))
    (fuel : Nat) (first : Bool) {s : σ} {t : τ} (hst : S s t) :
    Follows S (readMembers member fuel first s) (readMembers member' fuel first t) := by
  induction fuel generalizing first s t with
  | zero => exact fun bs => .error _ _
  | succ fuel ih =>
    intro bs
    unfold Json.readMembers
    split
    · exact .error _ _
    · exact .ok hst _
    · exact .next (fun s t rest hst => ih false hst rest) (h _ s t hst _)

theorem readWhole (h : Follows R read other) {bytes : List UInt8} {a : α}
    (hread : readWhole read bytes = .ok a) : ∃ b, readWhole other bytes = .ok b ∧ R a b := by
  unfold Json.readWhole at hread ⊢
  cases hr : read bytes with
  | error f =>
    rw [hr] at hread
    cases hread
  | ok r =>
    rw [hr] at hread
    obtain ⟨b, hb, hab⟩ := h bytes r.1 r.2 hr
    rw [hb]
    dsimp only at hread ⊢
    split at hread
    · cases hread
      exact ⟨b, rfl, hab⟩
    · cases hread

end Follows

/-! ### Records -/

/-- The second field is read where the first one is, and in the same way. -/
structure Field.Like (S : σ → τ → Prop) (depth : Nat) (f : Field σ) (g : Field τ) : Prop where
  name : f.name = g.name
  required : f.required = g.required
  isRead : ∀ s t, S s t → f.isRead s = g.isRead t
  read : ∀ s t, S s t → Follows S (f.read depth s) (g.read depth t)

/-- The second record follows the first where this much nesting is left to its members. -/
structure Record.Like (S : σ → τ → Prop) (R : α → β → Prop) (depth : Nat) (r : Record σ α)
    (q : Record τ β) : Prop where
  start : S r.start q.start
  member : ∀ name s t, S s t →
    Follows S (r.readMember depth name s) (q.readMember depth name t)
  missing : ∀ s t, S s t → r.missing? s = none → q.missing? t = none
  finish : ∀ s t a, S s t → r.finish s = .ok a → ∃ b, q.finish t = .ok b ∧ R a b
  asList : r.asList = true → q.asList = true ∧ List.Forall₂ (Field.Like S depth) r.fields q.fields

theorem Field.Like.of {V : α → β → Prop} {S : σ → τ → Prop} {depth : Nat} {name : String}
    {get : σ → Option α} {put : α → σ → σ} {read : Nat → Reader α} {get' : τ → Option β}
    {put' : β → τ → τ} {read' : Nat → Reader β} {required : Bool}
    (hget : ∀ s t, S s t → (get s).isSome = (get' t).isSome)
    (hput : ∀ a b s t, V a b → S s t → S (put a s) (put' b t))
    (hread : Follows V (read depth) (read' depth)) :
    Field.Like S depth (Field.of name get put read required)
      (Field.of name get' put' read' required) where
  name := rfl
  required := rfl
  isRead := hget
  read s t hst := hread.map fun a b hab => hput a b s t hab hst

section Fields

variable {S : σ → τ → Prop} {depth : Nat} {fields : List (Field σ)} {fields' : List (Field τ)}

theorem find?_like (h : List.Forall₂ (Field.Like S depth) fields fields') (name : String) :
    Option.Rel (Field.Like S depth) (fields.find? (·.name = name))
      (fields'.find? (·.name = name)) := by
  induction h with
  | nil => exact .none
  | @cons f g fields fields' hfg _ ih =>
    by_cases hname : f.name = name
    · rw [List.find?_cons_of_pos (by simpa using hname),
        List.find?_cons_of_pos (by simpa [← hfg.name] using hname)]
      exact .some hfg
    · rw [List.find?_cons_of_neg (by simpa using hname),
        List.find?_cons_of_neg (by simpa [← hfg.name] using hname)]
      exact ih

theorem missing_like (h : List.Forall₂ (Field.Like S depth) fields fields') {s : σ} {t : τ}
    (hst : S s t) : (fields.find? fun f => f.required && !f.isRead s).map (·.name) =
      (fields'.find? fun f => f.required && !f.isRead t).map (·.name) := by
  induction h with
  | nil => rfl
  | @cons f g fields fields' hfg _ ih =>
    have hsame : (f.required && !f.isRead s) = (g.required && !g.isRead t) := by
      rw [hfg.required, hfg.isRead s t hst]
    cases hg : g.required && !g.isRead t with
    | false =>
      rw [List.find?_cons_of_neg (by simp [hsame, hg]), List.find?_cons_of_neg (by simp [hg])]
      exact ih
    | true =>
      rw [List.find?_cons_of_pos (by simp [hsame, hg]), List.find?_cons_of_pos (by simp [hg])]
      exact congrArg some hfg.name

/-- Two records with like fields, whose other members are passed over. -/
theorem Record.Like.ofFields {r : Record σ α} {q : Record τ β} (hstart : S r.start q.start)
    (hfields : List.Forall₂ (Field.Like S depth) r.fields q.fields)
    (hcollect : r.collect = none) (hcollect' : q.collect = none) (hlist : q.asList = true)
    (hfinish : ∀ s t a, S s t → r.finish s = .ok a → ∃ b, q.finish t = .ok b ∧ R a b) :
    Record.Like S R depth r q where
  start := hstart
  member name s t hst bs := by
    unfold Record.readMember
    rw [hcollect, hcollect']
    have hfind := find?_like hfields name
    generalize r.fields.find? (·.name = name) = found at hfind ⊢
    generalize q.fields.find? (·.name = name) = found' at hfind ⊢
    cases hfind with
    | none =>
      refine Follows.behindColon (fun bs => ?_) bs
      cases skipValue bs with
      | error f => exact .error _ _
      | ok p => exact .ok hst _
    | @some f g hfg =>
      dsimp only
      rw [hfg.isRead s t hst]
      split
      · exact .error _ _
      · exact (hfg.read s t hst).behindColon bs
  missing s t hst hnone := by
    rw [Record.missing?] at hnone ⊢
    rw [← missing_like hfields hst, hnone]
  finish := hfinish
  asList _ := ⟨hlist, hfields⟩

end Fields

namespace Record.Like

variable {S : σ → τ → Prop} {depth : Nat} {r : Record σ α} {q : Record τ β}

/-- The end of a record that has all its fields. -/
theorem finished (h : Like S R depth r q) {s : σ} {t : τ} (hst : S s t) (rest : List UInt8) :
    Matches R
      (match r.finish s with
        | .error cause => .error (.loose cause rest)
        | .ok a => .ok (a, rest))
      (match q.finish t with
        | .error cause => .error (.loose cause rest)
        | .ok b => .ok (b, rest)) := by
  cases hfinish : r.finish s with
  | error cause => exact .error _ _
  | ok a =>
    obtain ⟨b, hb, hab⟩ := h.finish s t a hst hfinish
    rw [hb]
    exact .ok hab rest

theorem readObjectBody (h : Like S R depth r q) :
    Follows R (r.readObjectBody depth) (q.readObjectBody depth) := by
  intro bs
  refine .closing closeObject (.next (fun s t rest hst => ?_)
    (Follows.readMembers h.member _ true h.start bs))
  split
  · exact .error _ _
  · rename_i hmissing
    rw [h.missing s t hst hmissing]
    exact h.finished hst rest

theorem readFields {fields : List (Field σ)} {fields' : List (Field τ)}
    (h : List.Forall₂ (Field.Like S depth) fields fields') (r : Record σ α) (q : Record τ β)
    (index index' : Nat) (first : Bool) {s : σ} {t : τ} (hst : S s t) :
    Follows S (r.readFields depth fields index first s)
      (q.readFields depth fields' index' first t) := by
  induction h generalizing index index' first s t with
  | nil => exact fun bs => .ok hst bs
  | @cons f g fields fields' hfg _ ih =>
    intro bs
    unfold Record.readFields
    split
    · exact .error _ _
    · rw [hfg.required]
      split
      · exact .error _ _
      · exact ih _ _ first hst _
    · exact .next (fun s t rest hst => ih _ _ false hst rest) (hfg.read s t hst _)

theorem readListBody (h : Like S R depth r q) (hlist : r.asList = true) :
    Follows R (r.readListBody depth) (q.readListBody depth) := by
  intro bs
  have hfields := readFields (h.asList hlist).2 r q 0 0 true h.start bs
  exact .closing closeList (.next (fun s t rest hst => h.finished hst rest) hfields)

/-- A record follows another if its members do. -/
theorem read {depth : Nat} (h : ∀ d, depth = d + 1 → Like S R d r q) :
    Follows R (r.read depth) (q.read depth) := by
  refine Follows.atValue fun b rest => ?_
  split_ifs with hbrace hr hq hq
  · exact .deeper fun d hd => (h d hd).readObjectBody rest
  · simp only [Bool.and_eq_true, decide_eq_true_eq] at hr
    exact .deeper fun d hd => (h d hd).readListBody hr.2 rest
  · -- The first record may be a list and the second one not, but then they are not alike.
    intro a last heq
    simp only [Bool.and_eq_true, decide_eq_true_eq] at hr hq
    cases depth with
    | zero => cases heq
    | succ d => exact absurd ⟨hr.1, ((h d rfl).asList hr.2).1⟩ hq
  · exact Follows.failWrongType _ _ _
  · exact Follows.failWrongType _ _ _

theorem read_succ (h : Like S R depth r q) :
    Follows R (r.read (depth + 1)) (q.read (depth + 1)) := by
  refine read (S := S) fun d hd => ?_
  obtain rfl : depth = d := Nat.succ.inj hd
  exact h

end Record.Like

/-! ### All members of an object -/

/-- The members as the text has them, in its order, repeated names included. -/
def listed : Record (List (String × Value)) (List (String × Value)) where
  title := "a map"
  start := []
  fields := []
  collect := some fun name v ms => ms ++ [(name, v)]
  asList := false
  finish := .ok

/-- What reads the value of a member and puts it behind the others. -/
def readBehind (depth : Nat) (name : String) (ms : List (String × Value)) :
    Reader (List (String × Value)) := fun bs =>
  (readValue depth bs).map fun r => (ms ++ [(name, r.1)], r.2)

/-- What is made of a value is compared with the list behind it. -/
theorem Follows.readBehind {V : α → Value → Prop} {S : σ → List (String × Value) → Prop}
    {read : Reader α} {f : α → σ} {depth : Nat} {name : String} {ms : List (String × Value)}
    (h : Follows V read (readValue depth)) (hf : ∀ a v, V a v → S (f a) (ms ++ [(name, v)])) :
    Follows S (fun bs => (read bs).map fun r => (f r.1, r.2)) (readBehind depth name ms) :=
  h.map (g := fun v => ms ++ [(name, v)]) hf

/-- A field is compared with the list behind its member. -/
theorem Follows.field {V : α → Value → Prop} {S : σ → List (String × Value) → Prop}
    {name : String} {get : σ → Option α} {put : α → σ → σ} {read : Nat → Reader α}
    {required : Bool} {depth : Nat} {s : σ} {ms : List (String × Value)}
    (h : Follows V (read depth) (readValue depth))
    (hput : ∀ a v, V a v → S (put a s) (ms ++ [(name, v)])) :
    Follows S ((Field.of name get put read required).read depth s) (Json.readBehind depth name ms) :=
  h.readBehind (f := fun a => put a s) hput

theorem listed_readObjectBody (depth : Nat) (bs : List UInt8) :
    listed.readObjectBody depth bs =
      closing closeObject (readMembers (fun name ms => behindColon (readBehind depth name ms))
        (bs.length + 1) true [] bs) := by
  have hmember : listed.readMember depth =
      fun name ms => behindColon (readBehind depth name ms) := rfl
  have hstart : listed.start = [] := rfl
  rw [Record.readObjectBody, hmember, hstart]
  cases readMembers (fun name ms => behindColon (readBehind depth name ms))
    (bs.length + 1) true [] bs with
  | error f => rfl
  | ok p => rfl

/-- A record that is followed by the list of its members: each field is read from a value, and
what becomes of another member may depend on its being proper. -/
theorem Record.Like.ofListed {S : σ → List (String × Value) → Prop}
    {R : α → List (String × Value) → Prop} {depth : Nat} {r : Record σ α}
    {keep : String → Value → σ → σ} (hcollect : r.collect = some keep)
    (hlist : r.asList = false) (hstart : S r.start [])
    (hfield : ∀ f ∈ r.fields, ∀ s ms, S s ms →
      Follows S (f.read depth s) (readBehind depth f.name ms))
    (hkeep : ∀ name v s ms, (∀ f ∈ r.fields, f.name ≠ name) → (v.Whole → v.Proper depth) →
      S s ms → S (keep name v s) (ms ++ [(name, v)]))
    (hfinish : ∀ s ms a, S s ms → r.finish s = .ok a → R a ms) :
    Record.Like S R depth r listed where
  start := hstart
  member name s ms hst := by
    intro bs
    have hlisted : listed.readMember depth name ms = behindColon (readBehind depth name ms) := rfl
    rw [hlisted]
    unfold Record.readMember
    cases hfind : r.fields.find? (·.name = name) with
    | none =>
      have hother : ∀ f ∈ r.fields, f.name ≠ name := by simpa using hfind
      rw [hcollect]
      have hself : Follows (fun v w => v = w ∧ (v.Whole → v.Proper depth)) (readValue depth)
          (readValue depth) := Follows.self fun _ _ _ => proper_of_readValue
      have hkept : Follows S (fun bs => (readValue depth bs).map fun p => (keep name p.1 s, p.2))
          (readBehind depth name ms) := by
        refine hself.readBehind (f := fun v => keep name v s) fun v w hvw => ?_
        obtain ⟨rfl, hproper⟩ := hvw
        exact hkeep name v s ms hother hproper hst
      exact hkept.behindColon bs
    | some f =>
      obtain rfl : f.name = name := by simpa using List.find?_some hfind
      dsimp only
      split
      · exact .error _ _
      · exact (hfield f (List.mem_of_find?_eq_some hfind) s ms hst).behindColon bs
  missing _ _ _ _ := rfl
  finish s ms a hst hs := ⟨ms, rfl, hfinish s ms a hst hs⟩
  asList h := by simp [hlist] at h

/-! ### Where any value follows -/

theorem skipBlanks_skipBlanks (bs : List UInt8) : skipBlanks (skipBlanks bs) = skipBlanks bs :=
  List.dropWhile_idempotent isJsonBlank bs

theorem readValue_skipBlanks (depth : Nat) (bs : List UInt8) :
    readValue depth (skipBlanks bs) = readValue depth bs := by
  rw [readValue, readValue, skipBlanks_skipBlanks]

/-- At the first byte of a value the blanks before it make no difference. -/
theorem Follows.atFirst {k : UInt8 → List UInt8 → Except Fault (α × List UInt8)} {depth : Nat}
    {R : α → Value → Prop} (h : ∀ b rest, skipBlanks (b :: rest) = b :: rest →
      Matches R (k b rest) (readValue depth (b :: rest))) :
    Follows R (Json.atValue k) (readValue depth) := by
  intro bs
  have hskip := skipBlanks_skipBlanks bs
  rw [← readValue_skipBlanks]
  unfold Json.atValue
  cases hbs : skipBlanks bs with
  | nil => exact .error _ _
  | cons b rest => exact h b rest (by rw [← hbs, hskip])

theorem follows_readReal (depth : Nat) :
    Follows (fun _ _ => True) readReal (readValue depth) := by
  refine Follows.atFirst fun b rest hskip => ?_
  split_ifs with hstarts
  · rw [readValue, hskip]
    simp only [not_word_of_startsNumber hstarts, hstarts, if_false, if_true]
    intro a last heq
    obtain ⟨r, hread, hr⟩ := map_eq_ok heq
    obtain ⟨-, rfl⟩ := Prod.mk.inj hr
    exact ⟨_, by rw [hread]; rfl, trivial⟩
  · exact Follows.failWrongType _ _ _

/-- Nothing stands for `null`, and what is read for any other value. -/
inductive OrNull (V : α → Value → Prop) : Option α → Value → Prop
  | null : OrNull V none .null
  | value {a : α} {v : Value} (h : V a v) : OrNull V (some a) v

theorem OrNull.forall {P : α → Prop} {o : Option α} {v : Value} (h : OrNull (fun a _ => P a) o v) :
    ∀ a ∈ o, P a := by
  cases h with
  | null => simp
  | value h => simpa using h

/-- `null` is a value as well. -/
theorem Follows.orNull {read : Reader α} {V : α → Value → Prop} {depth : Nat}
    (h : Follows V read (readValue depth)) :
    Follows (OrNull V) (Json.readOptional read) (readValue depth) := by
  intro bs
  have hskip := skipBlanks_skipBlanks bs
  have hsome : ∀ bs, Matches (OrNull V)
      ((read bs).map fun r => (some r.1, r.2)) (readValue depth bs) := by
    intro bs o last heq
    obtain ⟨r, hread, hr⟩ := map_eq_ok heq
    obtain ⟨rfl, rfl⟩ := Prod.mk.inj hr
    obtain ⟨v, hv, hV⟩ := h bs r.1 r.2 hread
    exact ⟨v, hv, .value hV⟩
  rw [← readValue_skipBlanks]
  unfold Json.readOptional
  cases hbs : skipBlanks bs with
  | nil => exact hsome []
  | cons b rest =>
    dsimp only
    split_ifs with hn
    · rw [readValue, ← hbs, hskip, hbs]
      simp only [hn, if_true]
      intro o last heq
      obtain ⟨left, hword, hr⟩ := map_eq_ok heq
      obtain ⟨rfl, rfl⟩ := Prod.mk.inj hr
      exact ⟨.null, by rw [hword]; rfl, .null⟩
    · exact hsome _

theorem follows_array (depth : Nat) :
    Follows (fun vs v => v = .array vs) (readList readValue depth) (readValue depth) := by
  refine Follows.atFirst fun b rest _ => ?_
  split_ifs with hopen
  · subst hopen
    cases depth with
    | zero => exact .error _ _
    | succ depth =>
      rw [readValue_openBracket]
      intro vs last heq
      exact ⟨.array vs, congrArg (Except.map fun r => (Value.array r.1, r.2)) heq, rfl⟩
  · exact Follows.failWrongType _ _ _

theorem follows_object (depth : Nat) :
    Follows (fun ms v => v = .object (ofMembers ms)) (listed.read depth) (readValue depth) := by
  refine Follows.atFirst fun b rest _ => ?_
  split_ifs with hopen hlist
  · subst hopen
    cases depth with
    | zero => exact .error _ _
    | succ depth =>
      rw [readValue_openBrace, deeper, listed_readObjectBody]
      have hmembers : Follows (fun ms sorted => sorted = ofMembers ms)
          (Json.readMembers (fun name ms => behindColon (readBehind depth name ms))
            (rest.length + 1) true [])
          (Json.readMembers (readInto depth) (rest.length + 1) true []) := by
        refine Follows.readMembers (fun name ms sorted hsorted => ?_) _ true rfl
        refine Follows.behindColon fun bs a last heq => ?_
        obtain ⟨r, hread, hr⟩ := map_eq_ok heq
        obtain ⟨rfl, rfl⟩ := Prod.mk.inj hr
        refine ⟨ofMembers (ms ++ [(name, r.1)]), ?_, rfl⟩
        rw [hread, ofMembers_concat, hsorted]
        rfl
      intro ms last heq
      obtain ⟨sorted, hsorted, rfl⟩ :=
        Matches.closing closeObject (hmembers rest) ms last heq
      exact ⟨_, by rw [hsorted]; rfl, rfl⟩
  · simp [listed] at hlist
  · exact Follows.failWrongType _ _ _

end Dialogue.Json
