/-
Values are read by their grammar.

A reader looks at the first byte behind the blanks, and each kind of value has its own first
bytes.  So it is enough to say of each kind what is read from there.
-/
import Dialogue.Proofs.Json.Follows
import Dialogue.Proofs.Json.Grammar.Items
import Dialogue.Proofs.Json.Grammar.Number

namespace Dialogue.Json

variable {α : Type} {bs rest : List UInt8}

/-! ### First bytes -/

theorem failWrongType_ne_ok {wanted : String} {r : α × List UInt8} :
    failWrongType wanted bs ≠ .ok r := by
  unfold failWrongType
  split
  · simp
  · simp [fail]

theorem Reads.atValue {T : Texts α} {k : UInt8 → List UInt8 → Except Fault (α × List UInt8)}
    (starts : ∀ {a bs rest}, T a bs rest → StartsItem bs)
    (shorter : ∀ {a bs rest}, T a bs rest → rest.length < bs.length)
    (sound : ∀ {a b bs rest}, k b bs = .ok (a, rest) → T a (b :: bs) rest)
    (complete : ∀ {a b bs rest}, T a (b :: bs) rest → EndsNumber rest → k b bs = .ok (a, rest)) :
    Reads (Json.atValue k) T where
  starts := starts
  shorter := shorter
  sound h := by
    unfold Json.atValue at h
    split at h
    · cases h
    · rename_i hskip
      rw [hskip]
      exact sound h
  complete h hrest := by
    obtain ⟨b, more, hskip, -⟩ := starts h
    unfold Json.atValue
    rw [hskip] at h ⊢
    exact complete h hrest

/-! ### Scalars -/

theorem TextOf.starts {s : String} (h : TextOf s bs rest) :
    ∃ more, bs = Byte.quote :: more := by
  obtain ⟨t, -, rfl⟩ := h
  exact ⟨_, rfl⟩

theorem startsItem_quote (more : List UInt8) : StartsItem (Byte.quote :: more) :=
  ⟨_, more, rfl, by decide, by decide⟩

theorem reads_text : Reads readText TextOf := by
  refine .atValue (fun h => ?_) TextOf.shorter (fun h => ?_) fun h _ => ?_
  · obtain ⟨more, rfl⟩ := h.starts
    exact startsItem_quote more
  · split_ifs at h with hquote
    · subst hquote
      exact readTextBody_eq_ok.mp h
    · exact absurd h failWrongType_ne_ok
  · obtain ⟨more, heq⟩ := h.starts
    obtain ⟨rfl, rfl⟩ := List.cons.inj heq
    rw [if_pos rfl]
    exact readTextBody_eq_ok.mpr h

theorem map_readWord_eq_ok {es : List UInt8} {a b : α} :
    (readWord es bs).map (a, ·) = .ok (b, rest) ↔ a = b ∧ bs = es ++ rest := by
  rw [← readWord_eq_ok]
  cases readWord es bs with
  | error f => simp [Except.map]
  | ok r => simp [Except.map, Prod.ext_iff]

theorem BoolText.shorter {b : Bool} (h : BoolText b bs rest) : rest.length < bs.length := by
  cases h with
  | true => exact length_lt_behind _ _ _
  | false => exact length_lt_behind _ _ _

theorem reads_bool : Reads readBool BoolText := by
  refine .atValue (fun h => ?_) BoolText.shorter (fun h => ?_) fun h _ => ?_
  · cases h with
    | true => exact ⟨_, _, rfl, by decide, by decide⟩
    | false => exact ⟨_, _, rfl, by decide, by decide⟩
  · split_ifs at h with htrue hfalse
    · obtain ⟨rfl, rfl⟩ := map_readWord_eq_ok.mp h
      rw [htrue]
      exact .true
    · obtain ⟨rfl, rfl⟩ := map_readWord_eq_ok.mp h
      rw [hfalse]
      exact .false
    · exact absurd h failWrongType_ne_ok
  · cases h with
    | true =>
      rw [if_pos rfl]
      exact map_readWord_eq_ok.mpr ⟨rfl, rfl⟩
    | false =>
      rw [if_neg (by decide), if_pos rfl]
      exact map_readWord_eq_ok.mpr ⟨rfl, rfl⟩

theorem NumberText.starts {x : Number} (h : NumberText x bs rest) :
    ∃ b more, bs = b :: more ∧ startsNumber b = true := by
  obtain ⟨t, ht, -, rfl⟩ := h
  obtain ⟨b, more, rfl, hb⟩ := ht.starts
  exact ⟨b, _, rfl, hb⟩

theorem NumberText.shorter {x : Number} (h : NumberText x bs rest) : rest.length < bs.length := by
  obtain ⟨t, ht, -, rfl⟩ := h
  exact ht.shorter rest

/-- A number that is wanted as a double. -/
def RealText : Texts Binary64 := fun b bs rest =>
  ∃ x, NumberText x bs rest ∧ x.toBinary64 = b

theorem reads_real : Reads readReal RealText := by
  refine .atValue (fun h => ?_) (fun h => ?_) (fun h => ?_) fun h hrest => ?_
  · obtain ⟨x, hx, -⟩ := h
    obtain ⟨b, more, rfl, hb⟩ := hx.starts
    exact startsItem_of_startsNumber hb more
  · obtain ⟨x, hx, -⟩ := h
    exact hx.shorter
  · split_ifs at h with hstarts
    · obtain ⟨r, hread, hr⟩ := map_eq_ok h
      obtain ⟨rfl, rfl⟩ := Prod.mk.inj hr
      exact ⟨_, numberText_of_readNumber hread, rfl⟩
    · exact absurd h failWrongType_ne_ok
  · obtain ⟨x, hx, rfl⟩ := h
    obtain ⟨b, more, heq, hb⟩ := hx.starts
    obtain ⟨rfl, rfl⟩ := List.cons.inj heq
    rw [if_pos hb, hx.readNumber hrest]
    rfl

/-! ### `null` -/

theorem OrNullText.shorter {T : Texts α} (hT : ∀ {a bs rest}, T a bs rest → rest.length < bs.length)
    {o : Option α} (h : OrNullText T o bs rest) : rest.length < bs.length := by
  cases h with
  | null => exact length_lt_behind _ _ _
  | some h => exact hT h

/-- Texts whose first letter is not that of `null`. -/
def NotNull (T : Texts α) : Texts α := fun a bs rest =>
  T a bs rest ∧ bs.head? ≠ some Byte.lowerN

/-- `null` is told from other texts by its first letter. -/
theorem Reads.orNotNull {read : Reader α} {T : Texts α} (h : Reads read T) :
    Reads (readOptional read) (OrNullText (NotNull T)) where
  starts h' := by
    cases h' with
    | null => exact ⟨_, _, rfl, by decide, by decide⟩
    | some h' => exact h.starts h'.1
  shorter h' := h'.shorter fun h' => h.shorter h'.1
  sound h' := by
    unfold readOptional at h'
    split at h'
    · rename_i b more hskip
      rw [hskip]
      split_ifs at h' with hn
      · obtain ⟨rfl, rfl⟩ := map_readWord_eq_ok.mp h'
        rw [hn]
        exact .null
      · obtain ⟨r, hread, hr⟩ := map_eq_ok h'
        obtain ⟨rfl, rfl⟩ := Prod.mk.inj hr
        have hr := h.sound hread
        rw [skipBlanks_cons (blanks_of_skipBlanks hskip).2] at hr
        exact .some ⟨hr, by simpa using hn⟩
    · obtain ⟨r, hread, -⟩ := map_eq_ok h'
      obtain ⟨b, more, hnil, -⟩ := h.starts (h.sound hread)
      cases hnil
  complete h' hrest := by
    unfold readOptional
    generalize hskip : skipBlanks _ = bs at h' ⊢
    cases h' with
    | null =>
      simp only [if_true]
      exact map_readWord_eq_ok.mpr ⟨rfl, rfl⟩
    | @some a _ _ h' =>
      obtain ⟨h', hn⟩ := h'
      obtain ⟨b, more, rfl, hb, -⟩ := h.starts h'
      have hread : read (b :: more) = .ok (a, _) :=
        h.complete (by rwa [skipBlanks_cons hb]) hrest
      have hn : b ≠ Byte.lowerN := by simpa using hn
      simp only [hn, if_false, hread]
      rfl

theorem Reads.orNull {read : Reader α} {T : Texts α} (h : Reads read T)
    (hT : ∀ {a more rest}, ¬ T a (Byte.lowerN :: more) rest) :
    Reads (readOptional read) (OrNullText T) := by
  have hsame : NotNull T = T := by
    funext a bs rest
    refine propext (and_iff_left_of_imp fun h' hn => ?_)
    obtain ⟨more, rfl⟩ := List.head?_eq_some_iff.mp hn
    exact hT h'
  exact hsame ▸ h.orNotNull

/-! ### Lists -/

/-- What stands in a bracket, if the limit allows for one more. -/
def Deeper (T : Nat → Texts α) : Nat → Texts α
  | 0 => fun _ _ _ => False
  | depth + 1 => T depth

theorem reads_list {item : Nat → Reader α} {T : Nat → Texts α} {depth : Nat}
    (h : ∀ d, depth = d + 1 → Reads (item d) (T d)) :
    Reads (readList item depth) (Deeper (fun d => ListText (T d)) depth) := by
  cases depth with
  | zero =>
    refine .atValue (fun h => h.elim) (fun h => h.elim) (fun h => ?_) fun h _ => h.elim
    split_ifs at h
    · cases h
    · exact absurd h failWrongType_ne_ok
  | succ depth =>
    have hitem := h depth rfl
    refine .atValue ListText.startsItem (fun h => h.shorter hitem.shorter) (fun h => ?_)
      fun h _ => ?_
    · split_ifs at h with hopen
      · subst hopen
        exact .intro ((readListBody_eq_ok hitem).mp h)
      · exact absurd h failWrongType_ne_ok
    · cases h with
      | intro h =>
        rw [if_pos rfl]
        exact (readListBody_eq_ok hitem).mpr h

/-! ### Any value -/

theorem ScalarText.starts {v : Value} (h : ScalarText v bs rest) : StartsItem bs := by
  cases h with
  | null => exact ⟨_, _, rfl, by decide, by decide⟩
  | bool h => exact reads_bool.starts h
  | number h =>
    obtain ⟨b, more, rfl, hb⟩ := h.starts
    exact startsItem_of_startsNumber hb more
  | text h => exact reads_text.starts h

theorem ScalarText.shorter {v : Value} (h : ScalarText v bs rest) : rest.length < bs.length := by
  cases h with
  | null => exact length_lt_behind _ _ _
  | bool h => exact h.shorter
  | number h => exact h.shorter
  | text h => exact h.shorter

/-- What is read of a value: all of a scalar, and of a list or an object what its parts are. -/
inductive ReadFrom (depth : Nat) : Value → List UInt8 → List UInt8 → Prop
  | scalar {v : Value} {bs rest : List UInt8} (h : ScalarText v bs rest) : ReadFrom depth v bs rest
  | array {d : Nat} {items : List Value} {bs rest : List UInt8} (hd : depth = d + 1)
      (h : readListBody (readValue d) bs = .ok (items, rest)) :
      ReadFrom depth (.array items) (Byte.openBracket :: bs) rest
  | object {d : Nat} {ms : List (String × Value)} {bs rest : List UInt8} (hd : depth = d + 1)
      (h : closing closeObject (readMembers (readInto d) (bs.length + 1) true [] bs) =
        .ok (ms, rest)) :
      ReadFrom depth (.object ms) (Byte.openBrace :: bs) rest

theorem readFrom_of_readValue {depth : Nat} {v : Value} (h : readValue depth bs = .ok (v, rest)) :
    ReadFrom depth v (skipBlanks bs) rest := by
  rw [readValue] at h
  split at h
  · cases h
  rename_i b more hskip
  rw [hskip]
  split_ifs at h with hn ht hf hnumber hquote hbracket hbrace
  · obtain ⟨rfl, rfl⟩ := map_readWord_eq_ok.mp h
    rw [hn]
    exact .scalar .null
  · obtain ⟨rfl, rfl⟩ := map_readWord_eq_ok.mp h
    rw [ht]
    exact .scalar (.bool .true)
  · obtain ⟨rfl, rfl⟩ := map_readWord_eq_ok.mp h
    rw [hf]
    exact .scalar (.bool .false)
  · obtain ⟨r, hread, hr⟩ := map_eq_ok h
    obtain ⟨rfl, rfl⟩ := Prod.mk.inj hr
    exact .scalar (.number (numberText_of_readNumber hread))
  · obtain ⟨r, hread, hr⟩ := map_eq_ok h
    obtain ⟨rfl, rfl⟩ := Prod.mk.inj hr
    subst hquote
    exact .scalar (.text (readTextBody_eq_ok.mp hread))
  · cases depth with
    | zero => cases h
    | succ depth =>
      obtain ⟨r, hread, hr⟩ := map_eq_ok h
      obtain ⟨rfl, rfl⟩ := Prod.mk.inj hr
      subst hbracket
      exact .array rfl hread
  · cases depth with
    | zero => cases h
    | succ depth =>
      obtain ⟨r, hread, hr⟩ := map_eq_ok h
      obtain ⟨rfl, rfl⟩ := Prod.mk.inj hr
      subst hbrace
      exact .object rfl hread
  · cases h

theorem ScalarText.readValue {v : Value} (h : ScalarText v (skipBlanks bs) rest)
    (hrest : EndsNumber rest) (depth : Nat) : readValue depth bs = .ok (v, rest) := by
  rw [Json.readValue]
  generalize hskip : skipBlanks bs = bs' at h ⊢
  clear hskip
  cases h with
  | null =>
    simp only [if_true]
    exact map_readWord_eq_ok.mpr ⟨rfl, rfl⟩
  | bool h =>
    cases h with
    | true =>
      have hmarks : Byte.lowerT ≠ Byte.lowerN := by decide
      simp only [hmarks, if_false, if_true]
      exact map_readWord_eq_ok.mpr ⟨rfl, rfl⟩
    | false =>
      have hmarks : Byte.lowerF ≠ Byte.lowerN ∧ Byte.lowerF ≠ Byte.lowerT := by decide
      simp only [hmarks.1, hmarks.2, if_false, if_true]
      exact map_readWord_eq_ok.mpr ⟨rfl, rfl⟩
  | number h =>
    obtain ⟨b, more, rfl, hb⟩ := h.starts
    simp only [not_word_of_startsNumber hb, hb, if_false, if_true, h.readNumber hrest]
    rfl
  | text h =>
    obtain ⟨more, rfl⟩ := h.starts
    have hmarks : Byte.quote ≠ Byte.lowerN ∧ Byte.quote ≠ Byte.lowerT ∧ Byte.quote ≠ Byte.lowerF ∧
        startsNumber Byte.quote = false := by decide
    simp [hmarks, readTextBody_eq_ok.mpr h, Except.map]

theorem ObjectText.starts {ι : Type} {name : ι → String} {T : Texts ι} {is : List ι}
    (h : ObjectText name T is bs rest) : ∃ more, bs = Byte.openBrace :: more := by
  cases h with
  | intro _ => exact ⟨_, rfl⟩

theorem ObjectText.startsItem {ι : Type} {name : ι → String} {T : Texts ι} {is : List ι}
    (h : ObjectText name T is bs rest) : StartsItem bs := by
  obtain ⟨more, rfl⟩ := h.starts
  exact ⟨_, more, rfl, by decide, by decide⟩

theorem ObjectText.shorter {ι : Type} {name : ι → String} {T : Texts ι}
    (hT : ∀ {i bs rest}, T i bs rest → rest.length < bs.length) {is : List ι}
    (h : ObjectText name T is bs rest) : rest.length < bs.length := by
  cases h with
  | intro h =>
    have hlt := h.length_lt (NameAnd.length_le TextOf.shorter) hT
    rw [List.length_cons]
    omega

theorem ValueOver.starts {inner : Texts Value} {v : Value} (h : ValueOver inner v bs rest) :
    StartsItem bs := by
  cases h with
  | scalar h => exact h.starts
  | array h => exact h.startsItem
  | object h => exact h.startsItem

/-- The members of an object of values are sorted in. -/
theorem takesMembers_readInto {depth : Nat} (h : Reads (readValue depth) (ValueText depth)) :
    TakesMembers (readInto depth) Prod.fst (fun m => ValueText depth m.2)
      (fun ms m => some (insertMember m.1 m.2 ms)) where
  shorter hvalue := h.shorter hvalue
  sound hread := by
    obtain ⟨bs₁, hcolon, hread⟩ := behindColon_eq_ok.mp hread
    obtain ⟨r, hvalue, hr⟩ := map_eq_ok hread
    obtain ⟨rfl, rfl⟩ := Prod.mk.inj hr
    exact ⟨(_, r.1), bs₁, _, rfl, hcolon, blanks_skipBlanks bs₁, h.sound hvalue, rfl⟩
  complete hcolon hblanks hvalue hrest htake := by
    obtain rfl := Option.some.inj htake
    refine behindColon_eq_ok.mpr ⟨_, hcolon, ?_⟩
    rw [← (h.starts hvalue).skipBlanks_eq hblanks] at hvalue
    rw [h.complete hvalue hrest]
    rfl

theorem foldlM_insertMember (ms : List (String × Value)) :
    ms.foldlM (fun ms m => some (insertMember m.1 m.2 ms)) [] = some (ofMembers ms) :=
  List.foldlM_pure

theorem reads_value (depth : Nat) : Reads (readValue depth) (ValueText depth) := by
  induction depth with
  | zero =>
    refine ⟨ScalarText.starts, ScalarText.shorter, fun h => ?_, fun h hrest => h.readValue hrest 0⟩
    have hread := readFrom_of_readValue h
    generalize skipBlanks _ = bs at hread ⊢
    cases hread with
    | scalar h => exact h
    | array hd _ => cases hd
    | object hd _ => cases hd
  | succ depth ih =>
    have hmembers := takesMembers_readInto ih
    refine ⟨ValueOver.starts, fun h => ?_, fun h => ?_, fun h hrest => ?_⟩
    · cases h with
      | scalar h => exact h.shorter
      | array h => exact h.shorter ih.shorter
      | object h => exact h.shorter ih.shorter
    · have hread := readFrom_of_readValue h
      generalize skipBlanks _ = bs at hread ⊢
      cases hread with
      | scalar h => exact .scalar h
      | array hd h =>
        obtain rfl := Nat.succ.inj hd
        exact .array (.intro ((readListBody_eq_ok ih).mp h))
      | object hd h =>
        obtain rfl := Nat.succ.inj hd
        obtain ⟨ms, hms, hfold⟩ := hmembers.readMembers_eq_ok.mp h
        rw [foldlM_insertMember] at hfold
        obtain rfl := Option.some.inj hfold
        exact .object (.intro hms)
    · rw [← readValue_skipBlanks]
      generalize skipBlanks _ = bs at h ⊢
      cases h with
      | scalar h =>
        refine ScalarText.readValue ?_ hrest _
        rwa [h.starts.skipBlanks_eq (.refl bs)]
      | array h =>
        cases h with
        | intro h =>
          rw [readValue_openBracket, (readListBody_eq_ok ih).mpr h]
          rfl
      | object h =>
        cases h with
        | intro h =>
          rw [readValue_openBrace, hmembers.readMembers_eq_ok.mpr ⟨_, h, foldlM_insertMember _⟩]
          rfl

/-! ### Kinds of values -/

theorem valueText_of_scalar {v : Value} (h : ScalarText v bs rest) (depth : Nat) :
    ValueText depth v bs rest := by
  cases depth with
  | zero => exact h
  | succ depth => exact .scalar h

theorem valueText_null {depth : Nat} :
    ValueText depth .null bs rest ↔ bs = Byte.lowerN :: (afterN ++ rest) := by
  refine ⟨fun h => ?_, fun h => h ▸ valueText_of_scalar .null depth⟩
  cases depth with
  | zero => cases h; rfl
  | succ depth => obtain ⟨⟨⟩⟩ := h; rfl

theorem valueText_number {depth : Nat} {x : Number} :
    ValueText depth (.number x) bs rest ↔ NumberText x bs rest := by
  refine ⟨fun h => ?_, fun h => valueText_of_scalar (.number h) depth⟩
  cases depth with
  | zero => cases h; assumption
  | succ depth => obtain ⟨⟨⟩⟩ := h; assumption

/-- Only `null` starts with its letter. -/
theorem ScalarText.eq_null {v : Value} {more : List UInt8}
    (h : ScalarText v (Byte.lowerN :: more) rest) : v = .null := by
  generalize hbs : Byte.lowerN :: more = bs at h
  cases h with
  | null => rfl
  | bool h => cases h <;> exact absurd (List.cons.inj hbs).1 (by decide)
  | number h =>
    obtain ⟨b, t, rfl, hb⟩ := h.starts
    obtain ⟨rfl, -⟩ := List.cons.inj hbs
    exact absurd hb (by decide)
  | text h =>
    obtain ⟨t, rfl⟩ := h.starts
    exact absurd (List.cons.inj hbs).1 (by decide)

theorem ValueText.eq_null {depth : Nat} {v : Value} {more : List UInt8}
    (h : ValueText depth v (Byte.lowerN :: more) rest) : v = .null := by
  cases depth with
  | zero => exact ScalarText.eq_null h
  | succ depth =>
    generalize hbs : Byte.lowerN :: more = bs at h
    cases h with
    | scalar h => exact (hbs ▸ h).eq_null
    | array h =>
      obtain ⟨t, rfl⟩ := h.starts
      exact absurd (List.cons.inj hbs).1 (by decide)
    | object h =>
      obtain ⟨t, rfl⟩ := h.starts
      exact absurd (List.cons.inj hbs).1 (by decide)

theorem ValueText.head?_eq_iff {depth : Nat} {v : Value} (h : ValueText depth v bs rest) :
    bs.head? = some Byte.lowerN ↔ v = .null := by
  constructor
  · intro hnull
    obtain ⟨more, rfl⟩ := List.head?_eq_some_iff.mp hnull
    exact h.eq_null
  · rintro rfl
    rw [valueText_null.mp h]
    rfl

end Dialogue.Json
