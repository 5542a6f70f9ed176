/-
What is passed over is a value.

Lists and objects are not passed over one inside the other: the open ones are a stack, and after
each token as many of them are closed as there are brackets.  So besides the texts of values there
are the texts that close a stack, each structure of it behind one of its items (`Closes`).  A
value inside a stack is the text of the value and then a text that closes the stack; that is what
every step keeps.
-/
import Dialogue.Proofs.Json.Grammar.SkipToken
import Dialogue.Proofs.Json.Grammar.Value

namespace Dialogue.Json

variable {bs rest : List UInt8}

/-! ### Stacks -/

/-- What stands before an item of the structure. -/
def Frame.Heading : Frame → Texts Unit
  | .list => NoHeading
  | .object => NameAnd fun _ => AnyQuoted

/-- A text that closes the structures, the innermost first; `first` says whether that one has
no item yet. -/
def Closes : Bool → List Frame → List UInt8 → List UInt8 → Prop
  | _, [], bs, rest => bs = rest
  | first, frame :: stack, bs, rest => ∃ is mid,
      Items frame.closing frame.Heading AnyText first is bs mid ∧ Closes false stack mid rest

/-- A value, and then a text that closes the structures around it. -/
def ValueIn (stack : List Frame) (bs rest : List UInt8) : Prop :=
  ∃ bs₁ mid, Blanks bs bs₁ ∧ AnyText () bs₁ mid ∧ Closes false stack mid rest

/-- What is left to come after a step. -/
def SkipStep.Leads : SkipStep → List UInt8 → Prop
  | .done after, rest => after = rest
  | .value stack bs, rest => ValueIn stack bs rest

/-! ### What is passed over has the shape of a value -/

theorem closes_of_skipToValue {frame : Frame} {stack : List Frame} {step : SkipStep}
    {first : Bool} {before : List UInt8} (hahead : ∀ bs₁, Blanks bs bs₁ → Ahead first before bs₁)
    (h : skipToValue frame stack bs = .ok step) (hstep : step.Leads rest) :
    Closes first (frame :: stack) before rest := by
  cases frame with
  | list =>
    obtain rfl := Except.ok.inj h
    obtain ⟨bs₁, mid, hblanks, hvalue, is, mid', hitems, hcloses⟩ := hstep
    exact ⟨() :: is, mid', .item (hahead bs₁ hblanks) rfl hvalue hitems, hcloses⟩
  | object =>
    unfold skipToValue at h
    dsimp only at h
    split at h
    · cases h
    rename_i after hname
    obtain rfl := Except.ok.inj h
    obtain ⟨bs₁, bs₂, hblanks, hquoted, hcolon⟩ := skipName_eq_ok.mp hname
    obtain ⟨bs₃, mid, hblanks', hvalue, is, mid', hitems, hcloses⟩ := hstep
    exact ⟨() :: is, mid', .item (hahead bs₁ hblanks) ⟨bs₂, after, hquoted, hcolon, hblanks'⟩ hvalue
      hitems, hcloses⟩

theorem closes_of_skipClosings {comma : Bool} {stack : List Frame} {step : SkipStep}
    (h : skipClosings comma stack bs = .ok step) (hstep : step.Leads rest) :
    Closes (!comma) stack bs rest := by
  induction stack generalizing comma bs with
  | nil =>
    obtain rfl := Except.ok.inj h
    exact hstep
  | cons frame stack ih =>
    unfold skipClosings at h
    split at h
    · cases h
    rename_i b more hskip
    obtain ⟨hblanks, -⟩ := blanks_of_skipBlanks hskip
    split_ifs at h with hcomma hclose hmore
    · rw [Bool.and_eq_true, decide_eq_true_eq] at hcomma
      obtain ⟨rfl, rfl⟩ := hcomma
      exact closes_of_skipToValue (fun bs₁ => .comma hblanks) h hstep
    · subst hclose
      exact ⟨[], more, .close hblanks, ih h⟩
    · cases h
    · rw [Bool.not_eq_true] at hmore
      subst hmore
      exact closes_of_skipToValue (fun bs₁ hbs₁ => .first (hblanks.trans hbs₁)) h hstep

/-- What the first token of a value may be. -/
inductive FirstToken (stack : List Frame) (step : SkipStep) : List UInt8 → Prop
  | scalar {bs rest : List UInt8} (h : AnyText () bs rest) (hlt : rest.length < bs.length)
      (hstep : skipClosings true stack rest = .ok step) : FirstToken stack step bs
  | list {bs : List UInt8} (hstep : skipClosings false (.list :: stack) bs = .ok step) :
      FirstToken stack step (Byte.openBracket :: bs)
  | object {bs : List UInt8} (hstep : skipClosings false (.object :: stack) bs = .ok step) :
      FirstToken stack step (Byte.openBrace :: bs)

theorem firstToken_of_skipToken {stack : List Frame} {step : SkipStep}
    (h : skipToken stack bs = .ok step) : FirstToken stack step (skipBlanks bs) := by
  unfold skipToken at h
  extract_lets after at h
  -- Behind a scalar, structures may end.
  have hafter : ∀ {r : Except Fault (List UInt8)} {bs : List UInt8}, after r = .ok step →
      (∀ rest, r = .ok rest → AnyText () bs rest ∧ rest.length < bs.length) →
      FirstToken stack step bs := by
    intro r bs hr htext
    cases r with
    | error f => cases hr
    | ok rest => exact .scalar (htext rest rfl).1 (htext rest rfl).2 hr
  split at h
  · cases h
  rename_i b more hskip
  rw [hskip]
  split_ifs at h with hn ht hf hminus hdigit hquote hbracket hbrace
  · refine hafter h fun rest hrest => ?_
    obtain rfl := readWord_eq_ok.mp hrest
    rw [hn]
    exact ⟨.null, length_lt_behind _ _ _⟩
  · refine hafter h fun rest hrest => ?_
    obtain rfl := readWord_eq_ok.mp hrest
    rw [ht]
    exact ⟨.bool .true, length_lt_behind _ _ _⟩
  · refine hafter h fun rest hrest => ?_
    obtain rfl := readWord_eq_ok.mp hrest
    rw [hf]
    exact ⟨.bool .false, length_lt_behind _ _ _⟩
  · refine hafter h fun rest hrest => ?_
    obtain ⟨t, hunsigned, rfl⟩ := unsigned_of_skipUnsigned hrest
    rw [hminus]
    exact ⟨.number (.minus hunsigned), length_lt_behind _ _ _⟩
  · refine hafter h fun rest hrest => ?_
    obtain ⟨t, hunsigned, heq⟩ := unsigned_of_skipUnsigned hrest
    rw [heq]
    obtain ⟨c, t, rfl, -⟩ := hunsigned.exists_cons
    exact ⟨.number (.plain hunsigned), length_lt_behind _ _ _⟩
  · refine hafter h fun rest hrest => ?_
    rw [hquote]
    have hquoted := skipTextBody_eq_ok.mp hrest
    exact ⟨.text hquoted, hquoted.shorter⟩
  · subst hbracket
    exact .list h
  · subst hbrace
    exact .object h
  · cases h

theorem valueIn_of_skipToken {stack : List Frame} {step : SkipStep}
    (h : skipToken stack bs = .ok step) (hstep : step.Leads rest) : ValueIn stack bs rest := by
  have hblanks := blanks_skipBlanks bs
  have htoken := firstToken_of_skipToken h
  generalize skipBlanks bs = bs₁ at hblanks htoken
  cases htoken with
  | @scalar _ mid htext _ hclosings =>
    exact ⟨bs₁, mid, hblanks, htext, closes_of_skipClosings hclosings hstep⟩
  | list hclosings =>
    obtain ⟨is, mid, hitems, hcloses⟩ := closes_of_skipClosings hclosings hstep
    exact ⟨_, mid, hblanks, .list hitems, hcloses⟩
  | object hclosings =>
    obtain ⟨is, mid, hitems, hcloses⟩ := closes_of_skipClosings hclosings hstep
    exact ⟨_, mid, hblanks, .object hitems, hcloses⟩

theorem valueIn_of_skipSteps {fuel : Nat} {stack : List Frame}
    (h : skipSteps fuel stack bs = .ok rest) : ValueIn stack bs rest := by
  induction fuel generalizing stack bs with
  | zero => cases h
  | succ fuel ih =>
    unfold skipSteps at h
    split at h
    · cases h
    · rename_i after hstep
      exact valueIn_of_skipToken hstep (Except.ok.inj h)
    · rename_i stack' bs' hstep
      exact valueIn_of_skipToken hstep (ih h)

/-! ### Every step takes a byte -/

theorem length_le_of_skipToValue {frame : Frame} {stack stack' : List Frame}
    (h : skipToValue frame stack bs = .ok (.value stack' rest)) : rest.length ≤ bs.length := by
  cases frame with
  | list =>
    obtain ⟨-, rfl⟩ := SkipStep.value.inj (Except.ok.inj h)
    exact Nat.le_refl _
  | object =>
    unfold skipToValue at h
    dsimp only at h
    split at h
    · cases h
    rename_i after hname
    obtain ⟨-, rfl⟩ := SkipStep.value.inj (Except.ok.inj h)
    obtain ⟨bs₁, bs₂, hblanks, ⟨t, -, rfl⟩, hcolon⟩ := skipName_eq_ok.mp hname
    have hle := hblanks.length_le
    have hle' := hcolon.length_le
    simp only [List.length_cons, List.length_append] at hle hle'
    omega

theorem length_le_of_skipClosings {comma : Bool} {stack stack' : List Frame}
    (h : skipClosings comma stack bs = .ok (.value stack' rest)) : rest.length ≤ bs.length := by
  induction stack generalizing comma bs with
  | nil => cases h
  | cons frame stack ih =>
    unfold skipClosings at h
    split at h
    · cases h
    rename_i b more hskip
    have hle := (blanks_of_skipBlanks hskip).1.length_le
    rw [List.length_cons] at hle
    split_ifs at h
    · have := length_le_of_skipToValue h
      omega
    · have := ih h
      omega
    · cases h
    · have := length_le_of_skipToValue h
      rw [List.length_cons] at this
      omega

theorem length_lt_of_skipToken {stack stack' : List Frame}
    (h : skipToken stack bs = .ok (.value stack' rest)) : rest.length < bs.length := by
  have hle := (blanks_skipBlanks bs).length_le
  have htoken := firstToken_of_skipToken h
  generalize skipBlanks bs = bs₁ at hle htoken
  cases htoken with
  | scalar _ hlt hclosings =>
    have := length_le_of_skipClosings hclosings
    omega
  | list hclosings =>
    have := length_le_of_skipClosings hclosings
    rw [List.length_cons] at hle
    omega
  | object hclosings =>
    have := length_le_of_skipClosings hclosings
    rw [List.length_cons] at hle
    omega

/-- With more steps than bytes it does not matter how many there are. -/
theorem skipSteps_of_length_lt {fuel fuel' : Nat} {stack : List Frame}
    (h : skipSteps fuel stack bs = .ok rest) (hfuel' : bs.length < fuel') :
    skipSteps fuel' stack bs = .ok rest := by
  induction fuel generalizing fuel' stack bs with
  | zero => cases h
  | succ fuel ih =>
    obtain ⟨fuel', rfl⟩ := Nat.exists_eq_succ_of_ne_zero (Nat.ne_of_gt (Nat.zero_lt_of_lt hfuel'))
    unfold skipSteps at h ⊢
    split at h
    · cases h
    · rename_i hstep
      exact h
    · rename_i hstep
      have hlt := length_lt_of_skipToken hstep
      exact ih h (by omega)

/-! ### Every value is passed over -/

/-- Passing over comes to an end, and there. -/
def Skips (stack : List Frame) (bs rest : List UInt8) : Prop :=
  ∃ fuel, skipSteps fuel stack bs = .ok rest

/-- So it does from where a step has led. -/
def SkipStep.GoesOn : SkipStep → List UInt8 → Prop
  | .done after, rest => after = rest
  | .value stack bs, rest => Skips stack bs rest

/-- So does passing over from behind a value, or from behind an opening bracket. -/
def SkipsOn (first : Bool) (stack : List Frame) (bs rest : List UInt8) : Prop :=
  ∃ step, skipClosings (!first) stack bs = .ok step ∧ step.GoesOn rest

theorem skips_of_skipToken {stack : List Frame} {step : SkipStep}
    (h : skipToken stack bs = .ok step) (hstep : step.GoesOn rest) : Skips stack bs rest := by
  cases step with
  | done after =>
    obtain rfl : after = rest := hstep
    exact ⟨1, by simp only [skipSteps, h]⟩
  | value stack' bs' =>
    obtain ⟨fuel, hfuel⟩ := hstep
    exact ⟨fuel + 1, by simp only [skipSteps, h, hfuel]⟩

theorem SkipsOn.close {first : Bool} (frame : Frame) {stack : List Frame} {mid : List UInt8}
    (hblanks : Blanks bs (frame.closing :: mid)) (h : SkipsOn false stack mid rest) :
    SkipsOn first (frame :: stack) bs rest := by
  obtain ⟨step, hstep, hgoes⟩ := h
  refine ⟨step, ?_, hgoes⟩
  have hskip : skipBlanks bs = frame.closing :: mid :=
    hblanks.skipBlanks_eq (by cases frame <;> decide)
  have hcomma : frame.closing ≠ Byte.comma := by cases frame <;> decide
  simpa [skipClosings, hskip, hcomma] using hstep

theorem AnyText.starts {i : Unit} (h : AnyText i bs rest) : StartsItem bs := by
  cases h with
  | null => exact ⟨_, _, rfl, by decide, by decide⟩
  | bool h => cases h <;> exact ⟨_, _, rfl, by decide, by decide⟩
  | number h =>
    obtain ⟨b, more, rfl, hb⟩ := h.starts
    exact startsItem_of_startsNumber hb _
  | text h =>
    obtain ⟨t, -, rfl⟩ := h
    exact ⟨_, _, rfl, by decide, by decide⟩
  | list => exact ⟨_, _, rfl, by decide, by decide⟩
  | object => exact ⟨_, _, rfl, by decide, by decide⟩

/-- An item does not start like the end of its structure. -/
theorem Frame.Heading.starts {frame : Frame} {bs₁ bs₂ : List UInt8}
    (h : frame.Heading () bs₁ bs₂) (hitem : StartsItem bs₂) :
    ∃ b more, bs₁ = b :: more ∧ isJsonBlank b = false ∧ b ≠ frame.closing := by
  cases frame with
  | list =>
    obtain rfl : bs₁ = bs₂ := h
    exact hitem
  | object =>
    obtain ⟨bs₃, bs₄, ⟨t, -, rfl⟩, -, -⟩ := h
    exact ⟨_, _, rfl, by decide, by decide⟩

theorem skipToValue_heading {frame : Frame} {bs₁ bs₂ : List UInt8} (hblanks : Blanks bs bs₁)
    (h : frame.Heading () bs₁ bs₂) (stack : List Frame) :
    ∃ after, skipToValue frame stack bs = .ok (.value (frame :: stack) after) ∧
      Blanks after bs₂ := by
  cases frame with
  | list =>
    obtain rfl : bs₁ = bs₂ := h
    exact ⟨bs, rfl, hblanks⟩
  | object =>
    obtain ⟨bs₃, bs₄, hquoted, hcolon, hafter⟩ := h
    have hname := skipName_eq_ok.mpr ⟨bs₁, bs₃, hblanks, hquoted, hcolon⟩
    exact ⟨bs₄, by simp only [skipToValue, hname], hafter⟩

theorem SkipsOn.item {first : Bool} (frame : Frame) {stack : List Frame}
    {bs₁ bs₂ : List UInt8} (hahead : Ahead first bs bs₁) (hhead : frame.Heading () bs₁ bs₂)
    (hitem : StartsItem bs₂) (h : ∀ after, Blanks after bs₂ → Skips (frame :: stack) after rest) :
    SkipsOn first (frame :: stack) bs rest := by
  cases hahead with
  | first hblanks =>
    obtain ⟨b, more, rfl, hb, hclose⟩ := Frame.Heading.starts hhead hitem
    obtain ⟨after, hstep, hafter⟩ := skipToValue_heading (.refl _) hhead stack
    refine ⟨.value (frame :: stack) after, ?_, h after hafter⟩
    simp [skipClosings, hblanks.skipBlanks_eq hb, hclose, hstep]
  | comma hcomma hblanks =>
    obtain ⟨after, hstep, hafter⟩ := skipToValue_heading hblanks hhead stack
    refine ⟨.value (frame :: stack) after, ?_, h after hafter⟩
    simp [skipClosings, hcomma.skipBlanks_eq (b := Byte.comma) (by decide), hstep]

section Tokens

variable {stack : List Frame} {mid : List UInt8}

theorem skipToken_null (h : skipBlanks bs = Byte.lowerN :: (afterN ++ mid)) :
    skipToken stack bs = skipClosings true stack mid := by
  simp only [skipToken, h, if_true, readWord_eq_ok.mpr rfl]

theorem skipToken_bool {b : Bool} (h : BoolText b (skipBlanks bs) mid) :
    skipToken stack bs = skipClosings true stack mid := by
  unfold skipToken
  generalize skipBlanks bs = bs₁ at h ⊢
  cases h with
  | true =>
    have hn : Byte.lowerT ≠ Byte.lowerN := by decide
    simp only [hn, if_false, if_true, readWord_eq_ok.mpr rfl]
  | false =>
    have hn : Byte.lowerF ≠ Byte.lowerN ∧ Byte.lowerF ≠ Byte.lowerT := by decide
    simp only [hn, if_false, if_true, readWord_eq_ok.mpr rfl]

theorem skipToken_number {t : List UInt8} (ht : Numeral t) (h : skipBlanks bs = t ++ mid)
    (hmid : EndsNumber mid) : skipToken stack bs = skipClosings true stack mid := by
  unfold skipToken
  rw [h]
  cases ht with
  | plain ht =>
    have hskip := skipUnsigned_unsigned ht hmid
    obtain ⟨b, more, rfl, hb⟩ := ht.exists_cons
    have hwords := not_word_of_startsNumber (b := b) (by simp [startsNumber, hb])
    rw [List.cons_append] at hskip ⊢
    simp only [hwords, ne_minus_of_digit hb, hb, if_false, if_true, hskip]
  | minus ht =>
    have hwords : Byte.minus ≠ Byte.lowerN ∧ Byte.minus ≠ Byte.lowerT ∧
        Byte.minus ≠ Byte.lowerF := by decide
    simp only [List.cons_append, hwords, if_false, if_true, skipUnsigned_unsigned ht hmid]

theorem skipToken_quoted (h : AnyQuoted (skipBlanks bs) mid) :
    skipToken stack bs = skipClosings true stack mid := by
  unfold skipToken
  generalize skipBlanks bs = bs₁ at h ⊢
  obtain ⟨t, -, rfl⟩ := id h
  have hmarks : Byte.quote ≠ Byte.lowerN ∧ Byte.quote ≠ Byte.lowerT ∧ Byte.quote ≠ Byte.lowerF ∧
      Byte.quote ≠ Byte.minus ∧ (digit? Byte.quote).isSome = false := by decide
  simp [hmarks, skipTextBody_eq_ok.mpr h]

theorem skipToken_openBracket {more : List UInt8}
    (h : skipBlanks bs = Byte.openBracket :: more) :
    skipToken stack bs = skipClosings false (.list :: stack) more := by
  have hmarks : Byte.openBracket ≠ Byte.lowerN ∧ Byte.openBracket ≠ Byte.lowerT ∧
      Byte.openBracket ≠ Byte.lowerF ∧ Byte.openBracket ≠ Byte.minus ∧
      (digit? Byte.openBracket).isSome = false ∧ Byte.openBracket ≠ Byte.quote := by decide
  simp [skipToken, h, hmarks]

theorem skipToken_openBrace {more : List UInt8} (h : skipBlanks bs = Byte.openBrace :: more) :
    skipToken stack bs = skipClosings false (.object :: stack) more := by
  have hmarks : Byte.openBrace ≠ Byte.lowerN ∧ Byte.openBrace ≠ Byte.lowerT ∧
      Byte.openBrace ≠ Byte.lowerF ∧ Byte.openBrace ≠ Byte.minus ∧
      (digit? Byte.openBrace).isSome = false ∧ Byte.openBrace ≠ Byte.quote ∧
      Byte.openBrace ≠ Byte.openBracket := by decide
  simp [skipToken, h, hmarks]

/-- Passing over goes on behind the first token. -/
theorem SkipsOn.skips {first : Bool} {stack' : List Frame} (h : SkipsOn first stack' mid rest)
    (htoken : skipToken stack bs = skipClosings (!first) stack' mid) : Skips stack bs rest := by
  obtain ⟨step, hstep, hgoes⟩ := h
  exact skips_of_skipToken (htoken.trans hstep) hgoes

end Tokens

mutual

theorem AnyText.skips : ∀ {i : Unit} {bs₁ mid bs rest : List UInt8} {stack : List Frame},
    AnyText i bs₁ mid → Blanks bs bs₁ → EndsNumber mid → SkipsOn false stack mid rest →
      Skips stack bs rest
  | _, _, _, _, _, _, .null, hblanks, _, hon =>
    hon.skips (skipToken_null (hblanks.skipBlanks_eq (by decide)))
  | _, _, _, _, _, _, .bool h, hblanks, _, hon =>
    hon.skips (skipToken_bool (by rwa [(AnyText.bool h).starts.skipBlanks_eq hblanks]))
  | _, _, _, _, _, _, .number h, hblanks, hmid, hon =>
    hon.skips (skipToken_number h ((AnyText.number h).starts.skipBlanks_eq hblanks) hmid)
  | _, _, _, _, _, _, .text h, hblanks, _, hon =>
    hon.skips (skipToken_quoted (by rwa [(AnyText.text h).starts.skipBlanks_eq hblanks]))
  | _, _, _, _, _, _, .list h, hblanks, _, hon =>
    (h.skipsOn_list hon).skips (skipToken_openBracket (hblanks.skipBlanks_eq (by decide)))
  | _, _, _, _, _, _, .object h, hblanks, _, hon =>
    (h.skipsOn_object hon).skips (skipToken_openBrace (hblanks.skipBlanks_eq (by decide)))

theorem Items.skipsOn_list : ∀ {first : Bool} {is : List Unit} {bs mid rest : List UInt8}
    {stack : List Frame}, Items Byte.closeBracket NoHeading AnyText first is bs mid →
      SkipsOn false stack mid rest → SkipsOn first (.list :: stack) bs rest
  | _, _, _, _, _, _, .close hblanks, hon => .close .list hblanks hon
  | _, _, _, _, _, _, .item hahead hhead hitem hmore, hon =>
    .item .list hahead hhead hitem.starts fun _ hafter =>
      hitem.skips hafter (hmore.endsNumber endsNumber_closeBracket) (hmore.skipsOn_list hon)

theorem Items.skipsOn_object : ∀ {first : Bool} {is : List Unit} {bs mid rest : List UInt8}
    {stack : List Frame},
    Items Byte.closeBrace (NameAnd fun _ => AnyQuoted) AnyText first is bs mid →
      SkipsOn false stack mid rest → SkipsOn first (.object :: stack) bs rest
  | _, _, _, _, _, _, .close hblanks, hon => .close .object hblanks hon
  | _, _, _, _, _, _, .item hahead hhead hitem hmore, hon =>
    .item .object hahead hhead hitem.starts fun _ hafter =>
      hitem.skips hafter (hmore.endsNumber endsNumber_closeBrace) (hmore.skipsOn_object hon)

end

/-- Behind blanks, the value that is passed over ends before what is left. -/
theorem anyText_of_valueIn (h : ValueIn [] bs rest) : AnyText () (skipBlanks bs) rest := by
  obtain ⟨bs₁, mid, hblanks, hvalue, rfl⟩ := h
  rwa [hvalue.starts.skipBlanks_eq hblanks]

mutual

theorem AnyText.shorter : ∀ {i : Unit} {bs rest : List UInt8}, AnyText i bs rest →
    rest.length < bs.length
  | _, _, _, .null => length_lt_behind _ _ _
  | _, _, _, .bool h => h.shorter
  | _, _, _, .number h => h.shorter _
  | _, _, _, .text h => h.shorter
  | _, _, _, .list h => Nat.lt_succ_of_lt h.shorter_list
  | _, _, _, .object h => Nat.lt_succ_of_lt h.shorter_object

theorem Items.shorter_list : ∀ {first : Bool} {is : List Unit} {bs rest : List UInt8},
    Items Byte.closeBracket NoHeading AnyText first is bs rest → rest.length < bs.length
  | _, _, _, _, .close h => h.length_le
  | _, _, _, _, .item hahead hhead hitem hmore =>
    calc _ < _ := hmore.shorter_list
      _ < _ := hitem.shorter
      _ ≤ _ := NoHeading.length_le hhead
      _ ≤ _ := Nat.le_of_add_right_le hahead.length_le

theorem Items.shorter_object : ∀ {first : Bool} {is : List Unit} {bs rest : List UInt8},
    Items Byte.closeBrace (NameAnd fun _ => AnyQuoted) AnyText first is bs rest →
      rest.length < bs.length
  | _, _, _, _, .close h => h.length_le
  | _, _, _, _, .item hahead hhead hitem hmore =>
    calc _ < _ := hmore.shorter_object
      _ < _ := hitem.shorter
      _ ≤ _ := NameAnd.length_le AnyQuoted.shorter hhead
      _ ≤ _ := Nat.le_of_add_right_le hahead.length_le

end

/-- Any value is passed over, however deep it nests, and nothing else. -/
theorem reads_any : Reads skipValue AnyText where
  starts h := h.starts
  shorter h := h.shorter
  sound h := by
    unfold skipValue at h
    split at h
    · cases h
    · rename_i hsteps
      obtain ⟨rfl, rfl⟩ := Prod.mk.inj (Except.ok.inj h)
      exact anyText_of_valueIn (valueIn_of_skipSteps hsteps)
  complete {_ bs rest} h hrest := by
    have hend : SkipsOn false [] rest rest := ⟨.done rest, rfl, rfl⟩
    obtain ⟨fuel, hfuel⟩ := h.skips (blanks_skipBlanks bs) hrest hend
    have hsteps := skipSteps_of_length_lt hfuel (Nat.lt_succ_self _)
    simp only [skipValue, hsteps]

end Dialogue.Json
