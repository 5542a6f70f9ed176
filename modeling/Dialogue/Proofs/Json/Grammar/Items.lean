/-
Lists and objects are read by their grammar.

The reader of an item is left open.  If it reads the texts of items and nothing else (`Reads`),
the reader of a list reads the texts of lists; and so it is with the members of an object, where
each member takes the reader from one state to another.
-/
import Dialogue.Proofs.Json.Grammar.Token

namespace Dialogue.Json

variable {α ι σ : Type} {bs rest : List UInt8}

/-! ### Blanks -/

theorem Blanks.refl (bs : List UInt8) : Blanks bs bs := ⟨[], by simp [Blank], rfl⟩

theorem Blanks.trans {mid : List UInt8} (h : Blanks bs mid) (h' : Blanks mid rest) :
    Blanks bs rest := by
  obtain ⟨ws, hws, rfl⟩ := h
  obtain ⟨ws', hws', rfl⟩ := h'
  refine ⟨ws ++ ws', fun b hb => ?_, by simp⟩
  rcases List.mem_append.mp hb with hb | hb
  · exact hws b hb
  · exact hws' b hb

theorem blanks_skipBlanks (bs : List UInt8) : Blanks bs (skipBlanks bs) :=
  ⟨bs.takeWhile isJsonBlank, List.all_eq_true.mp List.all_takeWhile,
    List.takeWhile_append_dropWhile.symm⟩

theorem Blanks.length_le (h : Blanks bs rest) : rest.length ≤ bs.length := by
  obtain ⟨ws, -, rfl⟩ := h
  simp

theorem Blanks.skipBlanks_eq {b : UInt8} (h : Blanks bs (b :: rest))
    (hb : isJsonBlank b = false) : skipBlanks bs = b :: rest := by
  obtain ⟨ws, hws, rfl⟩ := h
  exact skipBlanks_append hws hb

theorem blanks_of_skipBlanks {b : UInt8} (h : skipBlanks bs = b :: rest) :
    Blanks bs (b :: rest) ∧ isJsonBlank b = false := by
  refine ⟨h ▸ blanks_skipBlanks bs, ?_⟩
  have hhead := List.head?_dropWhile_not isJsonBlank bs
  rw [← skipBlanks, h] at hhead
  simpa using hhead

theorem StartsItem.skipBlanks_eq {bs' : List UInt8} (h : StartsItem bs') (hbs : Blanks bs bs') :
    skipBlanks bs = bs' := by
  obtain ⟨b, more, rfl, hb, -⟩ := h
  exact hbs.skipBlanks_eq hb

theorem Blanks.endsNumber (h : Blanks bs rest) (hrest : EndsNumber rest) : EndsNumber bs := by
  obtain ⟨ws, hws, rfl⟩ := h
  cases ws with
  | nil => exact hrest
  | cons w ws =>
    exact endsNumber_cons.mpr (not_in_number_of_blank (hws w List.mem_cons_self))

/-! ### What reads the texts of a kind -/

/-- The reader reads texts of the kind, and nothing else.  A text is neither empty, nor does it
look like a blank or the end of a list. -/
structure Reads (read : Reader α) (T : Texts α) : Prop where
  starts : ∀ {a bs rest}, T a bs rest → StartsItem bs
  shorter : ∀ {a bs rest}, T a bs rest → rest.length < bs.length
  sound : ∀ {a bs rest}, read bs = .ok (a, rest) → T a (skipBlanks bs) rest
  complete : ∀ {a bs rest}, T a (skipBlanks bs) rest → EndsNumber rest → read bs = .ok (a, rest)

theorem skipBlanks_eq_nil : skipBlanks bs = [] ↔ Blanks bs [] := by
  constructor
  · exact fun h => h ▸ blanks_skipBlanks bs
  · rintro ⟨ws, hws, rfl⟩
    exact List.dropWhile_append_of_pos hws

/-- A reader reads a whole text if nothing but blanks is left. -/
theorem Reads.readWhole_eq_ok {read : Reader α} {T : Texts α} (h : Reads read T) {a : α} :
    readWhole read bs = .ok a ↔ WholeText T a bs := by
  constructor
  · intro hread
    unfold readWhole at hread
    split at hread
    · cases hread
    rename_i r a' rest heq
    split at hread
    · rename_i hrest
      obtain rfl := Except.ok.inj hread
      exact ⟨_, rest, blanks_skipBlanks bs, h.sound heq, skipBlanks_eq_nil.mp hrest⟩
    · cases hread
  · rintro ⟨bs₁, rest, hbs, ha, hrest⟩
    rw [← (h.starts ha).skipBlanks_eq hbs] at ha
    rw [readWhole, h.complete ha (hrest.endsNumber endsNumber_nil)]
    simp only [skipBlanks_eq_nil.mpr hrest]
    rfl

/-! ### Items -/

theorem nextItem_eq_true {first : Bool} :
    nextItem first bs = .ok (true, rest) ↔ Ahead first bs rest ∧ StartsItem rest := by
  constructor
  · intro h
    unfold nextItem at h
    split at h
    · cases h
    rename_i b more hskip
    obtain ⟨hblanks, hb⟩ := blanks_of_skipBlanks hskip
    split_ifs at h with hclose hfirst hcomma
    · cases h
    · obtain rfl := (Prod.mk.inj (Except.ok.inj h)).2
      subst hfirst
      exact ⟨.first hblanks, b, more, rfl, hb, hclose⟩
    · split at h
      · cases h
      rename_i c more' hskip'
      obtain ⟨hblanks', hc⟩ := blanks_of_skipBlanks hskip'
      split_ifs at h with hclose'
      · cases h
      · obtain rfl := (Prod.mk.inj (Except.ok.inj h)).2
        obtain rfl := eq_false_of_ne_true hfirst
        subst hcomma
        exact ⟨.comma hblanks hblanks', c, more', rfl, hc, hclose'⟩
    · cases h
  · rintro ⟨hahead, hstarts⟩
    obtain ⟨b, more, rfl, hb, hclose⟩ := id hstarts
    cases hahead with
    | first h => simp [nextItem, hstarts.skipBlanks_eq h, hclose]
    | comma h h' =>
      have hbracket : Byte.comma ≠ Byte.closeBracket := by decide
      simp [nextItem, h.skipBlanks_eq (by decide), hstarts.skipBlanks_eq h', hclose, hbracket]

theorem nextItem_eq_false {first : Bool} : nextItem first bs = .ok (false, rest) ↔
    Blanks bs rest ∧ ∃ more, rest = Byte.closeBracket :: more := by
  constructor
  · intro h
    unfold nextItem at h
    split at h
    · cases h
    rename_i b more hskip
    split_ifs at h with hclose
    · obtain rfl := (Prod.mk.inj (Except.ok.inj h)).2
      exact ⟨(blanks_of_skipBlanks hskip).1, more, by rw [hclose]⟩
    · cases h
    · split at h
      · cases h
      · split_ifs at h <;> cases h
    · cases h
  · rintro ⟨hblanks, more, rfl⟩
    simp [nextItem, hblanks.skipBlanks_eq (b := Byte.closeBracket) (by decide)]

theorem Ahead.length_le {first : Bool} (h : Ahead first bs rest) :
    rest.length + (if first then 0 else 1) ≤ bs.length := by
  cases h with
  | first h => simpa using h.length_le
  | comma h h' =>
    have hle := h.length_le
    have hle' := h'.length_le
    rw [List.length_cons] at hle
    simp
    omega

section Items

variable {close : UInt8} {H T : Texts ι} {first : Bool} {is : List ι}

/-- There are at least as many bytes as items, and a closing bracket. -/
theorem Items.length_lt (hH : ∀ {i bs rest}, H i bs rest → rest.length ≤ bs.length)
    (hT : ∀ {i bs rest}, T i bs rest → rest.length < bs.length)
    (h : Items close H T first is bs rest) : is.length + rest.length < bs.length := by
  induction h with
  | close h =>
    have hle := h.length_le
    rw [List.length_cons] at hle
    rw [List.length_nil]
    omega
  | item hahead hhead hitem _ ih =>
    have hle := hahead.length_le
    have hle' := hH hhead
    have hlt := hT hitem
    rw [List.length_cons]
    omega

/-- What stands behind an item ends a number. -/
theorem Items.endsNumber (hclose : EndsNumber [close]) (h : Items close H T false is bs rest) :
    EndsNumber bs := by
  cases h with
  | close h => exact h.endsNumber (endsNumber_cons.mpr (endsNumber_cons.mp hclose))
  | item hahead _ _ _ =>
    cases hahead with
    | comma h _ => exact h.endsNumber (endsNumber_cons.mpr (by decide))

end Items

/-! ### Lists -/

theorem NoHeading.length_le {i : ι} (h : NoHeading i bs rest) : rest.length ≤ bs.length :=
  Nat.le_of_eq (congrArg List.length (Eq.symm h))

theorem endsNumber_closeBracket : EndsNumber [Byte.closeBracket] :=
  endsNumber_cons.mpr (by decide)

theorem readItems_sound {item : Reader α} {T : Texts α} (hitem : Reads item T) {fuel : Nat}
    {first : Bool} {acc as : List α} (h : readItems item fuel first acc bs = .ok (as, rest)) :
    ∃ more as', rest = Byte.closeBracket :: more ∧ as = acc.reverse ++ as' ∧
      Items Byte.closeBracket NoHeading T first as' bs more := by
  induction fuel generalizing first acc bs with
  | zero => cases h
  | succ fuel ih =>
    unfold readItems at h
    split at h
    · cases h
    · rename_i after hnext
      obtain ⟨hblanks, more, rfl⟩ := nextItem_eq_false.mp hnext
      obtain ⟨rfl, rfl⟩ := Prod.mk.inj (Except.ok.inj h)
      exact ⟨more, [], rfl, by simp, .close hblanks⟩
    · rename_i after hnext
      obtain ⟨hahead, hstarts⟩ := nextItem_eq_true.mp hnext
      split at h
      · cases h
      · rename_i a after' hread
        have ha := hitem.sound hread
        rw [hstarts.skipBlanks_eq (.refl after)] at ha
        obtain ⟨more, as', rfl, rfl, hmore⟩ := ih h
        exact ⟨more, a :: as', rfl, by simp, .item hahead rfl ha hmore⟩

theorem readItems_complete {item : Reader α} {T : Texts α} (hitem : Reads item T) {first : Bool}
    {as : List α} (h : Items Byte.closeBracket NoHeading T first as bs rest) {fuel : Nat}
    (hfuel : as.length < fuel) (acc : List α) :
    readItems item fuel first acc bs = .ok (acc.reverse ++ as, Byte.closeBracket :: rest) := by
  induction h generalizing fuel acc with
  | close h =>
    obtain ⟨fuel, rfl⟩ := Nat.exists_eq_succ_of_ne_zero (Nat.ne_of_gt hfuel)
    rw [readItems, nextItem_eq_false.mpr ⟨h, _, rfl⟩]
    simp
  | @item first a as bs bs₁ bs₂ bs₃ rest hahead hhead ha hmore ih =>
    obtain ⟨fuel, rfl⟩ := Nat.exists_eq_succ_of_ne_zero (Nat.ne_of_gt (Nat.zero_lt_of_lt hfuel))
    obtain rfl : bs₁ = bs₂ := hhead
    have hstarts := hitem.starts ha
    have hread : item bs₁ = .ok (a, bs₃) := by
      refine hitem.complete ?_ (hmore.endsNumber endsNumber_closeBracket)
      rwa [hstarts.skipBlanks_eq (.refl bs₁)]
    rw [readItems, nextItem_eq_true.mpr ⟨hahead, hstarts⟩]
    simp only [hread]
    rw [ih (by simpa using hfuel)]
    simp

theorem closeList_closeBracket (rest : List UInt8) :
    closeList (Byte.closeBracket :: rest) = (none, rest) := by
  simp [closeList, skipBlanks_closeBracket]

theorem readListBody_eq_ok {item : Reader α} {T : Texts α} (hitem : Reads item T)
    {as : List α} : readListBody item bs = .ok (as, rest) ↔
      Items Byte.closeBracket NoHeading T true as bs rest := by
  rw [readListBody, closing_eq_ok]
  constructor
  · rintro ⟨more, hread, hclose⟩
    obtain ⟨more', as', rfl, rfl, hitems⟩ := readItems_sound hitem hread
    rw [closeList_closeBracket] at hclose
    obtain rfl := (Prod.mk.inj hclose).2
    exact hitems
  · intro h
    have hlt := h.length_lt NoHeading.length_le hitem.shorter
    exact ⟨_, readItems_complete hitem h (by omega) [], closeList_closeBracket rest⟩

theorem ListText.starts {T : Texts ι} {is : List ι} (h : ListText T is bs rest) :
    ∃ more, bs = Byte.openBracket :: more := by
  cases h with
  | intro _ => exact ⟨_, rfl⟩

theorem ListText.startsItem {T : Texts ι} {is : List ι} (h : ListText T is bs rest) :
    StartsItem bs := by
  obtain ⟨more, rfl⟩ := h.starts
  exact ⟨_, more, rfl, by decide, by decide⟩

theorem ListText.shorter {T : Texts ι} (hT : ∀ {i bs rest}, T i bs rest → rest.length < bs.length)
    {is : List ι} (h : ListText T is bs rest) : rest.length < bs.length := by
  cases h with
  | intro h =>
    have hlt := h.length_lt NoHeading.length_le hT
    rw [List.length_cons]
    omega

/-! ### Objects -/

theorem nextName_eq_some {first : Bool} {name : String} :
    nextName first bs = .ok (some name, rest) ↔
      ∃ bs₁, Ahead first bs bs₁ ∧ TextOf name bs₁ rest := by
  have hnamed : ∀ {more : List UInt8}, ((readTextBody more).map fun r => (some r.1, r.2)) =
      .ok (some name, rest) ↔ TextOf name (Byte.quote :: more) rest := by
    intro more
    rw [← readTextBody_eq_ok]
    cases readTextBody more with
    | error f => simp [Except.map]
    | ok r => simp [Except.map, Prod.ext_iff]
  constructor
  · intro h
    unfold nextName at h
    dsimp only at h
    split at h
    · cases h
    rename_i b more hskip
    obtain ⟨hblanks, -⟩ := blanks_of_skipBlanks hskip
    split_ifs at h with hclose hfirst hquote hcomma
    · cases h
    · subst hfirst hquote
      exact ⟨_, .first hblanks, hnamed.mp h⟩
    · cases h
    · split at h
      · cases h
      rename_i c more' hskip'
      obtain ⟨hblanks', -⟩ := blanks_of_skipBlanks hskip'
      obtain rfl := eq_false_of_ne_true hfirst
      split_ifs at h with hquote hclose'
      · subst hcomma hquote
        exact ⟨_, .comma hblanks hblanks', hnamed.mp h⟩
      · cases h
      · cases h
    · cases h
  · rintro ⟨bs₁, hahead, htext⟩
    obtain ⟨t, -, hbs₁⟩ := id htext
    subst hbs₁
    have hquote : Byte.quote ≠ Byte.closeBrace := by decide
    cases hahead with
    | first h =>
      have hskip := h.skipBlanks_eq (by decide)
      simp [nextName, hskip, hquote, hnamed.mpr htext]
    | comma h h' =>
      have hcomma : Byte.comma ≠ Byte.closeBrace := by decide
      have hskip := h.skipBlanks_eq (by decide)
      have hskip' := h'.skipBlanks_eq (by decide)
      simp [nextName, hskip, hskip', hcomma, hnamed.mpr htext]

theorem nextName_eq_none {first : Bool} : nextName first bs = .ok (none, rest) ↔
    Blanks bs rest ∧ ∃ more, rest = Byte.closeBrace :: more := by
  have hnamed : ∀ {more : List UInt8}, ((readTextBody more).map fun r => (some r.1, r.2)) ≠
      .ok ((none : Option String), rest) := by
    intro more h
    obtain ⟨r, -, hr⟩ := map_eq_ok h
    cases (Prod.mk.inj hr).1
  constructor
  · intro h
    unfold nextName at h
    dsimp only at h
    split at h
    · cases h
    rename_i b more hskip
    split_ifs at h with hclose hfirst hquote hcomma
    · obtain rfl := (Prod.mk.inj (Except.ok.inj h)).2
      exact ⟨(blanks_of_skipBlanks hskip).1, more, by rw [hclose]⟩
    · exact absurd h hnamed
    · cases h
    · split at h
      · cases h
      split_ifs at h
      · exact absurd h hnamed
      · cases h
      · cases h
    · cases h
  · rintro ⟨hblanks, more, rfl⟩
    simp [nextName, hblanks.skipBlanks_eq (b := Byte.closeBrace) (by decide)]

theorem behindColon_eq_ok {read : Reader α} {a : α} : behindColon read bs = .ok (a, rest) ↔
    ∃ bs₁, Blanks bs (Byte.colon :: bs₁) ∧ read bs₁ = .ok (a, rest) := by
  constructor
  · intro h
    unfold behindColon readColon at h
    cases hskip : skipBlanks bs with
    | nil =>
      rw [hskip] at h
      cases h
    | cons b more =>
      rw [hskip] at h
      by_cases hcolon : b = Byte.colon
      · subst hcolon
        exact ⟨more, (blanks_of_skipBlanks hskip).1, by simpa using h⟩
      · simp [hcolon, failAhead] at h
  · rintro ⟨bs₁, hblanks, hread⟩
    simp [behindColon, readColon, hblanks.skipBlanks_eq (b := Byte.colon) (by decide), hread]

/-- The reader of a member takes members of that name, from one state to another.  Behind the
name there is a colon, and then the text of the member. -/
structure TakesMembers (member : String → σ → Reader σ) (name : ι → String) (T : Texts ι)
    (take : σ → ι → Option σ) : Prop where
  shorter : ∀ {i bs rest}, T i bs rest → rest.length < bs.length
  sound : ∀ {n s s' bs rest}, member n s bs = .ok (s', rest) →
    ∃ i bs₁ bs₂, name i = n ∧ Blanks bs (Byte.colon :: bs₁) ∧ Blanks bs₁ bs₂ ∧ T i bs₂ rest ∧
      take s i = some s'
  complete : ∀ {i s s' bs bs₁ bs₂ rest}, Blanks bs (Byte.colon :: bs₁) → Blanks bs₁ bs₂ →
    T i bs₂ rest → EndsNumber rest → take s i = some s' →
      member (name i) s bs = .ok (s', rest)

theorem endsNumber_closeBrace : EndsNumber [Byte.closeBrace] :=
  endsNumber_cons.mpr (by decide)

theorem TextOf.shorter {s : String} (h : TextOf s bs rest) : rest.length < bs.length := by
  obtain ⟨t, -, rfl⟩ := h
  rw [List.append_cons]
  exact length_lt_behind _ _ rest

theorem NameAnd.length_le {N : Texts ι} (hN : ∀ {i bs rest}, N i bs rest → rest.length < bs.length)
    {i : ι} (h : NameAnd N i bs rest) : rest.length ≤ bs.length := by
  obtain ⟨bs₁, bs₂, hname, hcolon, hblanks⟩ := h
  have hlt := hN hname
  have hle := hcolon.length_le
  have hle' := hblanks.length_le
  rw [List.length_cons] at hle
  omega

namespace TakesMembers

variable {member : String → σ → Reader σ} {name : ι → String} {T : Texts ι}
  {take : σ → ι → Option σ} {s s' : σ}

theorem readMembers_sound (h : TakesMembers member name T take) {fuel : Nat} {first : Bool}
    (hread : readMembers member fuel first s bs = .ok (s', rest)) :
    ∃ more is, rest = Byte.closeBrace :: more ∧ is.foldlM take s = some s' ∧
      Items Byte.closeBrace (NameAnd fun i => TextOf (name i)) T first is bs more := by
  induction fuel generalizing first s bs with
  | zero => cases hread
  | succ fuel ih =>
    unfold readMembers at hread
    split at hread
    · cases hread
    · rename_i after hnext
      obtain ⟨hblanks, more, rfl⟩ := nextName_eq_none.mp hnext
      obtain ⟨rfl, rfl⟩ := Prod.mk.inj (Except.ok.inj hread)
      exact ⟨more, [], rfl, rfl, .close hblanks⟩
    · rename_i n after hnext
      obtain ⟨bs₁, hahead, hname⟩ := nextName_eq_some.mp hnext
      split at hread
      · cases hread
      · rename_i s₁ after' hmember
        obtain ⟨i, bs₂, bs₃, rfl, hcolon, hblanks, hi, htake⟩ := h.sound hmember
        obtain ⟨more, is, rfl, hfold, hmore⟩ := ih hread
        refine ⟨more, i :: is, rfl, ?_, .item hahead ⟨_, _, hname, hcolon, hblanks⟩ hi hmore⟩
        rw [List.foldlM_cons, htake]
        exact hfold

theorem readMembers_complete (h : TakesMembers member name T take) {first : Bool} {is : List ι}
    (hitems : Items Byte.closeBrace (NameAnd fun i => TextOf (name i)) T first is bs rest)
    {fuel : Nat} (hfuel : is.length < fuel) (hfold : is.foldlM take s = some s') :
    readMembers member fuel first s bs = .ok (s', Byte.closeBrace :: rest) := by
  induction hitems generalizing fuel s with
  | close hblanks =>
    obtain ⟨fuel, rfl⟩ := Nat.exists_eq_succ_of_ne_zero (Nat.ne_of_gt hfuel)
    obtain rfl := Option.some.inj hfold
    rw [readMembers, nextName_eq_none.mpr ⟨hblanks, _, rfl⟩]
  | item hahead hhead hi hmore ih =>
    obtain ⟨fuel, rfl⟩ := Nat.exists_eq_succ_of_ne_zero (Nat.ne_of_gt (Nat.zero_lt_of_lt hfuel))
    obtain ⟨bs₂, bs₃, hname, hcolon, hblanks⟩ := hhead
    rw [List.foldlM_cons, Option.bind_eq_bind, Option.bind_eq_some_iff] at hfold
    obtain ⟨s₁, htake, hfold⟩ := hfold
    rw [readMembers, nextName_eq_some.mpr ⟨_, hahead, hname⟩]
    simp only [h.complete hcolon hblanks hi (hmore.endsNumber endsNumber_closeBrace) htake]
    exact ih (by simpa using hfuel) hfold

/-- As many steps as there are bytes suffice. -/
theorem readMembers_eq_ok (h : TakesMembers member name T take) :
    closing closeObject (readMembers member (bs.length + 1) true s bs) = .ok (s', rest) ↔
      ∃ is, Items Byte.closeBrace (NameAnd fun i => TextOf (name i)) T true is bs rest ∧
        is.foldlM take s = some s' := by
  rw [closing_eq_ok]
  constructor
  · rintro ⟨more, hread, hclose⟩
    obtain ⟨more', is, rfl, hfold, hitems⟩ := h.readMembers_sound hread
    rw [closeObject_closeBrace] at hclose
    obtain rfl := (Prod.mk.inj hclose).2
    exact ⟨is, hitems, hfold⟩
  · rintro ⟨is, hitems, hfold⟩
    have hlt := hitems.length_lt (NameAnd.length_le TextOf.shorter) h.shorter
    exact ⟨_, h.readMembers_complete hitems (by omega) hfold, closeObject_closeBrace rest⟩

end TakesMembers

end Dialogue.Json
