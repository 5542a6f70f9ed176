/-
Numbers are read by their grammar.

A number has no mark at its end, and so two things are said of it: whatever is read has the
shape of a numeral, and a numeral that is read once is read alike wherever a number may end
(`Local`).  Digits are told in two parts, those that find room in the significand and those that
do not; `scan` is both of them together.
-/
import Dialogue.Json.Skip
import Dialogue.Proofs.Json.Grammar

namespace Dialogue.Json

variable {bs rest : List UInt8}

/-! ### Digits -/

theorem AllDigits.cons {b : UInt8} {ds : List UInt8} (hb : (digit? b).isSome = true)
    (h : AllDigits ds) : AllDigits (b :: ds) :=
  List.forall_mem_cons.mpr ⟨hb, h⟩

theorem AllDigits.append {ds es : List UInt8} (h : AllDigits ds) (h' : AllDigits es) :
    AllDigits (ds ++ es) := by
  intro b hb
  rcases List.mem_append.mp hb with hb | hb
  · exact h b hb
  · exact h' b hb

theorem dropDigits_append {ds : List UInt8} (hds : AllDigits ds)
    (hrest : startsWithDigit rest = false) (count : Nat) :
    dropDigits count (ds ++ rest) = (count + ds.length, rest) := by
  induction ds generalizing count with
  | nil =>
    cases rest with
    | nil => rfl
    | cons b rest =>
      have hb : (digit? b).isSome = false := hrest
      simp [dropDigits, hb]
  | cons d ds ih =>
    obtain ⟨hd, hds⟩ := List.forall_mem_cons.mp hds
    rw [List.cons_append, dropDigits, if_pos hd, ih hds, List.length_cons]
    simp
    omega

theorem dropDigits_of_not_digit (h : startsWithDigit bs = false) (count : Nat) :
    dropDigits count bs = (count, bs) := by
  have hnone : AllDigits [] := by simp [AllDigits]
  exact dropDigits_append hnone h count

theorem exists_dropDigits (count : Nat) (bs : List UInt8) :
    ∃ ds, AllDigits ds ∧ bs = ds ++ (dropDigits count bs).2 ∧
      (dropDigits count bs).1 = count + ds.length ∧
      startsWithDigit (dropDigits count bs).2 = false := by
  induction bs generalizing count with
  | nil => exact ⟨[], by simp [AllDigits], rfl, rfl, rfl⟩
  | cons b bs ih =>
    rw [dropDigits]
    split_ifs with hb
    · obtain ⟨ds, hds, hbs, hcount, hend⟩ := ih (count + 1)
      refine ⟨b :: ds, hds.cons hb, congrArg (b :: ·) hbs, ?_, hend⟩
      rw [hcount, List.length_cons]
      omega
    · exact ⟨[], by simp [AllDigits], rfl, rfl, eq_false_of_ne_true hb⟩

/-- The bytes do not go on with a digit for which there is room. -/
def Full (n : Nat) (bs : List UInt8) : Prop :=
  ∀ b ∈ bs.head?, ∀ d, digit? b = some d → 0x10000000000000000 ≤ n * 10 + d

theorem full_of_not_digit (h : startsWithDigit bs = false) (n : Nat) : Full n bs := by
  intro b hb d hd
  cases bs with
  | nil => cases hb
  | cons c bs =>
    obtain rfl : c = b := Option.some.inj hb
    simp [startsWithDigit, hd] at h

theorem takeDigits_of_full {n : Nat} (h : Full n bs) (count : Nat) :
    takeDigits n count bs = (n, count, bs) := by
  cases bs with
  | nil => rfl
  | cons b bs =>
    cases hd : digit? b with
    | none => simp [takeDigits, hd]
    | some d => simp [takeDigits, hd, h b rfl d hd]

/-- Digits are taken alike before anything else that stops there. -/
theorem exists_takeDigits (n count : Nat) (bs : List UInt8) :
    ∃ ds, AllDigits ds ∧ bs = ds ++ (takeDigits n count bs).2.2 ∧
      (takeDigits n count bs).2.1 = count + ds.length ∧
      Full (takeDigits n count bs).1 (takeDigits n count bs).2.2 ∧
      ∀ u, Full (takeDigits n count bs).1 u →
        takeDigits n count (ds ++ u) =
          ((takeDigits n count bs).1, (takeDigits n count bs).2.1, u) := by
  have hfull : ∀ {n bs} count, Full n bs → ∃ ds, AllDigits ds ∧
      bs = ds ++ (takeDigits n count bs).2.2 ∧
      (takeDigits n count bs).2.1 = count + ds.length ∧
      Full (takeDigits n count bs).1 (takeDigits n count bs).2.2 ∧
      ∀ u, Full (takeDigits n count bs).1 u → takeDigits n count (ds ++ u) =
        ((takeDigits n count bs).1, (takeDigits n count bs).2.1, u) := by
    intro n bs count h
    rw [takeDigits_of_full h]
    exact ⟨[], by simp [AllDigits], rfl, rfl, h, fun u hu => takeDigits_of_full hu count⟩
  induction bs generalizing n count with
  | nil => exact hfull count (by simp [Full])
  | cons b bs ih =>
    by_cases hb : Full n (b :: bs)
    · exact hfull count hb
    · simp only [Full, List.head?_cons, Option.mem_def, Option.some.injEq, forall_eq',
        not_forall, Nat.not_le] at hb
      obtain ⟨d, hd, hroom⟩ := hb
      have htake : ∀ u, takeDigits n count (b :: u) = takeDigits (n * 10 + d) (count + 1) u := by
        intro u
        simp [takeDigits, hd, Nat.not_le.mpr hroom]
      obtain ⟨ds, hds, hbs, hcount, hend, halike⟩ := ih (n * 10 + d) (count + 1)
      refine ⟨b :: ds, hds.cons (by simp [hd]), ?_, ?_, ?_, fun u hu => ?_⟩
      · rw [htake, List.cons_append, ← hbs]
      · rw [htake, hcount, List.length_cons]
        omega
      · rwa [htake]
      · rw [htake] at hu ⊢
        exact (htake _).trans (halike u hu)

/-- What is found where digits may stand: the significand of those that find room, their
number, the number of those that find none, and what stands behind all of them. -/
structure Scan where
  significand : Nat
  taken : Nat
  left : Nat
  rest : List UInt8

/-- Scans digits behind a first part `n` of the significand. -/
def scan (n : Nat) (bs : List UInt8) : Scan :=
  let r := takeDigits n 0 bs
  let s := dropDigits 0 r.2.2
  ⟨r.1, r.2.1, s.1, s.2⟩

/-- Digits are scanned alike before anything else that is no digit. -/
theorem exists_scan (n : Nat) (bs : List UInt8) :
    ∃ ds, AllDigits ds ∧ bs = ds ++ (scan n bs).rest ∧
      (scan n bs).taken + (scan n bs).left = ds.length ∧
      startsWithDigit (scan n bs).rest = false ∧
      ∀ u, startsWithDigit u = false → scan n (ds ++ u) = { scan n bs with rest := u } := by
  obtain ⟨ds, hds, hbs, htaken, hfull, halike⟩ := exists_takeDigits n 0 bs
  obtain ⟨es, hes, hafter, hleft, hend⟩ := exists_dropDigits 0 (takeDigits n 0 bs).2.2
  refine ⟨ds ++ es, hds.append hes, ?_, ?_, hend, fun u hu => ?_⟩
  · rw [List.append_assoc]
    exact hbs.trans (congrArg (ds ++ ·) hafter)
  · simp only [scan, htaken, hleft, List.length_append, Nat.zero_add]
  · have hfull' : Full (takeDigits n 0 bs).1 (es ++ u) := by
      cases es with
      | nil => exact full_of_not_digit hu _
      | cons e es =>
        rw [hafter] at hfull
        exact hfull
    simp only [scan, List.append_assoc, halike _ hfull', dropDigits_append hes hu, hleft]

/-! ### Parts of a numeral -/

theorem Digits.exists_cons {ds : List UInt8} (h : Digits ds) :
    ∃ d es, ds = d :: es ∧ (digit? d).isSome = true ∧ AllDigits es := by
  obtain ⟨hne, hds⟩ := h
  obtain ⟨d, es, rfl⟩ := List.exists_cons_of_ne_nil hne
  exact ⟨d, es, rfl, (List.forall_mem_cons.mp hds).1, (List.forall_mem_cons.mp hds).2⟩

theorem Digits.startsWithDigit {ds : List UInt8} (h : Digits ds) (rest : List UInt8) :
    startsWithDigit (ds ++ rest) = true := by
  obtain ⟨d, es, rfl, hd, -⟩ := h.exists_cons
  exact hd

theorem Digits.cons {d : UInt8} {ds : List UInt8} (hd : (digit? d).isSome = true)
    (h : AllDigits ds) : Digits (d :: ds) :=
  ⟨List.cons_ne_nil _ _, h.cons hd⟩

/-- What may follow the digits of a number. -/
theorem Exponent.not_digit {e : List UInt8} (h : Exponent e) (hrest : EndsNumber rest) :
    startsWithDigit (e ++ rest) = false := by
  cases h with
  | none => exact hrest.not_digit
  | @some b t hb _ =>
    simp only [isExponentLetter, Bool.or_eq_true, decide_eq_true_eq] at hb
    rcases hb with rfl | rfl <;> rfl

theorem Decimals.not_digit {ds e : List UInt8} (h : Decimals ds) (he : Exponent e)
    (hrest : EndsNumber rest) : Json.startsWithDigit (ds ++ (e ++ rest)) = false := by
  cases h with
  | none => exact he.not_digit hrest
  | some _ => rfl

/-- Decimals behind their point, with what follows them. -/
inductive DecimalsEnd : List UInt8 → Prop
  | intro {ds e : List UInt8} (hds : Digits ds) (he : Exponent e) : DecimalsEnd (ds ++ e)

/-- What may stand behind the whole part of a number. -/
inductive WholeEnd : List UInt8 → Prop
  | intro {ds e : List UInt8} (hds : Decimals ds) (he : Exponent e) : WholeEnd (ds ++ e)

theorem WholeEnd.not_digit {t : List UInt8} (h : WholeEnd t) (hrest : EndsNumber rest) :
    startsWithDigit (t ++ rest) = false := by
  obtain ⟨hds, he⟩ := h
  rw [List.append_assoc]
  exact hds.not_digit he hrest

theorem WholePart.unsigned {whole t : List UInt8} (hwhole : WholePart whole) (h : WholeEnd t) :
    Unsigned (whole ++ t) := by
  obtain ⟨hds, he⟩ := h
  exact .intro hwhole hds he

/-! ### Exponents -/

theorem takeExponentSign_of_digit (h : startsWithDigit bs = true) :
    takeExponentSign bs = (false, bs) := by
  cases bs with
  | nil => cases h
  | cons b bs =>
    have hb : (digit? b).isSome = true := h
    have hsigns : b ≠ Byte.plus ∧ b ≠ Byte.minus := by
      refine ⟨?_, ?_⟩
      all_goals
        rintro rfl
        exact absurd hb (by decide)
    simp [takeExponentSign, hsigns]

/-- Where an exponent starts, its sign can be told. -/
theorem exists_takeExponentSign {d : UInt8} {more : List UInt8}
    (h : (takeExponentSign bs).2 = d :: more) (hd : (digit? d).isSome = true) :
    ∃ sign, bs = sign ++ d :: more ∧
      (∀ es, AllDigits es → SignedDigits (sign ++ d :: es)) ∧
      ∀ u, takeExponentSign (sign ++ d :: u) = ((takeExponentSign bs).1, d :: u) := by
  cases bs with
  | nil => cases h
  | cons b bs =>
    by_cases hplus : b = Byte.plus
    · subst hplus
      obtain rfl : bs = d :: more := h
      exact ⟨[Byte.plus], rfl, fun es hes => .plus (.cons hd hes), fun u => rfl⟩
    by_cases hminus : b = Byte.minus
    · subst hminus
      obtain rfl : bs = d :: more := h
      exact ⟨[Byte.minus], rfl, fun es hes => .minus (.cons hd hes), fun u => rfl⟩
    · obtain ⟨rfl, rfl⟩ : b = d ∧ bs = more := by simpa [takeExponentSign, hplus, hminus] using h
      exact ⟨[], rfl, fun es hes => .plain (.cons hd hes), fun u => by
        simp [takeExponentSign, hplus, hminus]⟩

theorem takeExponent_of_not_digit (h : startsWithDigit bs = false) (n : Nat) :
    takeExponent n bs = (some n, bs) := by
  cases bs with
  | nil => rfl
  | cons b bs =>
    have hb : digit? b = none := by simpa [startsWithDigit] using h
    simp [takeExponent, hb]

/-- Digits of an exponent are taken alike before anything else that stops them there. -/
theorem exists_takeExponent (n : Nat) (bs : List UInt8) :
    ∃ ds, AllDigits ds ∧ bs = ds ++ (takeExponent n bs).2 ∧
      ∀ u, ((takeExponent n bs).1 = none ∨ startsWithDigit u = false) →
        takeExponent n (ds ++ u) = ((takeExponent n bs).1, u) := by
  have hnone : AllDigits [] := by simp [AllDigits]
  induction bs generalizing n with
  | nil =>
    exact ⟨[], hnone, rfl, fun u hu =>
      takeExponent_of_not_digit (by simpa [takeExponent] using hu) n⟩
  | cons b bs ih =>
    cases hd : digit? b with
    | none =>
      rw [takeExponent_of_not_digit (by simp [startsWithDigit, hd]) n]
      exact ⟨[], hnone, rfl, fun u hu => takeExponent_of_not_digit (by simpa using hu) n⟩
    | some d =>
      have hb : (digit? b).isSome = true := by simp [hd]
      by_cases hbig : greatestExponent < n * 10 + d
      · have htake : ∀ u, takeExponent n (b :: u) = (none, u) := fun u => by
          simp [takeExponent, hd, hbig]
        rw [htake]
        exact ⟨[b], hnone.cons hb, rfl, fun u _ => htake u⟩
      · have htake : ∀ u, takeExponent n (b :: u) = takeExponent (n * 10 + d) u := fun u => by
          simp [takeExponent, hd, hbig]
        rw [htake]
        obtain ⟨ds, hds, hbs, halike⟩ := ih (n * 10 + d)
        exact ⟨b :: ds, hds.cons hb, congrArg (b :: ·) hbs, fun u hu =>
          (htake (ds ++ u)).trans (halike u hu)⟩

theorem digit?_eq_some_zero_iff {b : UInt8} : digit? b = some 0 ↔ b = Byte.zero := by
  constructor
  · intro h
    unfold digit? at h
    split at h
    · rename_i hb
      rw [Option.some.injEq] at h
      have hlow : 48 ≤ b.toNat := UInt8.le_iff_toNat_le.mp hb.1
      have hvalue : b.toNat = Byte.zero.toNat := Nat.le_antisymm (Nat.sub_eq_zero_iff_le.mp h) hlow
      exact UInt8.toNat_inj.mp hvalue
    · cases h
  · rintro rfl
    decide

/-! ### Numbers that are read -/

/-- What is read has the shape, and is read alike wherever a number may end. -/
def Local (Shape : List UInt8 → Prop) (read : Reader Number) : Prop :=
  ∀ bs x rest, read bs = .ok (x, rest) → ∃ t, Shape t ∧ bs = t ++ rest ∧
    ∀ rest', EndsNumber rest' → read (t ++ rest') = .ok (x, rest')

theorem local_finishReal (negative : Bool) (n : Nat) (power : Int) :
    Local (· = []) (finishReal negative n power) := by
  intro bs x rest h
  unfold finishReal at h
  split at h
  · rename_i b hb
    obtain ⟨rfl, rfl⟩ := Prod.mk.inj (Except.ok.inj h)
    exact ⟨[], rfl, rfl, fun rest' _ => by simp only [finishReal, hb, List.nil_append]⟩
  · cases h

theorem readExponent_some {negative : Bool} {n : Nat} {power : Int} {down : Bool} {b : UInt8}
    {d e : Nat} {more rest : List UInt8} (hsign : takeExponentSign bs = (down, b :: more))
    (hd : digit? b = some d) (he : takeExponent d more = (some e, rest)) :
    readExponent negative n power bs =
      finishReal negative n (if down then power - e else power + e) rest := by
  simp only [readExponent, hsign, hd, he]

theorem readExponent_none {negative : Bool} {n : Nat} {power : Int} {down : Bool} {b : UInt8}
    {d : Nat} {more rest : List UInt8} (hsign : takeExponentSign bs = (down, b :: more))
    (hd : digit? b = some d) (he : takeExponent d more = (none, rest)) :
    readExponent negative n power bs =
      if n ≠ 0 && !down then fail .numberOutOfRange rest
      else .ok (withSign negative (Binary64.ofNat 0), (dropDigits 0 rest).2) := by
  simp only [readExponent, hsign, hd, he]

theorem local_readExponent (negative : Bool) (n : Nat) (power : Int) :
    Local SignedDigits (readExponent negative n power) := by
  intro bs x rest h
  have hsplit := h
  unfold readExponent at hsplit
  dsimp only at hsplit
  split at hsplit
  · cases hsplit
  rename_i b more hmore
  split at hsplit
  · cases hsplit
  rename_i d hd
  clear hsplit
  have hb : (digit? b).isSome = true := by simp [hd]
  obtain ⟨sign, rfl, hsigned, htake⟩ := exists_takeExponentSign hmore hb
  obtain ⟨ds, hds, hbs, halike⟩ := exists_takeExponent d more
  have hsign := htake more
  cases hr : takeExponent d more with
  | mk exponent after =>
    rw [hr] at hbs halike
    cases exponent with
    | some e =>
      rw [readExponent_some hsign hd hr] at h
      obtain ⟨t, rfl, rfl, hfinish⟩ := local_finishReal _ _ _ _ _ _ h
      refine ⟨sign ++ b :: ds, hsigned ds hds, by simpa using hbs, fun rest' hrest' => ?_⟩
      have hmine := halike rest' (.inr hrest'.not_digit)
      have hsign' := htake (ds ++ rest')
      rw [List.append_assoc, List.cons_append, readExponent_some hsign' hd hmine]
      exact hfinish rest' hrest'
    | none =>
      rw [readExponent_none hsign hd hr] at h
      split_ifs at h with hbig
      · cases h
      obtain ⟨rfl, rfl⟩ := Prod.mk.inj (Except.ok.inj h)
      obtain ⟨es, hes, hafter, -, -⟩ := exists_dropDigits 0 after
      refine ⟨sign ++ b :: (ds ++ es), hsigned _ (hds.append hes), ?_, fun rest' hrest' => ?_⟩
      · simp only [List.append_assoc, List.cons_append, ← hafter, ← hbs]
      · have hmine := halike (es ++ rest') (.inl rfl)
        have hsign' := htake (ds ++ (es ++ rest'))
        rw [List.append_assoc, List.cons_append, List.append_assoc,
          readExponent_none hsign' hd hmine]
        simp only [hbig, dropDigits_append hes hrest'.not_digit]
        simp

theorem readExponentOrEnd_end (negative : Bool) (n : Nat) (power : Int)
    (hrest : EndsNumber rest) :
    readExponentOrEnd negative n power rest = finishReal negative n power rest := by
  cases rest with
  | nil => rfl
  | cons b rest => simp [readExponentOrEnd, (hrest b rfl).2.2]

theorem local_readExponentOrEnd (negative : Bool) (n : Nat) (power : Int) :
    Local Exponent (readExponentOrEnd negative n power) := by
  have hfinal : ∀ bs x rest, finishReal negative n power bs = .ok (x, rest) →
      ∃ t, Exponent t ∧ bs = t ++ rest ∧ ∀ rest', EndsNumber rest' →
        readExponentOrEnd negative n power (t ++ rest') = .ok (x, rest') := by
    intro bs x rest h
    obtain ⟨t, rfl, rfl, hfinish⟩ := local_finishReal _ _ _ _ _ _ h
    refine ⟨[], .none, rfl, fun rest' hrest' => ?_⟩
    rw [List.nil_append, readExponentOrEnd_end _ _ _ hrest']
    exact hfinish rest' hrest'
  intro bs x rest h
  cases bs with
  | nil => exact hfinal [] x rest h
  | cons b bs =>
    rw [readExponentOrEnd] at h
    split_ifs at h with hb
    · obtain ⟨t, ht, rfl, halike⟩ := local_readExponent _ _ _ _ _ _ h
      refine ⟨b :: t, .some hb ht, rfl, fun rest' hrest' => ?_⟩
      rw [List.cons_append, readExponentOrEnd, if_pos hb]
      exact halike rest' hrest'
    · exact hfinal _ x rest h

theorem readDecimals_scan {n : Nat} (h : (scan n bs).taken + (scan n bs).left ≠ 0)
    (negative : Bool) (power : Int) : readDecimals negative n power bs =
      readExponentOrEnd negative (scan n bs).significand (power - (scan n bs).taken)
        (scan n bs).rest := by
  unfold scan at h ⊢
  unfold readDecimals
  dsimp only at h ⊢
  split_ifs with hdigit hzero
  · rfl
  · rw [hzero, dropDigits_of_not_digit (eq_false_of_ne_true hdigit)] at h
    exact absurd rfl h
  · rw [dropDigits_of_not_digit (eq_false_of_ne_true hdigit)]

theorem digits_of_readDecimals {negative : Bool} {n : Nat} {power : Int}
    {r : Number × List UInt8} (h : readDecimals negative n power bs = .ok r) :
    (scan n bs).taken + (scan n bs).left ≠ 0 := by
  intro hnone
  obtain ⟨htaken, hleft⟩ := Nat.add_eq_zero_iff.mp hnone
  unfold scan at htaken hleft
  dsimp only at htaken hleft
  obtain ⟨es, -, hes, hcount, hend⟩ := exists_dropDigits 0 (takeDigits n 0 bs).2.2
  obtain rfl : es = [] := List.length_eq_zero_iff.mp (by omega)
  rw [List.nil_append] at hes
  rw [← hes] at hend
  unfold readDecimals at h
  dsimp only at h
  rw [if_neg (by simp [hend]), if_pos htaken] at h
  split at h <;> cases h

theorem local_readDecimals (negative : Bool) (n : Nat) (power : Int) :
    Local DecimalsEnd (readDecimals negative n power) := by
  intro bs x rest h
  have hsome := digits_of_readDecimals h
  rw [readDecimals_scan hsome] at h
  obtain ⟨ds, hds, hbs, hcount, -, halike⟩ := exists_scan n bs
  obtain ⟨e, he, hend, halike'⟩ := local_readExponentOrEnd _ _ _ _ _ _ h
  have hne : ds ≠ [] := by
    rintro rfl
    exact hsome hcount
  refine ⟨_, .intro ⟨hne, hds⟩ he, ?_, fun rest' hrest' => ?_⟩
  · rw [List.append_assoc, ← hend]
    exact hbs
  · have hscan := halike _ (he.not_digit hrest')
    rw [List.append_assoc, readDecimals_scan (by rwa [hscan]), hscan]
    exact halike' rest' hrest'

/-- The number if nothing stands behind its whole part. -/
def readWholePart (negative : Bool) (n power : Nat) : Reader Number := fun bs =>
  if power ≠ 0 then finishReal negative n power bs
  else if !negative then .ok (.integer n, bs)
  else if n = 0 || 0x8000000000000000 < n then .ok (withSign true (Binary64.ofNat n), bs)
  else .ok (.integer (-n), bs)

theorem readAfterWhole_cons (negative : Bool) (n power : Nat) (b : UInt8) (bs : List UInt8) :
    readAfterWhole negative n power (b :: bs) =
      if b = Byte.dot then readDecimals negative n power bs
      else if isExponentLetter b then readExponent negative n power bs
      else readWholePart negative n power (b :: bs) := rfl

theorem readAfterWhole_end (negative : Bool) (n power : Nat) (hrest : EndsNumber rest) :
    readAfterWhole negative n power rest = readWholePart negative n power rest := by
  cases rest with
  | nil => rfl
  | cons b rest =>
    obtain ⟨-, hdot, hletter⟩ := hrest b rfl
    simp [readAfterWhole_cons, hdot, hletter]

theorem local_readWholePart (negative : Bool) (n power : Nat) :
    Local (· = []) (readWholePart negative n power) := by
  have hpure : ∀ y : Number, Local (· = []) fun bs => .ok (y, bs) := by
    intro y bs x rest h
    obtain ⟨rfl, rfl⟩ := Prod.mk.inj (Except.ok.inj h)
    exact ⟨[], rfl, rfl, fun rest' _ => rfl⟩
  unfold readWholePart
  split_ifs
  · exact local_finishReal negative n power
  · exact hpure _
  · exact hpure _
  · exact hpure _

theorem local_readAfterWhole (negative : Bool) (n power : Nat) :
    Local WholeEnd (readAfterWhole negative n power) := by
  have hwhole : ∀ bs x rest, readWholePart negative n power bs = .ok (x, rest) →
      ∃ t, WholeEnd t ∧ bs = t ++ rest ∧ ∀ rest', EndsNumber rest' →
        readAfterWhole negative n power (t ++ rest') = .ok (x, rest') := by
    intro bs x rest h
    obtain ⟨t, rfl, rfl, halike⟩ := local_readWholePart _ _ _ _ _ _ h
    refine ⟨[], .intro .none .none, rfl, fun rest' hrest' => ?_⟩
    rw [List.nil_append, readAfterWhole_end _ _ _ hrest']
    exact halike rest' hrest'
  intro bs x rest h
  cases bs with
  | nil => exact hwhole [] x rest h
  | cons b bs =>
    rw [readAfterWhole_cons] at h
    split_ifs at h with hdot hletter
    · obtain ⟨t, ⟨hds, he⟩, rfl, halike⟩ := local_readDecimals _ _ _ _ _ _ h
      subst hdot
      exact ⟨_, .intro (.some hds) he, rfl, fun rest' hrest' => halike rest' hrest'⟩
    · obtain ⟨t, ht, rfl, halike⟩ := local_readExponent _ _ _ _ _ _ h
      refine ⟨b :: t, .intro .none (.some hletter ht), rfl, fun rest' hrest' => ?_⟩
      rw [List.cons_append, readAfterWhole_cons, if_neg hdot, if_pos hletter]
      exact halike rest' hrest'
    · exact hwhole _ x rest h

theorem readUnsigned_zero (negative : Bool) (bs : List UInt8) :
    readUnsigned negative (Byte.zero :: bs) =
      if startsWithDigit bs then failAhead .invalidNumber bs
      else readAfterWhole negative 0 0 bs := by
  have hzero : digit? Byte.zero = some 0 := digit?_eq_some_zero_iff.mpr rfl
  simp only [readUnsigned, hzero]

theorem readUnsigned_digit (negative : Bool) {b : UInt8} {d : Nat} (hd : digit? b = some d)
    (hne : d ≠ 0) (bs : List UInt8) : readUnsigned negative (b :: bs) =
      readAfterWhole negative (scan d bs).significand (scan d bs).left (scan d bs).rest := by
  cases d with
  | zero => exact absurd rfl hne
  | succ d =>
    simp only [readUnsigned, hd, scan]
    split_ifs with hdigit
    · rfl
    · rw [dropDigits_of_not_digit (eq_false_of_ne_true hdigit)]

theorem local_readUnsigned (negative : Bool) : Local Unsigned (readUnsigned negative) := by
  intro bs x rest h
  cases bs with
  | nil => cases h
  | cons b bs =>
    cases hd : digit? b with
    | none =>
      simp only [readUnsigned, hd] at h
      cases h
    | some d =>
      by_cases hzero : d = 0
      · subst hzero
        obtain rfl := digit?_eq_some_zero_iff.mp hd
        rw [readUnsigned_zero] at h
        split_ifs at h
        · cases h
        obtain ⟨t, ht, rfl, halike⟩ := local_readAfterWhole _ _ _ _ _ _ h
        refine ⟨Byte.zero :: t, WholePart.zero.unsigned ht, rfl, fun rest' hrest' => ?_⟩
        rw [List.cons_append, readUnsigned_zero, if_neg (by simp [ht.not_digit hrest'])]
        exact halike rest' hrest'
      · rw [readUnsigned_digit negative hd hzero] at h
        obtain ⟨ds, hds, hbs, -, -, halike⟩ := exists_scan d bs
        obtain ⟨t, ht, hend, halike'⟩ := local_readAfterWhole _ _ _ _ _ _ h
        have hwhole : WholePart (b :: ds) := by
          refine .digits (.cons (by simp [hd]) hds) ?_
          simpa [← digit?_eq_some_zero_iff, hd] using hzero
        refine ⟨_, hwhole.unsigned ht, ?_, fun rest' hrest' => ?_⟩
        · rw [List.append_assoc, ← hend, List.cons_append, ← hbs]
        · rw [List.append_assoc, List.cons_append, readUnsigned_digit negative hd hzero,
            halike _ (ht.not_digit hrest')]
          exact halike' rest' hrest'

theorem Unsigned.exists_cons {t : List UInt8} (h : Unsigned t) :
    ∃ b more, t = b :: more ∧ (digit? b).isSome = true := by
  obtain ⟨hwhole, -, -⟩ := h
  cases hwhole with
  | zero => exact ⟨_, _, rfl, rfl⟩
  | digits hds _ =>
    obtain ⟨b, more, rfl, hb, -⟩ := hds.exists_cons
    exact ⟨b, _, rfl, hb⟩

theorem ne_minus_of_digit {b : UInt8} (h : (digit? b).isSome = true) : b ≠ Byte.minus := by
  rintro rfl
  exact absurd h (by decide)

theorem Numeral.starts {t : List UInt8} (h : Numeral t) :
    ∃ b more, t = b :: more ∧ startsNumber b = true := by
  cases h with
  | plain h =>
    obtain ⟨b, more, rfl, hb⟩ := h.exists_cons
    exact ⟨b, more, rfl, by simp [startsNumber, hb]⟩
  | minus h => exact ⟨_, _, rfl, rfl⟩

theorem Numeral.shorter {t : List UInt8} (h : Numeral t) (rest : List UInt8) :
    rest.length < (t ++ rest).length := by
  obtain ⟨b, more, rfl, -⟩ := h.starts
  exact length_lt_behind b more rest

theorem startsItem_of_startsNumber {b : UInt8} (h : startsNumber b = true) (more : List UInt8) :
    StartsItem (b :: more) := by
  refine ⟨b, more, rfl, not_blank_of_startsNumber h, ?_⟩
  rintro rfl
  exact absurd h (by decide)

theorem readNumber_minus (bs : List UInt8) :
    readNumber (Byte.minus :: bs) = readUnsigned true bs := by
  rw [readNumber, if_pos rfl]

theorem readNumber_unsigned {t : List UInt8} (h : Unsigned t) (rest : List UInt8) :
    readNumber (t ++ rest) = readUnsigned false (t ++ rest) := by
  obtain ⟨b, more, rfl, hb⟩ := h.exists_cons
  rw [List.cons_append, readNumber, if_neg (ne_minus_of_digit hb)]

/-- What is read as a number is a numeral. -/
theorem local_readNumber : Local Numeral readNumber := by
  intro bs x rest h
  cases bs with
  | nil => cases h
  | cons b bs =>
    by_cases hb : b = Byte.minus
    · subst hb
      rw [readNumber_minus] at h
      obtain ⟨t, ht, rfl, halike⟩ := local_readUnsigned _ _ _ _ h
      refine ⟨_, .minus ht, rfl, fun rest' hrest' => ?_⟩
      rw [List.cons_append, readNumber_minus]
      exact halike rest' hrest'
    · rw [readNumber, if_neg hb] at h
      obtain ⟨t, ht, hbs, halike⟩ := local_readUnsigned _ _ _ _ h
      refine ⟨t, .plain ht, hbs, fun rest' hrest' => ?_⟩
      rw [readNumber_unsigned ht]
      exact halike rest' hrest'

theorem numberText_of_readNumber {x : Number} (h : readNumber bs = .ok (x, rest)) :
    NumberText x bs rest := by
  obtain ⟨t, ht, hbs, halike⟩ := local_readNumber _ _ _ h
  have hwhole := halike [] endsNumber_nil
  rw [List.append_nil] at hwhole
  exact ⟨t, ht, hwhole, hbs⟩

theorem NumberText.readNumber {x : Number} (h : NumberText x bs rest) (hrest : EndsNumber rest) :
    readNumber bs = .ok (x, rest) := by
  obtain ⟨t, -, hread, rfl⟩ := h
  obtain ⟨t', -, rfl, halike⟩ := local_readNumber _ _ _ hread
  rw [List.append_nil]
  exact halike rest hrest

end Dialogue.Json
