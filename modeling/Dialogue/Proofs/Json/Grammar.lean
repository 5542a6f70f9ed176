/-
The grammar of JSON, and of its tokens.

What a text is, is said without any reader.  Tokens are lists of bytes.  Of anything else one
says where it starts and what is left behind it: `T a bs rest` holds where `bs` begins with a
text for `a` and goes on with `rest`.  So the parts of a text come one after the other, each
where the one before it has left off, and nothing needs to be cut in pieces.

Values are told in two ways.  One that is wanted nests within a limit and stands for a `Value`;
one that nobody wants has no limit, and neither the sizes of its numbers nor the halves of its
surrogates matter.
-/
import Dialogue.Proofs.Json.Nested

namespace Dialogue.Json

open Text.Utf8

/-- What has a text, where the text starts, and what is left behind it. -/
abbrev Texts (α : Type) := α → List UInt8 → List UInt8 → Prop

/-- Any number of blanks. -/
def Blanks (bs rest : List UInt8) : Prop := ∃ ws, Blank ws ∧ bs = ws ++ rest

theorem length_lt_behind (b : UInt8) (t rest : List UInt8) :
    rest.length < (b :: (t ++ rest)).length := by
  rw [List.length_cons, List.length_append]
  omega

/-- A text and nothing else, apart from the blanks around it. -/
def WholeText {α : Type} (T : Texts α) (a : α) (bs : List UInt8) : Prop :=
  ∃ bs₁ rest, Blanks bs bs₁ ∧ T a bs₁ rest ∧ Blanks rest []

/-! ### Texts between quotes -/

/-- The four hexadecimal digits of a number. -/
def Hex4 (ds : List UInt8) (n : Nat) : Prop :=
  ∃ a b c d, ds = [a, b, c, d] ∧ ∃ h i j k, hexDigit? a = some h ∧ hexDigit? b = some i ∧
    hexDigit? c = some j ∧ hexDigit? d = some k ∧ n = ((h * 16 + i) * 16 + j) * 16 + k

/-- What may stand behind a backslash, and the character that it stands for. -/
inductive Escape : List UInt8 → Char → Prop
  | letter {b : UInt8} {c : Char} (h : simpleEscape? b = some c) : Escape [b] c
  | unit {ds : List UInt8} {n : Nat} (hds : Hex4 ds n) (hhigh : isHighSurrogate n = false)
      (hlow : isLowSurrogate n = false) : Escape (Byte.lowerU :: ds) (Char.ofNat n)
  | pair {ds es : List UInt8} {n m : Nat} (hds : Hex4 ds n) (hhigh : isHighSurrogate n = true)
      (hes : Hex4 es m) (hlow : isLowSurrogate m = true) :
      Escape (Byte.lowerU :: (ds ++ Byte.backslash :: Byte.lowerU :: es))
        (Char.ofNat (0x10000 + (n - 0xD800) * 0x400 + (m - 0xDC00)))

/-- A byte that stands for itself between quotes. -/
def IsPlain (b : UInt8) : Prop := b ≠ Byte.quote ∧ b ≠ Byte.backslash ∧ ¬ b < 0x20

/-- What may stand between quotes, and the bytes that it stands for. -/
inductive Content : List UInt8 → List UInt8 → Prop
  | nil : Content [] []
  | plain {b : UInt8} {t bytes : List UInt8} (hb : IsPlain b) (h : Content t bytes) :
      Content (b :: t) (b :: bytes)
  | escape {e t bytes : List UInt8} {c : Char} (he : Escape e c) (h : Content t bytes) :
      Content (Byte.backslash :: (e ++ t)) (String.utf8EncodeChar c ++ bytes)

/-- A text between its quotes. -/
def TextOf : Texts String := fun s bs rest =>
  ∃ t, Content t (encode s.toList) ∧ bs = Byte.quote :: (t ++ Byte.quote :: rest)

/-- What may stand between quotes if nobody asks what it stands for. -/
inductive AnyContent : List UInt8 → Prop
  | nil : AnyContent []
  | plain {b : UInt8} {t : List UInt8} (hb : IsPlain b) (h : AnyContent t) : AnyContent (b :: t)
  | letter {b : UInt8} {t : List UInt8} (hb : (simpleEscape? b).isSome = true)
      (h : AnyContent t) : AnyContent (Byte.backslash :: b :: t)
  | unit {ds t : List UInt8} {n : Nat} (hds : Hex4 ds n) (h : AnyContent t) :
      AnyContent (Byte.backslash :: Byte.lowerU :: (ds ++ t))

/-- A text between its quotes, whatever it stands for. -/
def AnyQuoted (bs rest : List UInt8) : Prop :=
  ∃ t, AnyContent t ∧ bs = Byte.quote :: (t ++ Byte.quote :: rest)

/-! ### Numbers -/

/-- Nothing but digits. -/
def AllDigits (ds : List UInt8) : Prop := ∀ b ∈ ds, (digit? b).isSome = true

/-- At least one digit, and nothing else. -/
def Digits (ds : List UInt8) : Prop := ds ≠ [] ∧ AllDigits ds

/-- No zero stands before other digits. -/
inductive WholePart : List UInt8 → Prop
  | zero : WholePart [Byte.zero]
  | digits {ds : List UInt8} (h : Digits ds) (hzero : ds.head? ≠ some Byte.zero) : WholePart ds

/-- A point with digits behind it, or nothing. -/
inductive Decimals : List UInt8 → Prop
  | none : Decimals []
  | some {ds : List UInt8} (h : Digits ds) : Decimals (Byte.dot :: ds)

/-- Digits with a sign or without one. -/
inductive SignedDigits : List UInt8 → Prop
  | plain {ds : List UInt8} (h : Digits ds) : SignedDigits ds
  | plus {ds : List UInt8} (h : Digits ds) : SignedDigits (Byte.plus :: ds)
  | minus {ds : List UInt8} (h : Digits ds) : SignedDigits (Byte.minus :: ds)

/-- A letter with digits behind it, or nothing. -/
inductive Exponent : List UInt8 → Prop
  | none : Exponent []
  | some {e : UInt8} {t : List UInt8} (he : isExponentLetter e = true) (h : SignedDigits t) :
      Exponent (e :: t)

/-- A number without its sign. -/
inductive Unsigned : List UInt8 → Prop
  | intro {whole decimals exponent : List UInt8} (hwhole : WholePart whole)
      (hdecimals : Decimals decimals) (hexponent : Exponent exponent) :
      Unsigned (whole ++ (decimals ++ exponent))

/-- A number; of the two signs only the minus is written. -/
inductive Numeral : List UInt8 → Prop
  | plain {t : List UInt8} (h : Unsigned t) : Numeral t
  | minus {t : List UInt8} (h : Unsigned t) : Numeral (Byte.minus :: t)

/-- A numeral for a number that is not too great.  Which number it is, is a matter of rounding,
and `readNumber` settles that. -/
def NumberText : Texts Number := fun x bs rest =>
  ∃ t, Numeral t ∧ readNumber t = .ok (x, []) ∧ bs = t ++ rest

/-! ### Lists and objects -/

/-- What stands before an item: blanks, and a comma if it is not the first one. -/
inductive Ahead : Bool → List UInt8 → List UInt8 → Prop
  | first {bs rest : List UInt8} (h : Blanks bs rest) : Ahead true bs rest
  | comma {bs bs₁ rest : List UInt8} (h : Blanks bs (Byte.comma :: bs₁)) (h' : Blanks bs₁ rest) :
      Ahead false bs rest

/-- Items up to the closing bracket, each of them with a heading `H` before it; `first` says
whether none stands before these. -/
inductive Items {ι : Type} (close : UInt8) (H T : Texts ι) :
    Bool → List ι → List UInt8 → List UInt8 → Prop
  | close {first : Bool} {bs rest : List UInt8} (h : Blanks bs (close :: rest)) :
      Items close H T first [] bs rest
  | item {first : Bool} {i : ι} {is : List ι} {bs bs₁ bs₂ bs₃ rest : List UInt8}
      (hahead : Ahead first bs bs₁) (hhead : H i bs₁ bs₂) (hitem : T i bs₂ bs₃)
      (h : Items close H T false is bs₃ rest) : Items close H T first (i :: is) bs rest

/-- The items of a list have no heading. -/
def NoHeading {ι : Type} : Texts ι := fun _ bs rest => bs = rest

/-- The heading of a member: its name and a colon. -/
def NameAnd {ι : Type} (N : Texts ι) : Texts ι := fun i bs rest =>
  ∃ bs₁ bs₂, N i bs bs₁ ∧ Blanks bs₁ (Byte.colon :: bs₂) ∧ Blanks bs₂ rest

/-- A list of items in brackets. -/
inductive ListText {ι : Type} (T : Texts ι) : Texts (List ι)
  | intro {is : List ι} {bs rest : List UInt8}
      (h : Items Byte.closeBracket NoHeading T true is bs rest) :
      ListText T is (Byte.openBracket :: bs) rest

/-- An object of members, each of which has a name. -/
inductive ObjectText {ι : Type} (name : ι → String) (T : Texts ι) : Texts (List ι)
  | intro {is : List ι} {bs rest : List UInt8}
      (h : Items Byte.closeBrace (NameAnd fun i => TextOf (name i)) T true is bs rest) :
      ObjectText name T is (Byte.openBrace :: bs) rest

/-! ### Values -/

/-- `null`, or a text of the thing. -/
inductive OrNullText {α : Type} (T : Texts α) : Texts (Option α)
  | null {rest : List UInt8} : OrNullText T none (Byte.lowerN :: (afterN ++ rest)) rest
  | some {a : α} {bs rest : List UInt8} (h : T a bs rest) : OrNullText T (some a) bs rest

/-- `true` or `false`. -/
inductive BoolText : Texts Bool
  | true {rest : List UInt8} : BoolText true (Byte.lowerT :: (afterT ++ rest)) rest
  | false {rest : List UInt8} : BoolText false (Byte.lowerF :: (afterF ++ rest)) rest

/-- A value that holds no others. -/
inductive ScalarText : Texts Value
  | null {rest : List UInt8} : ScalarText .null (Byte.lowerN :: (afterN ++ rest)) rest
  | bool {b : Bool} {bs rest : List UInt8} (h : BoolText b bs rest) : ScalarText (.bool b) bs rest
  | number {x : Number} {bs rest : List UInt8} (h : NumberText x bs rest) :
      ScalarText (.number x) bs rest
  | text {s : String} {bs rest : List UInt8} (h : TextOf s bs rest) : ScalarText (.text s) bs rest

/-- A value whose items and members have the texts of `inner`. -/
inductive ValueOver (inner : Texts Value) : Texts Value
  | scalar {v : Value} {bs rest : List UInt8} (h : ScalarText v bs rest) : ValueOver inner v bs rest
  | array {items : List Value} {bs rest : List UInt8} (h : ListText inner items bs rest) :
      ValueOver inner (.array items) bs rest
  | object {members : List (String × Value)} {bs rest : List UInt8}
      (h : ObjectText (·.1) (fun m => inner m.2) members bs rest) :
      ValueOver inner (.object (ofMembers members)) bs rest

/-- A value that nests within a limit. -/
def ValueText : Nat → Texts Value
  | 0 => ScalarText
  | depth + 1 => ValueOver (ValueText depth)

/-- Any value, as far as that can be seen without asking what it is. -/
inductive AnyText : Texts Unit
  | null {rest : List UInt8} : AnyText () (Byte.lowerN :: (afterN ++ rest)) rest
  | bool {b : Bool} {bs rest : List UInt8} (h : BoolText b bs rest) : AnyText () bs rest
  | number {t rest : List UInt8} (h : Numeral t) : AnyText () (t ++ rest) rest
  | text {bs rest : List UInt8} (h : AnyQuoted bs rest) : AnyText () bs rest
  | list {is : List Unit} {bs rest : List UInt8}
      (h : Items Byte.closeBracket NoHeading AnyText true is bs rest) :
      AnyText () (Byte.openBracket :: bs) rest
  | object {is : List Unit} {bs rest : List UInt8}
      (h : Items Byte.closeBrace (NameAnd fun _ => AnyQuoted) AnyText true is bs rest) :
      AnyText () (Byte.openBrace :: bs) rest

end Dialogue.Json
