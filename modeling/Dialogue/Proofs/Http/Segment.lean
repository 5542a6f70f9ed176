/-
A chat id is one segment of the path, and no two ids are the same one.

What is escaped in an id is all that could end a segment or split it, and the percent sign, so
the bytes of the id can be read off its segment again (`Text.Percent.decode_encodeBytes`).  From
this everything else follows: two ids with one segment have the same bytes and are the same
text, and a segment is a dot or two dots only for an id that is, which is refused before.  A dot
itself is never escaped, for a reader of addresses would take the escape for the dot.

That a segment stays one when the address is read is proved in `Proofs/Http/Address`; all that
has to be seen here is that nothing in it has a meaning there.
-/
import Dialogue.Proofs.Http.Address
import Dialogue.Proofs.Text.Percent
import Dialogue.Proofs.History.Reopening

namespace Dialogue.Http

open Text.Percent (decode encodeBytes escape)

/-- One segment of a path, as every reader of addresses takes it: nothing in it ends it, splits
it or is passed over, each percent sign begins an escape, and no dot is hidden in one. -/
structure IsSegment (cs : List Char) : Prop where
  ascii : ∀ c ∈ cs, c.toNat < 0x80
  whole : ∀ c ∈ cs, c ∉ ['/', '\\', '?', '#']
  visible : ∀ c ∈ cs, Text.isBlank c = false ∧ 0x20 ≤ c.toNat ∧ c.toNat ≠ 0x7F
  escapes : ∀ before after, cs = before ++ '%' :: after → ∃ high low rest n,
    after = high :: low :: rest ∧ Text.hexNatural? [high, low] = some n ∧ n ≠ '.'.toNat
  not_dots : cs ≠ [] ∧ cs ≠ ['.'] ∧ cs ≠ ['.', '.']

namespace Archive

/-- The ids that can be asked for, without the white space around them. -/
def Askable (id : String) : Prop := id ≠ "" ∧ id ≠ "." ∧ id ≠ ".."

instance (id : String) : Decidable (Askable id) :=
  inferInstanceAs (Decidable (id ≠ "" ∧ id ≠ "." ∧ id ≠ ".."))

theorem checkId_of_askable {chatId : String} (h : Askable (Text.trim chatId)) :
    checkId chatId = .ok (Text.trim chatId) := by
  simp [checkId, h.1, h.2.1, h.2.2]

theorem checkId_of_not_askable {chatId : String} (h : ¬ Askable (Text.trim chatId)) :
    ∃ f, checkId chatId = .error f := by
  by_cases hempty : Text.trim chatId = ""
  · exact ⟨.emptyChatId, by simp [checkId, hempty]⟩
  · refine ⟨.invalidChatId (Text.trim chatId), ?_⟩
    have hdots : Text.trim chatId = "." ∨ Text.trim chatId = ".." := by
      simp only [Askable, not_and_or, not_not] at h
      exact h.resolve_left hempty
    rcases hdots with hdots | hdots <;> simp [checkId, hdots]

/-! ### The segment of an id -/

theorem toList_segment (id : String) :
    (segment id).toList = encodeBytes splitsSegment (Text.Utf8.encode id.toList) := by
  rw [segment, String.toList_ofList]
  rfl

theorem decode_segment (id : String) :
    decode (segment id).toList = Text.Utf8.encode id.toList := by
  rw [toList_segment]
  exact Text.Percent.decode_encodeBytes (by decide) _

/-- The segment says which id it was made of. -/
theorem segment_inj {id id' : String} (h : segment id = segment id') : id = id' := by
  have hbytes : Text.Utf8.encode id.toList = Text.Utf8.encode id'.toList := by
    rw [← decode_segment, ← decode_segment, h]
  have hread := congrArg Text.Utf8.strict? hbytes
  rw [Text.Utf8.strict?_encode, Text.Utf8.strict?_encode] at hread
  exact Option.some.inj hread

/-- A character of a segment is a percent sign, or one that does not split a segment. -/
theorem mem_segment {id : String} {c : Char} (h : c ∈ (segment id).toList) :
    c.toNat < 0x80 ∧ (c = '%' ∨ splitsSegment (UInt8.ofNat c.toNat) = false) := by
  rw [toList_segment] at h
  refine ⟨Text.Percent.ascii_of_mem_encodeBytes h, ?_⟩
  rcases Text.Percent.mem_encodeBytes h with rfl | ⟨n, hn, rfl⟩ | ⟨-, hspared⟩
  · exact Or.inl rfl
  · have hdigit : ∀ n < 16,
        splitsSegment (UInt8.ofNat (Text.upperHex n).toNat) = false := by decide
    exact Or.inr (hdigit n hn)
  · exact Or.inr hspared

/-- What does not split a segment is neither an end of one nor white space nor a control. -/
theorem spared_of_lt : ∀ n < 0x80, splitsSegment (UInt8.ofNat n) = false →
    Char.ofNat n ∉ ['/', '\\', '?', '#'] ∧ Text.isBlank (Char.ofNat n) = false ∧ 0x20 ≤ n ∧
      n ≠ 0x7F := by decide

theorem isSegment_segment {id : String} (h : Askable id) : IsSegment (segment id).toList := by
  have hplain : ∀ c ∈ (segment id).toList, c ∉ ['/', '\\', '?', '#'] ∧ Text.isBlank c = false ∧
      0x20 ≤ c.toNat ∧ c.toNat ≠ 0x7F := by
    intro c hc
    obtain ⟨hascii, rfl | hspared⟩ := mem_segment hc
    · decide
    · have hall := spared_of_lt c.toNat hascii hspared
      rwa [Char.ofNat_toNat] at hall
  have hsegment : ∀ id', (segment id).toList = (segment id').toList → id = id' :=
    fun id' hid => segment_inj (String.toList_inj.mp hid)
  refine {
    ascii := fun c hc => (mem_segment hc).1
    whole := fun c hc => (hplain c hc).1
    visible := fun c hc => (hplain c hc).2
    escapes := fun before after hcut => ?_
    not_dots := ⟨fun hid => h.1 (hsegment "" hid), fun hid => h.2.1 (hsegment "." hid),
      fun hid => h.2.2 (hsegment ".." hid)⟩ }
  rw [toList_segment] at hcut
  obtain ⟨b, rest, hafter, hescaped⟩ := Text.Percent.escape_of_percent (by decide) hcut
  refine ⟨_, _, rest, b.toNat, (List.cons.inj hafter).2, Text.hexNatural?_upperHex b, ?_⟩
  -- A dot is ASCII and does not split a segment, so it was not escaped.
  intro hdot
  have hb : b = 0x2E := UInt8.toNat_inj.mp hdot
  rw [hb] at hescaped
  revert hescaped
  decide

/-! ### Reading the address -/

theorem toLower_mark : ∀ n < 0x80, (Char.ofNat n).toLower ∈ ['.', '%', '2'] →
    (Char.ofNat n).toLower = Char.ofNat n := by decide

/-- A character that is a mark of the names of a dot is the mark itself, in one case or the
other. -/
theorem eq_of_toLower {c d : Char} (hascii : c.toNat < 0x80) (hd : d ∈ ['.', '%', '2'])
    (h : c.toLower = d) : c = d := by
  have hsame := toLower_mark c.toNat hascii
  rw [Char.ofNat_toNat, h] at hsame
  exact (hsame hd).symm

theorem hexValue?_of_toLower : ∀ n < 0x80, (Char.ofNat n).toLower = 'e' →
    Text.hexValue? (Char.ofNat n) = some 14 := by decide

/-- No dot is hidden in a segment. -/
theorem not_hidden {seg : List Char} (h : IsSegment seg) (before : List Char) {rest : List Char}
    (hseg : seg.map Char.toLower = before ++ '%' :: '2' :: 'e' :: rest) : False := by
  obtain ⟨front, behind, rfl, -, hbehind⟩ := List.map_eq_append_iff.mp hseg
  obtain ⟨sign, behind, rfl, hsign, hbehind⟩ := List.map_eq_cons_iff.mp hbehind
  obtain ⟨high, behind, rfl, hhigh, hbehind⟩ := List.map_eq_cons_iff.mp hbehind
  obtain ⟨low, behind, rfl, hlow, -⟩ := List.map_eq_cons_iff.mp hbehind
  have hascii := h.ascii
  simp only [List.mem_append, List.mem_cons] at hascii
  have hsign : sign = '%' := eq_of_toLower (hascii sign (by simp)) (by simp) hsign
  have hhigh : high = '2' := eq_of_toLower (hascii high (by simp)) (by simp) hhigh
  have hlow : Text.hexValue? low = some 14 := by
    have hread := hexValue?_of_toLower low.toNat (hascii low (by simp))
    rw [Char.ofNat_toNat] at hread
    exact hread hlow
  subst hsign hhigh
  obtain ⟨_, _, _, n, hafter, hvalue, hdot⟩ := h.escapes front ('2' :: low :: behind) rfl
  simp only [List.cons.injEq] at hafter
  obtain ⟨rfl, rfl, -⟩ := hafter
  have htwo : Text.hexValue? '2' = some 2 := by decide
  simp only [Text.hexNatural?, List.isEmpty_cons, Bool.false_eq_true, if_false, List.foldl_cons,
    List.foldl_nil, Text.appendDigit, htwo, hlow, Option.bind_eq_bind, Option.bind_some, pure,
    Option.some.injEq] at hvalue
  exact hdot hvalue.symm

theorem not_dots {seg : List Char} (h : IsSegment seg) :
    Url.isDot seg = false ∧ Url.isTwoDots seg = false := by
  have hdots : ∀ dots : List Char, (∀ c ∈ dots, c = '.') → seg.map Char.toLower = dots →
      seg = dots := by
    intro dots hall hseg
    rw [← hseg]
    symm
    refine (List.map_congr_left fun c hc => ?_).trans (List.map_id seg)
    have hdot : c.toLower = '.' := hall _ (hseg ▸ List.mem_map_of_mem hc)
    rw [hdot, eq_of_toLower (h.ascii c hc) (by simp) hdot]
    rfl
  constructor
  · by_contra hdot
    rw [Bool.not_eq_false, Url.isDot, Bool.or_eq_true, decide_eq_true_eq, decide_eq_true_eq] at hdot
    rcases hdot with hone | hhidden
    · exact h.not_dots.2.1 (hdots _ (by simp) hone)
    · exact not_hidden h [] hhidden
  · by_contra hdot
    rw [Bool.not_eq_false, Url.isTwoDots, List.contains_iff_mem] at hdot
    simp only [List.mem_cons, List.not_mem_nil, or_false] at hdot
    rcases hdot with htwo | hbehind | hbefore | hboth
    · exact h.not_dots.2.2 (hdots _ (by simp) htwo)
    · exact not_hidden h ['.'] hbehind
    · exact not_hidden h [] hbefore
    · exact not_hidden h [] hboth

/-- What does not split a segment is not escaped by a reader either. -/
theorem spared_of_spared : ∀ n < 0x80, splitsSegment (UInt8.ofNat n) = false →
    Url.pathSet (UInt8.ofNat n) = false := by decide

theorem plainSegment_segment {id : String} (h : Askable id) :
    Url.PlainSegment (segment id).toList := by
  have hsegment := isSegment_segment h
  refine ⟨?_, hsegment.whole, ?_, not_dots hsegment⟩
  · intro c hc
    obtain ⟨hblank, hcontrol, -⟩ := hsegment.visible c hc
    have hspace : c ≠ ' ' := by
      rintro rfl
      exact absurd hblank (by decide)
    have hne : c.toNat ≠ 32 := fun heq => hspace (Char.toNat_inj.mp heq)
    omega
  · apply Text.Percent.encode_of_spared
    intro c hc
    obtain ⟨hascii, rfl | hspared⟩ := mem_segment hc
    · decide
    · exact ⟨hascii, spared_of_spared c.toNat hascii hspared⟩

/-! ### Fetching -/

/-- Nothing is done for an id that cannot be asked for. -/
theorem fetch_of_not_askable {m : Type → Type} [Monad m] (a : Archive)
    (exchange : Request → m Conduct) (n : Nat) {chatId : String}
    (h : ¬ Askable (Text.trim chatId)) :
    ∃ f, a.fetch exchange n chatId = pure (n, some (.error f)) := by
  obtain ⟨f, hf⟩ := checkId_of_not_askable h
  exact ⟨f, by rw [fetch, hf]⟩

/-- The request that is made with the token that a refresh gives, if one is given and the
address can be asked. -/
theorem request_eq_ok_iff {a : Archive} {n : Nat} {id : String} {q : Request} :
    a.request n id = .ok q ↔ ∃ token, a.tokens.refresh .history n = .ok token ∧
      Request.make "GET" (a.address id) token none "" = .ok q := by
  unfold request
  cases htoken : a.tokens.refresh .history n with
  | error f => simp [bind, Except.bind]
  | ok token =>
    cases hmake : Request.make "GET" (a.address id) token none "" with
    | error p => simp [bind, Except.bind, Except.mapError, hmake]
    | ok made => simp [bind, Except.bind, Except.mapError, hmake]

/-- What is asked of a server for an id. -/
theorem asked_of_askable (a : Archive) (conduct : Request → Conduct) (n : Nat) {chatId : String}
    (h : Askable (Text.trim chatId)) :
    ((a.fetch (listening conduct) n chatId).run []).2 =
      (a.request (n + 1) (Text.trim chatId)).toOption.toList := by
  rw [fetch, checkId_of_askable h]
  cases hrequest : a.request (n + 1) (Text.trim chatId) with
  | error f => simp only [hrequest]; rfl
  | ok q => simp only [hrequest]; rfl

theorem address_inj (a : Archive) {id id' : String} (h : a.address id = a.address id') :
    id = id' := by
  apply segment_inj
  have hlist := congrArg String.toList h
  simp only [address, String.toList_append] at hlist
  exact String.toList_inj.mp (List.append_cancel_left hlist)

/-- **A chat id is one segment of the path, and no two ids have one address.**  Whatever an id
is, once the white space around it is off there are two cases.  If nothing or only one or two
dots are left, the id is refused: nothing is sent, and the token is not refreshed.  Otherwise the
address that is asked is the base, a slash and one segment, and the segment says the bytes of the
id without that white space.  When the address is read, the segment is still there as it was
written, at the end of the path; the rest of the address is as without it.

So two ids that are not refused have the same address only if they differ in nothing but the
white space around them. -/
theorem one_segment (a : Archive) :
    (∀ chatId, ¬ Askable (Text.trim chatId) →
      ∀ {m : Type → Type} [Monad m] (exchange : Request → m Conduct) (n : Nat),
        ∃ f, a.fetch exchange n chatId = pure (n, some (.error f))) ∧
    (∀ chatId, Askable (Text.trim chatId) → ∃ path : String,
      IsSegment path.toList ∧
      decode path.toList = Text.Utf8.encode (Text.trim chatId).toList ∧
      (∀ (conduct : Request → Conduct) (n : Nat) (q : Request),
        q ∈ ((a.fetch (listening conduct) n chatId).run []).2 ↔
          ∃ token, a.tokens.refresh .history (n + 1) = .ok token ∧
            Request.make "GET" (a.base ++ "/" ++ path) token none "" = .ok q) ∧
      ∀ u, Url.parse? (a.base ++ "/") = some u → u.scheme ∈ ["http", "https"] →
        u.query = none → u.fragment = none →
        Url.parse? (a.base ++ "/" ++ path) = some { u with path := u.path ++ path }) ∧
    ∀ chatId chatId', Askable (Text.trim chatId) → Askable (Text.trim chatId') →
      a.address (Text.trim chatId) = a.address (Text.trim chatId') →
      Text.trim chatId = Text.trim chatId' := by
  refine ⟨?_, ?_, ?_⟩
  · intro chatId hrefused _ _ exchange n
    exact fetch_of_not_askable a exchange n hrefused
  · intro chatId haskable
    refine ⟨segment (Text.trim chatId), isSegment_segment haskable, decode_segment _, ?_, ?_⟩
    · intro conduct n q
      rw [asked_of_askable a conduct n haskable]
      refine Iff.trans ?_ request_eq_ok_iff
      cases a.request (n + 1) (Text.trim chatId) with
      | error f => simp [Except.toOption]
      | ok made => simp [Except.toOption, eq_comm]
    · intro u hu hscheme hquery hfragment
      have hspecial : Url.isSpecial u.scheme = true ∧ u.scheme ≠ "file" := by
        simp only [List.mem_cons, List.not_mem_nil, or_false] at hscheme
        rcases hscheme with hscheme | hscheme <;> rw [hscheme] <;> decide
      have hread := Url.parse?_behind hu hspecial.1 hspecial.2 hquery hfragment
        (plainSegment_segment haskable)
      rwa [String.ofList_toList] at hread
  · intro chatId chatId' _ _ hsame
    exact address_inj a hsame

/-- An id that would lead out of the place of all chats stays in one segment of it; two dots
alone are refused. -/
theorem one_segment_slashesInside :
    let a : Archive := ⟨"http://h/api/chats", none, .fixed none⟩
    (∃ f, a.fetch (listening fun _ => .refuses) 0 " .. " = pure (0, some (.error f))) ∧
    (∃ path : String, IsSegment path.toList ∧
      decode path.toList = Text.Utf8.encode "mine/../other".toList ∧
      Url.parse? (a.base ++ "/" ++ path) =
        some { scheme := "http", host := some "h", path := "/api/chats/" ++ path }) ∧
    Text.trim "x " = Text.trim " x" := by
  intro a
  obtain ⟨hrefused, hasked, hinjective⟩ := one_segment a
  refine ⟨hrefused " .. " (by decide) _ 0, ?_, hinjective "x " " x" (by decide) (by decide) rfl⟩
  obtain ⟨path, hsegment, hdecode, -, hread⟩ := hasked "mine/../other" (by decide)
  have hbase : Url.parse? (a.base ++ "/") =
      some { scheme := "http", host := some "h", path := "/api/chats/" } := by decide +kernel
  exact ⟨path, hsegment, hdecode, hread _ hbase (by decide) rfl rfl⟩

end Archive

end Dialogue.Http
