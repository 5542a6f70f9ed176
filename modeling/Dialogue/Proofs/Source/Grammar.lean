/-
The grammar of documents.

A document is an object of any members.  Its distance and its score are numbers or `null`, and
these two and the id occur at most once.  What the document is, its members tell: which of them
is the location is decided among those that are no fields, and one that occurs twice is none.
-/
import Dialogue.Proofs.Json.Grammar.Record
import Dialogue.Proofs.Source.Json

namespace Dialogue.Source

open Json

variable {depth : Nat} {bs rest : List UInt8}

/-- The number of a distance or of a score. -/
def real? : Value → Option Binary64
  | .number x => some x.toBinary64
  | _ => none

/-- The members of a document that tell no location. -/
def fieldNames : List String := ["vectorDistance", "rerankerScore", "citationId"]

/-- A distance or a score. -/
def IsReal (v : Value) : Prop := v = .null ∨ ∃ x, v = .number x

/-- The value of a member: any one, except for the distance and the score. -/
def MemberText (depth : Nat) : Texts (String × Value) := fun m bs rest =>
  ValueText depth m.2 bs rest ∧ (m.1 = "vectorDistance" ∨ m.1 = "rerankerScore" → IsReal m.2)

/-- The document that the members of its object tell. -/
def ofMembers? (ms : List (String × Value)) : Option Source :=
  (locationOf? ms).map fun location => {
    location
    vectorDistance := (member ms "vectorDistance").bind real?
    rerankerScore := (member ms "rerankerScore").bind real?
    citationId := (member ms "citationId").bind citationIdOfValue }

/-- The text of a document. -/
inductive DocumentText (depth : Nat) : Texts Source
  | intro {ms : List (String × Value)} {s : Source} {bs rest : List UInt8}
      (h : ObjectText (·.1) (MemberText depth) ms bs rest)
      (honce : ((ms.map (·.1)).filter (· ∈ fieldNames)).Nodup) (hs : ofMembers? ms = some s) :
      DocumentText depth s bs rest

theorem mem_fieldNames {n : String} :
    n ∈ fieldNames ↔ n = "vectorDistance" ∨ n = "rerankerScore" ∨ n = "citationId" := by
  simp [fieldNames]

/-! ### How the members are gathered -/

/-- Any value but `null`. -/
def notNull? : Value → Option Value
  | .null => none
  | v => some v

/-- Puts a member where its name says. -/
def Draft.put (d : Draft) (m : String × Value) : Draft :=
  if m.1 = "vectorDistance" then { d with vectorDistance := some (real? m.2) }
  else if m.1 = "rerankerScore" then { d with rerankerScore := some (real? m.2) }
  else if m.1 = "citationId" then { d with citationId := some (notNull? m.2) }
  else { d with others := m :: d.others }

/-- What a member of the name `n` holds. -/
def partOf {α : Type} (n : String) (f : Value → α) (m : String × Value) : Option α :=
  if m.1 = n then some (f m.2) else none

theorem isSome_partOf {α : Type} (n : String) (f : Value → α) (m : String × Value) :
    (partOf n f m).isSome = decide (m.1 = n) := by
  by_cases h : m.1 = n <;> simp [partOf, h]

theorem fills_vectorDistance : Fills Prod.fst Draft.put "vectorDistance" (·.vectorDistance)
    (partOf "vectorDistance" real?) where
  get_put d m := by unfold Draft.put partOf; split_ifs <;> simp_all
  isSome_part := isSome_partOf _ _

theorem fills_rerankerScore : Fills Prod.fst Draft.put "rerankerScore" (·.rerankerScore)
    (partOf "rerankerScore" real?) where
  get_put d m := by unfold Draft.put partOf; split_ifs <;> simp_all
  isSome_part := isSome_partOf _ _

theorem fills_citationId : Fills Prod.fst Draft.put "citationId" (·.citationId)
    (partOf "citationId" notNull?) where
  get_put d m := by unfold Draft.put partOf; split_ifs <;> simp_all
  isSome_part := isSome_partOf _ _

theorem findSome?_partOf {α : Type} (n : String) (f : Value → α) (ms : List (String × Value)) :
    ms.findSome? (partOf n f) = (member ms n).map f := by
  induction ms with
  | nil => rfl
  | cons m ms ih =>
    rw [List.findSome?_cons]
    by_cases h : m.1 = n
    · simp [partOf, member, Value.member?, h]
    · simp [partOf, h, ih, member, Value.member?]

theorem put_others (d : Draft) (m : String × Value) :
    (d.put m).others = otherMembers [m] ++ d.others := by
  rw [otherMembers, Draft.put]
  by_cases h : m.1 ∈ fieldNames
  · rw [List.filter_cons_of_neg (by rw [decide_eq_true_eq]; exact not_not_intro h)]
    obtain h | h | h := mem_fieldNames.mp h
    all_goals simp [h]
  · rw [List.filter_cons_of_pos (by rw [decide_eq_true_eq]; exact h)]
    rw [mem_fieldNames, not_or, not_or] at h
    simp [h]

theorem others_foldl (ms : List (String × Value)) (d : Draft) :
    (ms.foldl Draft.put d).others = otherMembers ms ++ d.others := by
  induction ms generalizing d with
  | nil => rfl
  | cons m ms ih =>
    have hcons : otherMembers (m :: ms) = otherMembers ms ++ otherMembers [m] := by
      rw [otherMembers, ← List.singleton_append, List.filter_append, List.reverse_append]
      rfl
    rw [List.foldl_cons, ih, put_others, hcons, List.append_assoc]

theorem soleText?_eq_some_iff {n t : String} {ms : List (String × Value)} :
    soleText? n ms = some t ↔ ∃ n', ms.filter (·.1 = n) = [(n', .text t)] := by
  unfold soleText?
  split
  · rename_i heq
    simp [heq]
  · rename_i hnot
    simpa using fun n' => hnot n' t

/-- A text that occurs once does so from either end. -/
theorem soleText?_others {n : String} (hn : n ∉ fieldNames) (ms : List (String × Value)) :
    soleText? n (otherMembers ms) = soleText? n ms := by
  refine Option.ext fun t => ?_
  rw [soleText?_eq_some_iff, soleText?_eq_some_iff, filter_otherMembers hn]
  simp only [List.reverse_eq_iff, List.reverse_singleton]

theorem locationOf?_others (ms : List (String × Value)) :
    locationOf? (otherMembers ms) = locationOf? ms := by
  unfold locationOf?
  rw [soleText?_others (by decide), soleText?_others (by decide), soleText?_others (by decide)]

theorem join_map {α β : Type} (f : α → Option β) (o : Option α) : (o.map f).join = o.bind f := by
  cases o <;> rfl

theorem bind_notNull? (o : Option Value) :
    (o.bind notNull?).bind citationIdOfValue = o.bind citationIdOfValue := by
  cases o with
  | none => rfl
  | some v => cases v <;> rfl

/-- What was gathered is the document that the members tell. -/
theorem finish_foldl {ms : List (String × Value)}
    (honce : ((ms.map (·.1)).filter (· ∈ fieldNames)).Nodup) {s : Source} :
    (ms.foldl Draft.put {}).finish = .ok s ↔ ofMembers? ms = some s := by
  have hdistance := fills_vectorDistance.get_foldl_of_once (s := {}) (by decide) honce rfl
  have hscore := fills_rerankerScore.get_foldl_of_once (s := {}) (by decide) honce rfl
  have hid := fills_citationId.get_foldl_of_once (s := {}) (by decide) honce rfl
  have hothers : (ms.foldl Draft.put {}).others = otherMembers ms := by
    rw [others_foldl, List.append_nil]
  rw [Draft.finish, hothers, locationOf?_others, hdistance, hscore, hid, ofMembers?,
    findSome?_partOf, findSome?_partOf, findSome?_partOf, join_map, join_map, join_map,
    bind_notNull?]
  cases locationOf? ms <;> simp

/-! ### How documents are read -/

/-- A distance or a score, as it is read. -/
theorem puts_real {n : String} (hn : n = "vectorDistance" ∨ n = "rerankerScore")
    (keep : Option Binary64 → Draft → Draft)
    (hkeep : ∀ d v, Draft.put d (n, v) = keep (real? v) d) :
    Puts Prod.fst (MemberText depth) Draft.put n
      fun d bs => (readOptional readReal bs).map fun r => (keep r.1 d, r.2) := by
  refine .of keep reads_real.orNotNull (fun h => ?_) fun {m bs rest} hname h => ?_
  · cases h with
    | null =>
      exact ⟨(n, .null), rfl, ⟨valueText_null.mpr rfl, fun _ => .inl rfl⟩, fun d => hkeep d _⟩
    | some h =>
      obtain ⟨⟨x, hx, rfl⟩, -⟩ := h
      exact ⟨(n, .number x), rfl, ⟨valueText_number.mpr hx, fun _ => .inr ⟨x, rfl⟩⟩,
        fun d => hkeep d _⟩
  · obtain ⟨n', v⟩ := m
    obtain rfl : n' = n := hname
    obtain ⟨hv, hreal⟩ := h
    obtain rfl | ⟨x, rfl⟩ := hreal hn
    · obtain rfl := valueText_null.mp hv
      exact ⟨none, .null, fun d => hkeep d _⟩
    · have hx := valueText_number.mp hv
      have hnull : bs.head? ≠ some Byte.lowerN := fun hnull => nomatch hv.head?_eq_iff.mp hnull
      exact ⟨some x.toBinary64, .some ⟨⟨x, hx, rfl⟩, hnull⟩, fun d => hkeep d _⟩

theorem memberText_of_value {n : String} (hn : n ∉ ["vectorDistance", "rerankerScore"])
    {v : Value} : MemberText depth (n, v) bs rest ↔ ValueText depth v bs rest :=
  and_iff_left fun h => absurd (by simpa using h) hn

theorem notNull?_of_ne {v : Value} (h : v ≠ .null) : notNull? v = some v := by
  cases v with
  | null => exact absurd rfl h
  | _ => rfl

theorem puts_citationId : Puts Prod.fst (MemberText depth) Draft.put "citationId"
    fun d bs => (readOptional (readValue depth) bs).map fun r =>
      ({ d with citationId := some r.1 }, r.2) := by
  have hput : ∀ (d : Draft) v, d.put ("citationId", v) =
      { d with citationId := some (notNull? v) } := fun _ _ => rfl
  refine .of (fun o (d : Draft) => { d with citationId := some o }) (reads_value depth).orNotNull
    (fun h => ?_) fun {m bs rest} hname h => ?_
  · cases h with
    | null =>
      exact ⟨("citationId", .null), rfl,
        (memberText_of_value (by decide)).mpr (valueText_null.mpr rfl), fun d => hput d _⟩
    | @some v _ _ h =>
      have hv : v ≠ .null := fun hv => h.2 (h.1.head?_eq_iff.mpr hv)
      refine ⟨("citationId", v), rfl, (memberText_of_value (by decide)).mpr h.1, fun d => ?_⟩
      rw [hput, notNull?_of_ne hv]
  · obtain ⟨n', v⟩ := m
    obtain rfl : n' = "citationId" := hname
    by_cases hv : v = .null
    · subst hv
      obtain rfl := valueText_null.mp h.1
      exact ⟨none, .null, fun d => hput d _⟩
    · have hnull : bs.head? ≠ some Byte.lowerN := fun hnull => hv (h.1.head?_eq_iff.mp hnull)
      exact ⟨some v, .some ⟨h.1, hnull⟩, fun d => by rw [hput, notNull?_of_ne hv]⟩

theorem puts_other {n : String} (hn : n ∉ fieldNames) :
    Puts Prod.fst (MemberText depth) Draft.put n (record.readOther depth n) := by
  rw [mem_fieldNames, not_or, not_or] at hn
  refine .of (fun v (d : Draft) => { d with others := (n, v) :: d.others }) (reads_value depth)
    (fun {v _ _} h => ⟨(n, v), rfl, ?_, fun d => ?_⟩) fun {m bs rest} hname h => ?_
  · exact (memberText_of_value (by simp [hn])).mpr h
  · simp [Draft.put, hn]
  · obtain ⟨n', v⟩ := m
    obtain rfl : n' = n := hname
    exact ⟨v, h.1, fun d => by simp [Draft.put, hn]⟩

theorem gathers_record (depth : Nat) :
    record.Gathers depth Prod.fst (MemberText depth) Draft.put where
  starts h := (reads_value depth).starts h.1
  shorter h := (reads_value depth).shorter h.1
  nodup := by decide
  field := by
    simp only [record, List.forall_mem_cons, List.not_mem_nil, false_implies, implies_true,
      and_true]
    exact ⟨puts_real (.inl rfl) (fun v d => { d with vectorDistance := some v }) fun d v => rfl,
      puts_real (.inr rfl) (fun v d => { d with rerankerScore := some v }) fun d v => rfl,
      puts_citationId⟩
  other n hn := puts_other hn
  optional := by decide
  unread := by decide
  isRead_put := by
    simp only [record, List.forall_mem_cons, List.not_mem_nil, false_implies, implies_true,
      and_true]
    exact ⟨fills_vectorDistance.isSome_put, fills_rerankerScore.isSome_put,
      fills_citationId.isSome_put⟩

theorem textOf_record {s : Source} :
    Record.TextOf record Prod.fst (MemberText depth) Draft.put s bs rest ↔
      DocumentText depth s bs rest := by
  constructor
  · intro h
    cases h with
    | object h honce hs => exact .intro h honce ((finish_foldl honce).mp hs)
    | list hlist => cases hlist
  · intro h
    cases h with
    | intro h honce hs => exact .object h honce ((finish_foldl honce).mpr hs)

/-- A document is read from its texts, and from nothing else. -/
theorem reads_document (depth : Nat) : Reads (readJson depth) (Deeper DocumentText depth) := by
  have hsame : DocumentText =
      fun d => Record.TextOf record Prod.fst (MemberText d) Draft.put := by
    funext d s bs rest
    exact propext textOf_record.symm
  rw [hsame]
  exact Record.Gathers.reads fun d _ => gathers_record d

end Dialogue.Source
