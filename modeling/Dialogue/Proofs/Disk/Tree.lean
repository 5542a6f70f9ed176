/-
Trees that grow and change, seen through paths.

A path is followed through directories only, so a path that leads somewhere goes on leading to
the same place as long as no directory goes away (`follow_mono`).  Making directories may still
let a path lead somewhere that led nowhere before.  If it has no `..` in it, it then leads to
something new, because whatever stands in a tree stands in a directory that was there before
it; but `x/../b` leads to `b` as soon as `x` is made, and `b` may have been there all the time.

What a file operation did is said once (`write_cases`, `rename_cases`).
-/
import Mathlib.Data.List.Induction
import Mathlib.Tactic.Common
import Dialogue.Disk.Tree
import Dialogue.Proofs.Disk.Path

namespace Dialogue

namespace FileTree

variable {t t' t'' : FileTree} {place : Place} {p : String}

/-! ### Nodes -/

theorem lookup_filter_ne (nodes : List (Place × FileNode)) (place q : Place) :
    (nodes.filter (·.1 ≠ place)).lookup q = if q = place then none else nodes.lookup q := by
  induction nodes with
  | nil => simp
  | cons n nodes ih =>
    obtain ⟨k, n⟩ := n
    by_cases hk : k = place
    · subst hk
      rw [List.filter_cons_of_neg (by simp), ih]
      by_cases hq : q = k
      · simp [hq]
      · simp [hq, List.lookup_cons, beq_eq_false_iff_ne.mpr hq]
    · rw [List.filter_cons_of_pos (by simpa using hk), List.lookup_cons, List.lookup_cons, ih]
      by_cases hq : q = k
      · simp [hq, hk]
      · simp [beq_eq_false_iff_ne.mpr hq]

@[simp] theorem node?_root (t : FileTree) : t.node? [] = some .directory := rfl

theorem node?_remove (t : FileTree) (e : Entry) (q : Place) :
    (t.remove e.place).node? q = if q = e.place then none else t.node? q := by
  cases q with
  | nil => rfl
  | cons k q => exact lookup_filter_ne t.nodes _ _

theorem node?_put (t : FileTree) (e : Entry) (n : FileNode) (q : Place) :
    (t.put e.place n).node? q = if q = e.place then some n else t.node? q := by
  cases q with
  | nil => rfl
  | cons k q =>
    have hlookup : (t.put e.place n).node? (k :: q) =
        ((e.place, n) :: (t.remove e.place).nodes).lookup (k :: q) := rfl
    rw [hlookup, List.lookup_cons]
    by_cases hq : k :: q = e.place
    · simp [hq]
    · rw [beq_eq_false_iff_ne.mpr hq, if_neg hq]
      exact (node?_remove t e (k :: q)).trans (if_neg hq)

/-- Everything stands in a directory. -/
def Grounded (t : FileTree) : Prop :=
  ∀ place n, t.node? place = some n → t.node? place.tail = some .directory

theorem mem_of_lookup {nodes : List (Place × FileNode)} {n : FileNode}
    (h : nodes.lookup place = some n) : (place, n) ∈ nodes := by
  induction nodes with
  | nil => cases h
  | cons m nodes ih =>
    rw [List.lookup_cons] at h
    split at h
    · rename_i hplace
      obtain rfl := Option.some.inj h
      rw [beq_iff_eq.mp hplace]
      exact List.mem_cons_self
    · exact List.mem_cons_of_mem m (ih h)

theorem grounded_of_nodes (h : ∀ n ∈ t.nodes, t.node? n.1.tail = some .directory) :
    t.Grounded := by
  intro place n hn
  cases place with
  | nil => rfl
  | cons name parent => exact h _ (mem_of_lookup hn)

/-! ### Growing -/

/-- Nothing went away, and nothing is new but directories, each in a directory. -/
structure Grown (t t' : FileTree) : Prop where
  kept : ∀ place n, t.node? place = some n → t'.node? place = some n
  made : ∀ place n, t'.node? place = some n → t.node? place = some n ∨
    n = .directory ∧ t'.node? place.tail = some .directory

theorem Grown.refl (t : FileTree) : Grown t t := ⟨fun _ _ h => h, fun _ _ h => .inl h⟩

theorem Grown.trans (h : Grown t t') (h' : Grown t' t'') : Grown t t'' where
  kept place n hn := h'.kept place n (h.kept place n hn)
  made place n hn := by
    rcases h'.made place n hn with hold | hnew
    · rcases h.made place n hold with hold | ⟨rfl, htail⟩
      · exact .inl hold
      · exact .inr ⟨rfl, h'.kept _ _ htail⟩
    · exact .inr hnew

theorem Grown.grounded (h : Grown t t') (hg : t.Grounded) : t'.Grounded := by
  intro place n hn
  rcases h.made place n hn with hold | ⟨-, htail⟩
  · exact h.kept _ _ (hg place n hold)
  · exact htail

theorem Grown.file_iff (h : Grown t t') {content : List UInt8} :
    t'.node? place = some (.file content) ↔ t.node? place = some (.file content) := by
  constructor
  · intro hn
    rcases h.made _ _ hn with hold | ⟨hdirectory, -⟩
    · exact hold
    · cases hdirectory
  · exact h.kept _ _

/-! ### Following -/

theorem child?_eq_ok {parent : Place} {name : String} {n : Option FileNode} :
    t.child? parent name = .ok n ↔
      name.utf8ByteSize ≤ nameLimit ∧ t.node? (name :: parent) = n := by
  unfold child?
  by_cases hlimit : nameLimit < name.utf8ByteSize
  · rw [if_pos hlimit]
    exact iff_of_false (by simp) fun h => Nat.not_lt_of_le h.1 hlimit
  · rw [if_neg hlimit, Except.ok.injEq]
    exact ⟨fun h => ⟨Nat.le_of_not_lt hlimit, h⟩, fun h => h.2⟩

theorem enter_eq_ok {q : Place} {name : String} (h : t.enter place name = .ok q) :
    (name = "." ∧ q = place) ∨ (name = ".." ∧ q = place.tail) ∨
    (name ≠ "." ∧ name ≠ ".." ∧ q = name :: place ∧ t.child? place name = .ok (some .directory)) := by
  unfold enter at h
  split_ifs at h with hdot hup
  · exact .inl ⟨hdot, (Except.ok.inj h).symm⟩
  · exact .inr (.inl ⟨hup, (Except.ok.inj h).symm⟩)
  · split at h
    · cases h
    · cases h
    · cases h
    · rename_i hchild
      exact .inr (.inr ⟨hdot, hup, (Except.ok.inj h).symm, hchild⟩)

theorem enter_of_child {name : String} (hdot : name ≠ ".") (hup : name ≠ "..")
    (h : t.child? place name = .ok (some .directory)) : t.enter place name = .ok (name :: place) := by
  unfold enter
  rw [if_neg hdot, if_neg hup, h]

/-- Every directory of the one is one of the other. -/
def Keeps (t t' : FileTree) : Prop :=
  ∀ place, t.node? place = some .directory → t'.node? place = some .directory

theorem enter_mono (h : Keeps t t') {q : Place} {name : String} (henter : t.enter place name = .ok q) :
    t'.enter place name = .ok q := by
  rcases enter_eq_ok henter with ⟨rfl, rfl⟩ | ⟨rfl, rfl⟩ | ⟨hdot, hup, rfl, hchild⟩
  · rfl
  · rfl
  · obtain ⟨hlimit, hnode⟩ := child?_eq_ok.mp hchild
    exact enter_of_child hdot hup (child?_eq_ok.mpr ⟨hlimit, h _ hnode⟩)

theorem walk_mono (h : Keeps t t') {front : List String} {q : Place}
    (hwalk : front.foldlM t.enter place = .ok q) : front.foldlM t'.enter place = .ok q := by
  induction front generalizing place with
  | nil => exact hwalk
  | cons name front ih =>
    rw [List.foldlM_cons] at hwalk ⊢
    cases henter : t.enter place name with
    | error e =>
      rw [henter] at hwalk
      cases hwalk
    | ok q' =>
      rw [henter] at hwalk
      rw [enter_mono h henter]
      exact ih hwalk

theorem bind_eq_ok {ε α β : Type} {x : Except ε α} {f : α → Except ε β} {b : β}
    (h : x >>= f = .ok b) : ∃ a, x = .ok a ∧ f a = .ok b := by
  cases x with
  | error e => cases h
  | ok a => exact ⟨a, rfl, h⟩

/-- A path that a disk looks at. -/
def Sound (p : String) : Prop := p.toList.contains '\x00' = false ∧ p.utf8ByteSize ≤ pathLimit

theorem sound_of_follow {x : Target} (h : t.follow p = .ok x) : Sound p := by
  unfold follow at h
  split_ifs at h with hzero hlimit
  all_goals exact ⟨eq_false_of_ne_true hzero, Nat.le_of_not_lt hlimit⟩

/-- What the last name of a path leads to. -/
def last (t : FileTree) (claimsDirectory : Bool) (name : String) (parent : Place) :
    Except DiskRefusal Target :=
  if name = "." || name = ".." then (t.enter parent name).map .directory
  else .ok (.entry ⟨parent, name, claimsDirectory⟩)

/-- A path is followed through all of its names but the last one. -/
theorem follow_of_names (hp : Sound p) {front : List String} {name : String}
    (hnames : Path.names p = front ++ [name]) :
    t.follow p = front.foldlM t.enter [] >>= t.last (p.endsWith "/") name := by
  have hreverse : (Path.names p).reverse = name :: front.reverse := by simp [hnames]
  rw [follow, if_neg (by rw [hp.1]; decide), if_neg (Nat.not_lt_of_le hp.2), hreverse]
  dsimp only
  rw [List.reverse_reverse]
  rfl

theorem follow_of_no_names (hp : Sound p) (hnames : Path.names p = []) :
    t.follow p = if p = "" then .error .missing else .ok (.directory []) := by
  rw [follow, if_neg (by rw [hp.1]; decide), if_neg (Nat.not_lt_of_le hp.2), hnames]
  rfl

/-- A name of dots leads to a directory, and any other one to an entry. -/
theorem last_eq_ok {claimsDirectory : Bool} {name : String} {x : Target}
    (h : t.last claimsDirectory name place = .ok x) :
    ((name = "." ∨ name = "..") ∧ ∃ q, t.enter place name = .ok q ∧ x = .directory q) ∨
    (name ≠ "." ∧ name ≠ ".." ∧ x = .entry ⟨place, name, claimsDirectory⟩) := by
  unfold last at h
  split at h
  · rename_i hdots
    cases henter : t.enter place name with
    | error e =>
      rw [henter] at h
      cases h
    | ok q =>
      rw [henter] at h
      exact .inl ⟨by simpa using hdots, q, rfl, (Except.ok.inj h).symm⟩
  · rename_i hdots
    simp only [Bool.or_eq_true, decide_eq_true_eq, not_or] at hdots
    exact .inr ⟨hdots.1, hdots.2, (Except.ok.inj h).symm⟩

theorem last_mono (h : Keeps t t') {claimsDirectory : Bool} {name : String} {x : Target}
    (hlast : t.last claimsDirectory name place = .ok x) :
    t'.last claimsDirectory name place = .ok x := by
  unfold last
  rcases last_eq_ok hlast with ⟨hdots, q, henter, rfl⟩ | ⟨hdot, hup, rfl⟩
  · rw [if_pos (by simpa using hdots), enter_mono h henter]
    rfl
  · rw [if_neg (by simp [hdot, hup])]

/-- How a path leads somewhere: it has no names and is the root, or the last one is looked up in
the directory that the others lead to. -/
theorem follow_cases {x : Target} (h : t.follow p = .ok x) :
    Sound p ∧ ((Path.names p = [] ∧ p ≠ "" ∧ x = .directory []) ∨
      ∃ front name parent, Path.names p = front ++ [name] ∧
        front.foldlM t.enter [] = .ok parent ∧ t.last (p.endsWith "/") name parent = .ok x) := by
  have hsound := sound_of_follow h
  refine ⟨hsound, ?_⟩
  rcases (Path.names p).eq_nil_or_concat with hnames | ⟨front, name, hnames⟩
  · rw [follow_of_no_names hsound hnames] at h
    split_ifs at h with hempty
    exact .inl ⟨hnames, hempty, (Except.ok.inj h).symm⟩
  · rw [List.concat_eq_append] at hnames
    rw [follow_of_names hsound hnames] at h
    obtain ⟨parent, hwalk, hlast⟩ := bind_eq_ok h
    exact .inr ⟨front, name, parent, hnames, hwalk, hlast⟩

/-- A path that leads somewhere, leads there as long as the directories stay. -/
theorem follow_mono (h : Keeps t t') {x : Target} (hfollow : t.follow p = .ok x) :
    t'.follow p = .ok x := by
  obtain ⟨hsound, ⟨hnames, hempty, rfl⟩ | ⟨front, name, parent, hnames, hwalk, hlast⟩⟩ :=
    follow_cases hfollow
  · rw [follow_of_no_names hsound hnames, if_neg hempty]
  · rw [follow_of_names hsound hnames, walk_mono h hwalk]
    exact last_mono h hlast

/-- How a path leads to an entry. -/
theorem follow_eq_entry {e : Entry} (h : t.follow p = .ok (.entry e)) :
    ∃ front, Path.names p = front ++ [e.name] ∧ e.name ≠ "." ∧ e.name ≠ ".." ∧
      front.foldlM t.enter [] = .ok e.parent := by
  obtain ⟨-, ⟨-, -, hx⟩ | ⟨front, name, parent, hnames, hwalk, hlast⟩⟩ := follow_cases h
  · cases hx
  · rcases last_eq_ok hlast with ⟨-, q, -, hx⟩ | ⟨hdot, hup, hx⟩
    · cases hx
    · cases hx
      exact ⟨front, hnames, hdot, hup, hwalk⟩

theorem lastName?_of_follow {e : Entry} (h : t.follow p = .ok (.entry e)) :
    Path.lastName? p = some e.name ∧ e.name ≠ "." ∧ e.name ≠ ".." := by
  obtain ⟨front, hnames, hdot, hup, -⟩ := follow_eq_entry h
  refine ⟨?_, hdot, hup⟩
  rw [Path.lastName?, hnames, List.getLast?_concat]

/-! ### Paths that do not go up -/

/-- No name on the way is `..`. -/
def GoesDown (p : String) : Prop := ".." ∉ Path.names p

/-- A way down to a directory that is there in another tree can be gone there as well. -/
theorem walk_of_down (hg : t.Grounded) {front : List String} (hdown : ".." ∉ front) {q : Place}
    (hwalk : front.foldlM t'.enter [] = .ok q) (hq : t.node? q = some .directory) :
    front.foldlM t.enter [] = .ok q := by
  induction front using List.reverseRecOn generalizing q with
  | nil => exact hwalk
  | append_singleton front name ih =>
    rw [List.mem_append, not_or, List.mem_singleton] at hdown
    rw [List.foldlM_append] at hwalk ⊢
    obtain ⟨parent, hfront, hname⟩ := bind_eq_ok hwalk
    simp only [List.foldlM_cons, List.foldlM_nil, bind_pure] at hname
    rcases enter_eq_ok hname with ⟨rfl, rfl⟩ | ⟨rfl, -⟩ | ⟨hdot, hup, rfl, hchild⟩
    · rw [ih hdown.1 hfront hq]
      rfl
    · exact absurd rfl hdown.2
    · rw [ih hdown.1 hfront (hg _ _ hq)]
      have hlimit := (child?_eq_ok.mp hchild).1
      have henter := enter_of_child hdot hup (child?_eq_ok.mpr ⟨hlimit, hq⟩)
      simp [List.foldlM_cons, bind, Except.bind, henter, pure, Except.pure]

theorem follow_of_down (hg : t.Grounded) (hdown : GoesDown p) {e : Entry}
    (hfollow : t'.follow p = .ok (.entry e)) (hparent : t.node? e.parent = some .directory) :
    t.follow p = .ok (.entry e) := by
  obtain ⟨front, hnames, hdot, hup, hwalk⟩ := follow_eq_entry hfollow
  have hsound := sound_of_follow hfollow
  rw [GoesDown, hnames, List.mem_append, not_or] at hdown
  rw [follow_of_names hsound hnames] at hfollow ⊢
  rw [hwalk] at hfollow
  rw [walk_of_down hg hdown.1 hwalk hparent, ← hfollow]
  simp [bind, Except.bind, last, hdot, hup]

/-! ### Files -/

/-- The place and the content of the file that a path leads to. -/
def fileAt? (t : FileTree) (p : String) : Option (Place × List UInt8) :=
  match t.follow p with
  | .ok (.entry e) =>
    match t.child? e.parent e.name with
    | .ok (some (.file content)) => if e.claimsDirectory then none else some (e.place, content)
    | _ => none
  | _ => none

theorem fileAt?_eq_some {content : List UInt8} :
    t.fileAt? p = some (place, content) ↔
      ∃ e, t.follow p = .ok (.entry e) ∧ e.claimsDirectory = false ∧
        e.name.utf8ByteSize ≤ nameLimit ∧ t.node? e.place = some (.file content) ∧
        e.place = place := by
  unfold fileAt?
  constructor
  · intro h
    split at h
    · rename_i e hfollow
      split at h
      · rename_i hchild
        split_ifs at h with hclaims
        obtain ⟨rfl, rfl⟩ := Prod.mk.inj (Option.some.inj h)
        obtain ⟨hlimit, hnode⟩ := child?_eq_ok.mp hchild
        exact ⟨e, hfollow, eq_false_of_ne_true hclaims, hlimit, hnode, rfl⟩
      · cases h
    · cases h
  · rintro ⟨e, hfollow, hclaims, hlimit, hnode, rfl⟩
    rw [hfollow]
    dsimp only
    rw [child?_eq_ok.mpr ⟨hlimit, hnode⟩]
    simp [hclaims]

/-- The path leads somewhere, or it does not go up.  Then no directory that is made lets it lead
to something that is there already. -/
def Settled (t : FileTree) (p : String) : Prop := (∃ x, t.follow p = .ok x) ∨ GoesDown p

theorem Settled.mono (h : Keeps t t') (hp : t.Settled p) : t'.Settled p :=
  hp.imp_left fun ⟨x, hx⟩ => ⟨x, follow_mono h hx⟩

theorem Grown.keeps (h : Grown t t') : Keeps t t' := fun place => h.kept place .directory

theorem Grown.fileAt? (h : Grown t t') (hg : t.Grounded) (hp : t.Settled p) :
    t'.fileAt? p = t.fileAt? p := by
  apply Option.ext
  rintro ⟨place, content⟩
  rw [fileAt?_eq_some, fileAt?_eq_some]
  constructor
  · rintro ⟨e, hfollow, hclaims, hlimit, hnode, rfl⟩
    have hold := h.file_iff.mp hnode
    refine ⟨e, ?_, hclaims, hlimit, hold, rfl⟩
    rcases hp with ⟨x, hx⟩ | hdown
    · rw [hx, ← follow_mono h.keeps hx, hfollow]
    · exact follow_of_down hg hdown hfollow (hg _ _ hold)
  · rintro ⟨e, hfollow, hclaims, hlimit, hnode, rfl⟩
    exact ⟨e, follow_mono h.keeps hfollow, hclaims, hlimit, h.file_iff.mpr hnode, rfl⟩

/-! ### Operations -/

theorem attempt_cases {t' : FileTree} {x : Except DiskRefusal FileTree}
    {r : Except DiskRefusal Unit} (h : t.attempt x = (r, t')) :
    (r = .ok () ∧ x = .ok t') ∨ ((∃ e, r = .error e) ∧ t' = t) := by
  cases x with
  | ok u =>
    cases h
    exact .inl ⟨rfl, rfl⟩
  | error e =>
    cases h
    exact .inr ⟨⟨e, rfl⟩, rfl⟩

/-- Writing a file puts it into a directory that is there, or does nothing. -/
theorem write_cases {content : List UInt8} {r : Except DiskRefusal Unit}
    (h : t.write p content = (r, t')) :
    (r = .ok () ∧ ∃ e, t.follow p = .ok (.entry e) ∧ e.claimsDirectory = false ∧
      e.name.utf8ByteSize ≤ nameLimit ∧ t.node? e.place ≠ some .directory ∧
      t' = t.put e.place (.file content)) ∨
    ((∃ e, r = .error e) ∧ t' = t) := by
  rcases attempt_cases h with ⟨rfl, hx⟩ | herror
  · obtain ⟨x, hfollow, hx⟩ := bind_eq_ok hx
    cases x with
    | directory q => cases hx
    | entry e =>
      dsimp only at hx
      split at hx
      · cases hx
      · rename_i hclaims
        obtain ⟨n, hchild, hx⟩ := bind_eq_ok hx
        obtain ⟨hlimit, hnode⟩ := child?_eq_ok.mp hchild
        split at hx
        · cases hx
        · rename_i hdirectory
          refine .inl ⟨rfl, e, hfollow, eq_false_of_ne_true hclaims, hlimit, ?_,
            (Except.ok.inj hx).symm⟩
          intro hnode'
          exact hdirectory (hnode.symm.trans hnode')
  · exact .inr herror

theorem move_eq_ok {source target : Entry} (h : t.move source target = .ok t') :
    ∃ content, source.claimsDirectory = false ∧ source.name.utf8ByteSize ≤ nameLimit ∧
      target.claimsDirectory = false ∧ target.name.utf8ByteSize ≤ nameLimit ∧
      t.node? source.place = some (.file content) ∧ t.node? target.place ≠ some .directory ∧
      t' = (t.remove source.place).put target.place (.file content) := by
  obtain ⟨n, hsource, h⟩ := bind_eq_ok h
  split at h
  · cases h
  · cases h
  · rename_i content
    obtain ⟨replaced, htarget, h⟩ := bind_eq_ok h
    obtain ⟨hlimit, hreplaced⟩ := child?_eq_ok.mp htarget
    dsimp only at h
    split at h
    · cases h
    · rename_i hclaims
      split at h
      · cases h
      · rename_i hdirectory
        simp only [Bool.or_eq_true, not_or, Bool.not_eq_true] at hclaims
        obtain ⟨hlimit', hnode⟩ := child?_eq_ok.mp hsource
        refine ⟨content, hclaims.1, hlimit', hclaims.2, hlimit, hnode, ?_, (Except.ok.inj h).symm⟩
        intro hnode
        exact hdirectory (hreplaced.symm.trans hnode)

/-- Moving a file takes it away from the one place and puts it to the other, or does nothing. -/
theorem rename_cases {q : String} {r : Except DiskRefusal Unit} (h : t.rename p q = (r, t')) :
    (r = .ok () ∧ ∃ source target content, t.follow p = .ok (.entry source) ∧
      t.follow q = .ok (.entry target) ∧ source.claimsDirectory = false ∧
      source.name.utf8ByteSize ≤ nameLimit ∧ target.claimsDirectory = false ∧
      target.name.utf8ByteSize ≤ nameLimit ∧ t.node? source.place = some (.file content) ∧
      t.node? target.place ≠ some .directory ∧
      t' = (t.remove source.place).put target.place (.file content)) ∨
    ((∃ e, r = .error e) ∧ t' = t) := by
  rcases attempt_cases h with ⟨rfl, hx⟩ | herror
  · obtain ⟨x, hp, hx⟩ := bind_eq_ok hx
    obtain ⟨y, hq, hx⟩ := bind_eq_ok hx
    cases x with
    | directory => cases hx
    | entry source =>
      cases y with
      | directory => cases hx
      | entry target =>
        obtain ⟨content, hmove⟩ := move_eq_ok hx
        exact .inl ⟨rfl, source, target, content, hp, hq, hmove⟩
  · exact .inr herror

/-! ### Directories on the way -/

theorem enter_directory (hg : t.Grounded) (hplace : t.node? place = some .directory) {q : Place}
    {name : String} (h : t.enter place name = .ok q) : t.node? q = some .directory := by
  rcases enter_eq_ok h with ⟨-, rfl⟩ | ⟨-, rfl⟩ | ⟨-, -, rfl, hchild⟩
  · exact hplace
  · exact hg _ _ hplace
  · exact (child?_eq_ok.mp hchild).2

theorem walk_directory (hg : t.Grounded) {front : List String}
    (hplace : t.node? place = some .directory) {q : Place}
    (h : front.foldlM t.enter place = .ok q) : t.node? q = some .directory := by
  induction front generalizing place with
  | nil =>
    cases h
    exact hplace
  | cons name front ih =>
    obtain ⟨q', henter, h⟩ := bind_eq_ok h
    exact ih (enter_directory hg hplace henter) h

theorem directory_of_follow (hg : t.Grounded) {e : Entry} (h : t.follow p = .ok (.entry e)) :
    t.node? e.parent = some .directory := by
  obtain ⟨front, -, -, -, hwalk⟩ := follow_eq_entry h
  exact walk_directory hg (node?_root t) hwalk

theorem node?_of_follow (hg : t.Grounded) (h : t.follow p = .ok (.directory place)) :
    t.node? place = some .directory := by
  obtain ⟨-, ⟨-, -, hx⟩ | ⟨front, name, parent, -, hwalk, hlast⟩⟩ := follow_cases h
  · cases hx
    exact node?_root t
  · rcases last_eq_ok hlast with ⟨-, q, henter, hx⟩ | ⟨-, -, hx⟩
    · cases hx
      exact enter_directory hg (walk_directory hg (node?_root t) hwalk) henter
    · cases hx

theorem ne_parent (e : Entry) : e.parent ≠ e.place := (List.cons_ne_self e.name e.parent).symm

/-! ### Making directories -/

theorem createDir_grown (hg : t.Grounded) (h : t.createDir p = .ok t') : Grown t t' := by
  obtain ⟨x, hfollow, h⟩ := bind_eq_ok h
  cases x with
  | directory => cases h
  | entry e =>
    obtain ⟨n, hchild, h⟩ := bind_eq_ok h
    cases n with
    | some n => cases h
    | none =>
      cases h
      have hnone : t.node? e.place = none := (child?_eq_ok.mp hchild).2
      constructor
      · intro q n hn
        have hq : q ≠ e.place := by
          rintro rfl
          rw [hnone] at hn
          cases hn
        rw [node?_put, if_neg hq]
        exact hn
      · intro q n hn
        rw [node?_put] at hn
        split_ifs at hn with hq
        · subst hq
          refine .inr ⟨(Option.some.inj hn).symm, ?_⟩
          rw [Entry.place, List.tail_cons, ← Entry.place, node?_put, if_neg (ne_parent e)]
          exact directory_of_follow hg hfollow
        · exact .inl hn

theorem ensureDir_grown (hg : t.Grounded) : Grown t (ensureDir p t).2 := by
  unfold ensureDir
  split
  · exact createDir_grown hg ‹_›
  · exact .refl t

end FileTree

/-- What every step of seeing to directories does to a disk, all of them do. -/
theorem ensureDirs_induction {σ : Type} {ensure : String → StateM σ (Except DiskRefusal Unit)}
    {R : σ → σ → Prop} (refl : ∀ s, R s s) (trans : ∀ {s s' s''}, R s s' → R s' s'' → R s s'')
    (step : ∀ p s, R s (ensure p s).2) (p : String) (s : σ) : R s (ensureDirs ensure p s).2 := by
  induction hlength : p.length using Nat.strongRecOn generalizing p s with
  | _ n ih =>
    rw [ensureDirs]
    by_cases hp : p = ""
    · rw [if_pos hp]
      exact refl s
    rw [if_neg hp]
    simp only [bind, StateT.bind]
    have hfirst := step p s
    generalize ensure p s = first at hfirst
    obtain ⟨answer, s'⟩ := first
    dsimp only at hfirst ⊢
    split
    · cases hparent : Path.parent? p with
      | none => exact hfirst
      | some q =>
        -- The directories above are seen to first.
        have habove := ih _ (hlength ▸ Path.length_lt_of_parent? hparent) q s' rfl
        simp only [StateT.bind, bind]
        generalize ensureDirs ensure q s' = above at habove ⊢
        obtain ⟨answer, s''⟩ := above
        dsimp only at habove ⊢
        split
        · exact trans (trans hfirst habove) (step p s'')
        · exact trans hfirst habove
    · exact hfirst

namespace FileTree

variable {t t' t'' : FileTree} {place : Place} {p : String}

theorem createDirs_grown (hg : t.Grounded) (p : String) : Grown t (t.createDirs p).2 := by
  exact ensureDirs_induction (R := fun t t' : FileTree => t.Grounded → Grown t t')
    (fun t _ => .refl t) (fun h h' hg => (h hg).trans (h' ((h hg).grounded hg)))
    (fun p t hg => ensureDir_grown hg) p t hg

/-! ### Putting files -/

theorem keeps_put {e : Entry} {content : List UInt8} (h : t.node? e.place ≠ some .directory) :
    Keeps t (t.put e.place (.file content)) ∧ Keeps (t.put e.place (.file content)) t := by
  constructor
  · intro q hq
    have hne : q ≠ e.place := by
      rintro rfl
      exact h hq
    rw [node?_put, if_neg hne]
    exact hq
  · intro q hq
    rw [node?_put] at hq
    split_ifs at hq
    · cases hq
    · exact hq

theorem grounded_put (hg : t.Grounded) {e : Entry} {content : List UInt8}
    (hparent : t.node? e.parent = some .directory) (h : t.node? e.place ≠ some .directory) :
    (t.put e.place (.file content)).Grounded := by
  intro q n hn
  refine (keeps_put h).1 _ ?_
  rw [node?_put] at hn
  split_ifs at hn with hq
  · subst hq
    exact hparent
  · exact hg q n hn

theorem keeps_remove {e : Entry} (h : t.node? e.place ≠ some .directory) :
    Keeps t (t.remove e.place) := by
  intro q hq
  have hne : q ≠ e.place := by
    rintro rfl
    exact h hq
  rw [node?_remove, if_neg hne]
  exact hq

theorem grounded_remove (hg : t.Grounded) {e : Entry} (h : t.node? e.place ≠ some .directory) :
    (t.remove e.place).Grounded := by
  intro q n hn
  refine keeps_remove h _ ?_
  rw [node?_remove] at hn
  split_ifs at hn
  exact hg q n hn

/-- A file elsewhere is not touched. -/
theorem fileAt?_put {e : Entry} {content : List UInt8} (h : t.node? e.place ≠ some .directory)
    (hp : ∀ e', t.follow p = .ok (.entry e') → e'.place ≠ e.place) :
    (t.put e.place (.file content)).fileAt? p = t.fileAt? p := by
  have hnode : ∀ e', t.follow p = .ok (.entry e') →
      (t.put e.place (.file content)).node? e'.place = t.node? e'.place := by
    intro e' he'
    rw [node?_put, if_neg (hp e' he')]
  apply Option.ext
  rintro ⟨place, content⟩
  rw [fileAt?_eq_some, fileAt?_eq_some]
  constructor
  · rintro ⟨e', hfollow, hrest⟩
    have hfollow' := follow_mono (keeps_put h).2 hfollow
    rw [hnode e' hfollow'] at hrest
    exact ⟨e', hfollow', hrest⟩
  · rintro ⟨e', hfollow, hrest⟩
    rw [← hnode e' hfollow] at hrest
    exact ⟨e', follow_mono (keeps_put h).1 hfollow, hrest⟩

end FileTree

end Dialogue
