/-
Disks that may refuse anything, and do nothing else.

What is behind a disk can be anything, as long as it shows a tree of files, some of which may
not be readable (`Volume`).  A disk is honest if the tree has not changed by more than what it
was asked for: an operation that was refused may have made directories, or may have left a part
of a file where the whole of it was to be written, and a file that was written as a whole can be
read.  When it refuses is left to the disk.

The tree in memory is honest, and so is one that refuses what a script tells it to refuse.
-/
import Mathlib.Logic.Function.Basic
import Dialogue.Proofs.Disk.Tree

namespace Dialogue

/-- A tree with files that cannot be read. -/
structure Volume where
  tree : FileTree
  locked : Place → Bool

namespace Volume

open FileTree

variable {v v' v'' : Volume} {p q : String} {content : List UInt8}

/-- What a reader finds: a locked file is there and cannot be read. -/
def look (v : Volume) (p : String) : Found :=
  match v.tree.fileAt? p with
  | none => .nothing
  | some (place, content) => if v.locked place then .unreadable else .content content

/-- Directories were made. -/
structure Made (v v' : Volume) : Prop where
  grown : Grown v.tree v'.tree
  locked : v'.locked = v.locked

/-- What can come of writing a file. -/
inductive Wrote (v : Volume) (p : String) (content : List UInt8) :
    Except DiskRefusal Unit → Volume → Prop
  | whole {e : Entry} {tree : FileTree} (hfollow : v.tree.follow p = .ok (.entry e))
      (hwrite : v.tree.write p content = (.ok (), tree)) :
      Wrote v p content (.ok ()) ⟨tree, Function.update v.locked e.place false⟩
  | part {cause : DiskRefusal} {found : List UInt8} {tree : FileTree}
      (hwrite : v.tree.write p found = (.ok (), tree)) :
      Wrote v p content (.error cause) ⟨tree, v.locked⟩
  | refused {cause : DiskRefusal} : Wrote v p content (.error cause) v

/-- What can come of moving a file. -/
inductive Moved (v : Volume) (p q : String) : Except DiskRefusal Unit → Volume → Prop
  | done {source target : Entry} {tree : FileTree}
      (hsource : v.tree.follow p = .ok (.entry source))
      (htarget : v.tree.follow q = .ok (.entry target))
      (hrename : v.tree.rename p q = (.ok (), tree)) :
      Moved v p q (.ok ())
        ⟨tree, Function.update v.locked target.place (v.locked source.place)⟩
  | refused {cause : DiskRefusal} : Moved v p q (.error cause) v

/-! ### What is left afterwards -/

theorem Made.refl (v : Volume) : v.Made v := ⟨.refl v.tree, rfl⟩

theorem Made.look (h : v.Made v') (hg : v.tree.Grounded) (hp : v.tree.Settled p) :
    v'.look p = v.look p := by
  rw [Volume.look, h.grown.fileAt? hg hp, h.locked, Volume.look]

/-- Writing to a path puts something to the place that it leads to, or does nothing. -/
theorem Wrote.cases {r : Except DiskRefusal Unit} (h : v.Wrote p content r v') :
    (∃ e found, v.tree.follow p = .ok (.entry e) ∧ e.claimsDirectory = false ∧
      e.name.utf8ByteSize ≤ nameLimit ∧ v.tree.node? e.place ≠ some .directory ∧
      v'.tree = v.tree.put e.place (.file found) ∧ (∀ q ≠ e.place, v'.locked q = v.locked q) ∧
      (r = .ok () → found = content ∧ v'.locked e.place = false)) ∨
    (v' = v ∧ r ≠ .ok ()) := by
  cases h with
  | @whole e tree hfollow hwrite =>
    rcases write_cases hwrite with
      ⟨-, e', hfollow', hclaims, hlimit, hnode, rfl⟩ | ⟨⟨cause, herror⟩, -⟩
    · obtain rfl : e = e' := by simpa using hfollow.symm.trans hfollow'
      exact .inl ⟨e, content, hfollow, hclaims, hlimit, hnode, rfl,
        fun q hq => Function.update_of_ne hq _ _, fun _ => ⟨rfl, Function.update_self _ _ _⟩⟩
    · cases herror
  | @part cause found tree hwrite =>
    rcases write_cases hwrite with
      ⟨-, e, hfollow, hclaims, hlimit, hnode, rfl⟩ | ⟨⟨cause, herror⟩, -⟩
    · exact .inl ⟨e, found, hfollow, hclaims, hlimit, hnode, rfl, fun q _ => rfl,
        fun hok => by cases hok⟩
    · cases herror
  | refused => exact .inr ⟨rfl, fun hok => by cases hok⟩

theorem Wrote.keeps {r : Except DiskRefusal Unit} (h : v.Wrote p content r v') :
    Keeps v.tree v'.tree := by
  rcases h.cases with ⟨e, found, -, -, -, hnode, htree, -⟩ | ⟨rfl, -⟩
  · rw [htree]
    exact (keeps_put hnode).1
  · exact fun _ hq => hq

theorem Wrote.grounded {r : Except DiskRefusal Unit} (h : v.Wrote p content r v')
    (hg : v.tree.Grounded) : v'.tree.Grounded := by
  rcases h.cases with ⟨e, found, hfollow, -, -, hnode, htree, -⟩ | ⟨rfl, -⟩
  · rw [htree]
    exact grounded_put hg (directory_of_follow hg hfollow) hnode
  · exact hg

/-- Another path shows what it showed. -/
theorem Wrote.look {r : Except DiskRefusal Unit} (h : v.Wrote p content r v')
    (hq : ∀ e e', v.tree.follow q = .ok (.entry e) → v.tree.follow p = .ok (.entry e') →
      e.place ≠ e'.place) : v'.look q = v.look q := by
  rcases h.cases with ⟨e', found, hfollow, -, -, hnode, htree, hlocked, -⟩ | ⟨rfl, -⟩
  · rw [Volume.look, Volume.look, htree, fileAt?_put hnode fun e he => hq e e' he hfollow]
    cases hfile : v.tree.fileAt? q with
    | none => rfl
    | some file =>
      obtain ⟨place, content⟩ := file
      obtain ⟨e, he, -, -, -, rfl⟩ := fileAt?_eq_some.mp hfile
      dsimp only
      rw [hlocked _ (hq e e' he hfollow)]
  · rfl

/-- Any file that the path does not lead to stays as it is. -/
theorem Wrote.file_iff {r : Except DiskRefusal Unit} (h : v.Wrote p content r v') {place : Place}
    (hplace : ∀ e, v.tree.follow p = .ok (.entry e) → place ≠ e.place) {file : FileNode} :
    v'.tree.node? place = some file ↔ v.tree.node? place = some file := by
  rcases h.cases with ⟨e, found, hfollow, -, -, -, htree, -⟩ | ⟨rfl, -⟩
  · rw [htree, node?_put, if_neg (hplace e hfollow)]
  · exact .rfl

/-- Every file is as it was, but for the one that a path leads to. -/
def SameBut (v v' : Volume) (p : String) : Prop :=
  ∀ place content, (∀ e, v'.tree.follow p = .ok (.entry e) → place ≠ e.place) →
    (v'.tree.node? place = some (.file content) ↔ v.tree.node? place = some (.file content))

theorem Wrote.sameBut {r : Except DiskRefusal Unit} (hmade : v.Made v')
    (h : v'.Wrote p content r v'') : v.SameBut v'' p := by
  intro place file hplace
  have hother : ∀ e, v'.tree.follow p = .ok (.entry e) → place ≠ e.place :=
    fun e he => hplace e (follow_mono h.keeps he)
  rw [h.file_iff hother, hmade.grown.file_iff]

/-- What was written is there. -/
theorem Wrote.look_self (h : v.Wrote p content (.ok ()) v') : v'.look p = .content content := by
  rcases h.cases with ⟨e, found, hfollow, hclaims, hlimit, -, htree, -, hok⟩ | ⟨-, hne⟩
  · obtain ⟨rfl, hlocked⟩ := hok rfl
    have hnode : v'.tree.node? e.place = some (.file found) := by
      rw [htree, node?_put, if_pos rfl]
    have hfile : v'.tree.fileAt? p = some (e.place, found) :=
      fileAt?_eq_some.mpr ⟨e, follow_mono h.keeps hfollow, hclaims, hlimit, hnode, rfl⟩
    rw [Volume.look, hfile]
    dsimp only
    rw [hlocked]
    rfl
  · exact absurd rfl hne

theorem Moved.eq_of_error {cause : DiskRefusal} (h : v.Moved p q (.error cause) v') : v' = v := by
  cases h
  rfl

theorem Moved.cases (h : v.Moved p q (.ok ()) v') :
    ∃ source target content, v.tree.follow p = .ok (.entry source) ∧
      v.tree.follow q = .ok (.entry target) ∧ source.claimsDirectory = false ∧
      source.name.utf8ByteSize ≤ nameLimit ∧ target.claimsDirectory = false ∧
      target.name.utf8ByteSize ≤ nameLimit ∧ v.tree.node? source.place = some (.file content) ∧
      v.tree.node? target.place ≠ some .directory ∧
      v'.tree = (v.tree.remove source.place).put target.place (.file content) ∧
      v'.locked target.place = v.locked source.place := by
  cases h with
  | @done source target tree hsource htarget hrename =>
    rcases rename_cases hrename with ⟨-, source', target', content, hsource', htarget', hrest⟩ |
      ⟨⟨cause, herror⟩, -⟩
    · obtain rfl : source = source' := by simpa using hsource.symm.trans hsource'
      obtain rfl : target = target' := by simpa using htarget.symm.trans htarget'
      obtain ⟨h₁, h₂, h₃, h₄, h₅, h₆, h₇⟩ := hrest
      exact ⟨source, target, content, hsource, htarget, h₁, h₂, h₃, h₄, h₅, h₆, h₇,
        Function.update_self _ _ _⟩
    · cases herror

/-- Moving a file keeps the tree in order and shows at the other path what the one path showed,
where then nothing is. -/
theorem Moved.spec (h : v.Moved p q (.ok ()) v') (hg : v.tree.Grounded)
    (hpq : ∀ e e', v.tree.follow q = .ok (.entry e) → v.tree.follow p = .ok (.entry e') →
      e.place ≠ e'.place) :
    v'.tree.Grounded ∧ Keeps v.tree v'.tree ∧ (∃ x, v'.tree.follow q = .ok x) ∧
      v'.look q = v.look p ∧ v'.tree.get? p = none := by
  obtain ⟨source, target, content, hsource, htarget, hclaims, hlimit, hclaims', hlimit', hfile,
    hdirectory, htree, hlocked⟩ := h.cases
  have hfrom : v.tree.node? source.place ≠ some .directory := by
    rw [hfile]
    simp
  have hne : target.place ≠ source.place := hpq target source htarget hsource
  have hto : (v.tree.remove source.place).node? target.place ≠ some .directory := by
    rw [node?_remove, if_neg hne]
    exact hdirectory
  have hremove := keeps_remove hfrom
  have hkeeps : Keeps v.tree v'.tree := by
    rw [htree]
    exact fun place hplace => (keeps_put hto).1 place (hremove place hplace)
  have hgrounded : v'.tree.Grounded := by
    rw [htree]
    refine grounded_put (grounded_remove hg hfrom) ?_ hto
    exact hremove _ (directory_of_follow hg htarget)
  have hthere : v.tree.fileAt? p = some (source.place, content) :=
    fileAt?_eq_some.mpr ⟨source, hsource, hclaims, hlimit, hfile, rfl⟩
  have hmoved : v'.tree.fileAt? q = some (target.place, content) := by
    refine fileAt?_eq_some.mpr ⟨target, follow_mono hkeeps htarget, hclaims', hlimit', ?_, rfl⟩
    rw [htree, node?_put, if_pos rfl]
  have hgone : v'.tree.child? source.parent source.name = .ok none := by
    refine child?_eq_ok.mpr ⟨hlimit, ?_⟩
    have hnode := node?_put (v.tree.remove source.place) target (.file content) source.place
    rw [if_neg hne.symm, node?_remove, if_pos rfl, ← htree] at hnode
    exact hnode
  refine ⟨hgrounded, hkeeps, ⟨_, follow_mono hkeeps htarget⟩, ?_, ?_⟩
  · rw [Volume.look, Volume.look, hthere, hmoved]
    dsimp only
    rw [hlocked]
  · rw [get?, follow_mono hkeeps hsource]
    dsimp only
    rw [hgone]

end Volume

/-- The disk does to the tree that it shows what it is asked for, or tells that it did not. -/
structure Disk.Honest {σ : Type} (disk : Disk (StateM σ)) (view : σ → Volume) : Prop where
  look : ∀ p s, (view s).tree.Grounded →
    (disk.look p s).1 = (view s).look p ∧ view (disk.look p s).2 = view s
  createDirs : ∀ p s, (view s).tree.Grounded → (view s).Made (view (disk.createDirs p s).2)
  write : ∀ p content s, (view s).tree.Grounded →
    (view s).Wrote p content (disk.write p content s).1 (view (disk.write p content s).2)
  rename : ∀ p q s, (view s).tree.Grounded →
    (view s).Moved p q (disk.rename p q s).1 (view (disk.rename p q s).2)

/-! ### The tree in memory -/

namespace FileTree

/-- Everything can be read. -/
def volume (t : FileTree) : Volume := ⟨t, fun _ => false⟩

theorem look_eq {t : FileTree} (hg : t.Grounded) (p : String) : t.look p = t.volume.look p := by
  unfold look get? Volume.look fileAt?
  dsimp only [volume]
  cases hfollow : t.follow p with
  | error e => rfl
  | ok x =>
    cases x with
    | directory place =>
      dsimp only
      rw [node?_of_follow hg hfollow]
    | entry e =>
      dsimp only
      match t.child? e.parent e.name with
      | .error _ => rfl
      | .ok none => rfl
      | .ok (some .directory) => rfl
      | .ok (some (.file content)) => cases e.claimsDirectory <;> rfl

theorem honest_disk : FileTree.disk.Honest volume where
  look p t hg := ⟨look_eq hg p, rfl⟩
  createDirs p t hg := ⟨createDirs_grown hg p, rfl⟩
  write p content t hg := by
    show t.volume.Wrote p content (t.write p content).1 (t.write p content).2.volume
    cases hwrite : t.write p content with
    | mk r t' =>
      rcases write_cases hwrite with ⟨rfl, e, hfollow, -⟩ | ⟨⟨cause, rfl⟩, rfl⟩
      · have hwrote := Volume.Wrote.whole (v := t.volume) hfollow hwrite
        have hlocked : Function.update t.volume.locked e.place false = t.volume.locked :=
          Function.update_eq_self e.place t.volume.locked
        rwa [hlocked] at hwrote
      · exact .refused
  rename p q t hg := by
    show t.volume.Moved p q (t.rename p q).1 (t.rename p q).2.volume
    cases hrename : t.rename p q with
    | mk r t' =>
      rcases rename_cases hrename with
        ⟨rfl, source, target, content, hsource, htarget, -⟩ | ⟨⟨cause, rfl⟩, rfl⟩
      · have hmoved := Volume.Moved.done (v := t.volume) hsource htarget hrename
        have hlocked : Function.update t.volume.locked target.place
            (t.volume.locked source.place) = t.volume.locked :=
          Function.update_eq_self target.place t.volume.locked
        rwa [hlocked] at hmoved
      · exact .refused

/-! ### A tree that refuses -/

/-- What is refused next, and a tree. -/
structure Scripted where
  tree : FileTree
  /-- For every operation to come, whether it is refused, and why. -/
  refusals : List (Option DiskRefusal)

/-- An operation of a tree, unless the script has it refused. -/
def Scripted.attempt (operation : StateM FileTree (Except DiskRefusal Unit)) :
    StateM Scripted (Except DiskRefusal Unit) := fun s =>
  match s.refusals with
  | some cause :: refusals => (.error cause, { s with refusals })
  | refusals =>
    let r := operation s.tree
    (r.1, ⟨r.2, refusals.tail⟩)

/-- A tree in memory that refuses what a script tells it to refuse. -/
def scripted : Disk (StateM Scripted) where
  look p := fun s => (s.tree.look p, s)
  createDirs p := Scripted.attempt fun t => t.createDirs p
  write p content := Scripted.attempt fun t => t.write p content
  rename p q := Scripted.attempt fun t => t.rename p q

theorem Scripted.attempt_induction {P : Except DiskRefusal Unit → FileTree → Prop}
    {operation : StateM FileTree (Except DiskRefusal Unit)} {s : Scripted}
    (refused : ∀ cause, P (.error cause) s.tree)
    (done : P (operation s.tree).1 (operation s.tree).2) :
    P (attempt operation s).1 (attempt operation s).2.tree := by
  unfold attempt
  split
  · exact refused _
  · exact done

theorem honest_scripted : scripted.Honest (·.tree.volume) where
  look p _ hg := ⟨look_eq hg p, rfl⟩
  createDirs p s hg := Scripted.attempt_induction
    (P := fun _ t => s.tree.volume.Made t.volume) (fun _ => .refl _) (honest_disk.createDirs p _ hg)
  write p content s hg := Scripted.attempt_induction
    (P := fun r t => s.tree.volume.Wrote p content r t.volume) (fun _ => .refused)
    (honest_disk.write p content _ hg)
  rename p q s hg := Scripted.attempt_induction
    (P := fun r t => s.tree.volume.Moved p q r t.volume) (fun _ => .refused)
    (honest_disk.rename p q _ hg)

end FileTree

end Dialogue
