/-
Settings on disk and in memory do not drift.

Saving makes the directory of the file, writes a file beside it and moves that to its place.
On an honest disk every one of the three may be refused, and none of them but the last touches
the file (`save_cases`): the file beside it has another name, so it is another file, wherever
the two paths lead.  Settings come into force only after the last step.  Then the file holds
them in normal form with numbers that fit, and such settings are loaded as they were saved.

One thing can make the file differ from what is in force without any step touching it.  A path
with `..` in it may lead nowhere as long as a directory on its way is missing, and lead to a
file that was there all the time once the directory is made.  So what was refused leaves every
file as it was, but for the one beside; that loading afresh gives the settings in force is said
of paths that lead somewhere at the start or do not go up (`kept_run`), and of any other path
after the first change that was not refused, because from then on it leads somewhere.
-/
import Dialogue.Proofs.Disk.Honest
import Dialogue.Proofs.Settings.File
import Dialogue.Settings.Kept

namespace Dialogue

open FileTree
open Text.Utf8 (encode)

variable {σ : Type} {disk : Disk (StateM σ)} {view : σ → Volume}

namespace Settings

/-! ### The file beside -/

/-- A settings file and the file that is written beside it have different names. -/
theorem lastName?_temporaryPath {path n n' : String} (h : Path.lastName? path = some n)
    (hdot : n ≠ ".") (hup : n ≠ "..")
    (h' : Path.lastName? (temporaryPath path) = some n') (hup' : n' ≠ "..") : n' ≠ n := by
  rintro rfl
  have hname := Path.lastName?_withExtension h hdot hup (by decide) h' hup'
  have hextension : "json.tmp".toList.reverse = ['p', 'm', 't', '.', 'n', 'o', 's', 'j'] := by decide
  rw [hextension] at hname
  generalize n'.toList.reverse = name at hname
  -- The name ends in the extension, so its stem is the rest of it; but that is put behind the stem.
  have hstem : Path.stem? name =
      some (['n', 'o', 's', 'j'] ++ '.' :: (Path.stem? name).getD name) := by
    conv_lhs => rw [hname]
    rfl
  have hlength := congrArg List.length hname
  have hlength' := congrArg (fun s => (s.getD name).length) hstem
  simp only [List.length_append, List.length_cons, List.length_nil, Option.getD_some] at hlength hlength'
  omega

/-- Wherever the two paths lead, they lead to two places. -/
theorem temporary_apart {t t' : FileTree} {path : String} {e e' : Entry}
    (h : t.follow path = .ok (.entry e)) (h' : t'.follow (temporaryPath path) = .ok (.entry e')) :
    e.place ≠ e'.place := by
  obtain ⟨hname, hdot, hup⟩ := lastName?_of_follow h
  obtain ⟨hname', -, hup'⟩ := lastName?_of_follow h'
  intro heq
  exact lastName?_temporaryPath hname hdot hup hname' hup' (List.cons.inj heq).1.symm

/-! ### Saving -/

theorem run_bind {ε α β : Type} {x : ExceptT ε (StateM σ) α} {f : α → ExceptT ε (StateM σ) β}
    {s s' : σ} {r : Except ε β} (h : (x >>= f).run s = (r, s')) :
    (∃ e, x.run s = (.error e, s') ∧ r = .error e) ∨
    ∃ a s₁, x.run s = (.ok a, s₁) ∧ (f a).run s₁ = (r, s') := by
  have hrun : (x >>= f).run s = ExceptT.bindCont f (x.run s).1 (x.run s).2 := rfl
  rw [hrun] at h
  cases hx : x.run s with
  | mk answer s₁ =>
    rw [hx] at h
    cases answer with
    | error e =>
      obtain ⟨rfl, rfl⟩ := Prod.mk.inj h
      exact .inl ⟨e, rfl, rfl⟩
    | ok a => exact .inr ⟨a, s₁, rfl, h⟩

theorem run_attempt {operation : StateM σ (Except DiskRefusal Unit)}
    {error : DiskRefusal → ChangeError} {s s' : σ} {r : Except ChangeError Unit}
    (h : (attempt operation error).run s = (r, s')) :
    ∃ answer, operation s = (answer, s') ∧ r = answer.mapError error := by
  obtain ⟨rfl, rfl⟩ := Prod.mk.inj h
  exact ⟨_, rfl, rfl⟩

theorem mapError_eq_ok {ε ε' : Type} {f : ε → ε'} {x : Except ε Unit}
    (h : x.mapError f = .ok ()) : x = .ok () := by
  cases x with
  | error e => cases h
  | ok u => rfl

/-- What is done to the disk once the directory is seen to. -/
theorem save_behind (hd : disk.Honest view) {path : String} {content : List UInt8} {s s' : σ}
    {r : Except ChangeError Unit} (hg : (view s).tree.Grounded)
    (h : (do
      attempt (disk.write (temporaryPath path) content) (.writeFile (temporaryPath path))
      attempt (disk.rename (temporaryPath path) path)
        (.replaceFile (temporaryPath path) path) : ExceptT ChangeError (StateM σ) Unit).run s =
          (r, s')) :
    ((∃ e, r = .error e) ∧ ∃ r', (view s).Wrote (temporaryPath path) content r' (view s')) ∨
    (r = .ok () ∧ ∃ v', (view s).Wrote (temporaryPath path) content (.ok ()) v' ∧
      v'.Moved (temporaryPath path) path (.ok ()) (view s')) := by
  have hwrote := hd.write (temporaryPath path) content s hg
  rcases run_bind h with ⟨e, hwrite, rfl⟩ | ⟨_, s₁, hwrite, hrename⟩
  · obtain ⟨answer, hanswer, -⟩ := run_attempt hwrite
    rw [hanswer] at hwrote
    exact .inl ⟨⟨e, rfl⟩, answer, hwrote⟩
  · obtain ⟨answer, hanswer, hok⟩ := run_attempt hwrite
    obtain rfl := mapError_eq_ok hok.symm
    rw [hanswer] at hwrote
    have hmoved := hd.rename (temporaryPath path) path s₁ (hwrote.grounded hg)
    obtain ⟨answer, hanswer, rfl⟩ := run_attempt hrename
    rw [hanswer] at hmoved
    cases answer with
    | ok u => exact .inr ⟨rfl, _, hwrote, hmoved⟩
    | error cause => exact .inl ⟨⟨_, rfl⟩, _, hmoved.eq_of_error ▸ hwrote⟩

/-- What saving can do. -/
theorem save_cases (hd : disk.Honest view) {path : String} {settings : Settings} {s s' : σ}
    {r : Except ChangeError Unit} (hg : (view s).tree.Grounded)
    (h : (save disk path settings).run s = (r, s')) :
    ∃ v, (view s).Made v ∧
      (((∃ e, r = .error e) ∧
        ∃ r', v.Wrote (temporaryPath path) (encode settings.fileText.toList) r' (view s')) ∨
      (r = .ok () ∧ ∃ v',
        v.Wrote (temporaryPath path) (encode settings.fileText.toList) (.ok ()) v' ∧
        v'.Moved (temporaryPath path) path (.ok ()) (view s'))) := by
  unfold save at h
  split at h
  · rename_i parent _
    have hmade := hd.createDirs parent s hg
    rcases run_bind h with ⟨e, hcreate, rfl⟩ | ⟨_, s₁, hcreate, hbehind⟩
    · obtain ⟨answer, hanswer, -⟩ := run_attempt hcreate
      rw [hanswer] at hmade
      exact ⟨_, hmade, .inl ⟨⟨e, rfl⟩, .error .missing, .refused⟩⟩
    · obtain ⟨answer, hanswer, -⟩ := run_attempt hcreate
      rw [hanswer] at hmade
      exact ⟨_, hmade, save_behind hd (hmade.grown.grounded hg) hbehind⟩
  · exact ⟨_, .refl _, save_behind hd hg h⟩

end Settings

namespace KeptSettings

open Settings

variable {environment : List (String × String)} {k k' : KeptSettings} {key value : String}
  {s s' : σ} {r : Except ChangeError Unit}

/-! ### One change -/

/-- What a change can do. -/
theorem set_cases (hd : disk.Honest view) (hg : (view s).tree.Grounded)
    (h : k.set disk key value s = ((r, k'), s')) :
    ((∃ e, r = .error e) ∧ k' = k ∧ ∃ v content r', (view s).Made v ∧
      v.Wrote (temporaryPath k.path) content r' (view s')) ∨
    (r = .ok () ∧ ∃ edited v v', k.current.setField key value = .ok edited ∧
      k' = { k with current := edited.normalized } ∧ (view s).Made v ∧
      v.Wrote (temporaryPath k.path) (encode edited.normalized.fileText.toList) (.ok ()) v' ∧
      v'.Moved (temporaryPath k.path) k.path (.ok ()) (view s')) := by
  unfold set at h
  cases hedit : k.current.setField key value with
  | error e =>
    rw [hedit] at h
    obtain ⟨hr, rfl⟩ := Prod.mk.inj h
    obtain ⟨rfl, rfl⟩ := Prod.mk.inj hr
    exact .inl ⟨⟨_, rfl⟩, rfl, view s, [], .error .missing, .refl _, .refused⟩
  | ok edited =>
    rw [hedit] at h
    cases hsave : (save disk k.path edited.normalized).run s with
    | mk answer s₁ =>
      obtain ⟨v, hmade, ⟨⟨e, rfl⟩, r', hwrote⟩ | ⟨rfl, v', hwrote, hmoved⟩⟩ :=
        save_cases hd hg hsave
      · have hupdate : k.update disk edited s = ((.error e, k), s₁) := by
          simp only [update, bind, StateT.bind, hsave]
          rfl
        obtain ⟨hr, rfl⟩ := Prod.mk.inj (hupdate.symm.trans h)
        obtain ⟨rfl, rfl⟩ := Prod.mk.inj hr
        exact .inl ⟨⟨e, rfl⟩, rfl, v, _, r', hmade, hwrote⟩
      · have hupdate : k.update disk edited s =
            ((.ok (), { k with current := edited.normalized }), s₁) := by
          simp only [update, bind, StateT.bind, hsave]
          rfl
        obtain ⟨hr, rfl⟩ := Prod.mk.inj (hupdate.symm.trans h)
        obtain ⟨rfl, rfl⟩ := Prod.mk.inj hr
        exact .inr ⟨rfl, edited, v, v', rfl, rfl, hmade, hwrote, hmoved⟩

/-- What is in force can be kept in a file, and the disk is in order. -/
structure Orderly (view : σ → Volume) (k : KeptSettings) (s : σ) : Prop where
  grounded : (view s).tree.Grounded
  normal : k.current.Normal
  fits : k.current.Fits

/-- The file gives what is in force, and goes on giving it whatever directories are made. -/
structure Agrees (view : σ → Volume) (environment : List (String × String)) (k : KeptSettings)
    (s : σ) : Prop where
  settled : (view s).tree.Settled k.path
  current : ofFound ((view s).look k.path) environment = k.current

/-- A change that was refused changed nothing but the file beside. -/
theorem set_error (hd : disk.Honest view) (hk : Orderly view k s) {e : ChangeError}
    (h : k.set disk key value s = ((.error e, k'), s')) :
    k' = k ∧ Orderly view k s' ∧ (view s).SameBut (view s') (temporaryPath k.path) ∧
      ((view s).tree.Settled k.path → (view s').tree.Settled k.path ∧
        (view s').look k.path = (view s).look k.path) := by
  rcases set_cases hd hk.grounded h with ⟨-, rfl, v, content, r', hmade, hwrote⟩ | ⟨hok, -⟩
  · have hgrounded := hmade.grown.grounded hk.grounded
    refine ⟨rfl, ⟨hwrote.grounded hgrounded, hk.normal, hk.fits⟩, hwrote.sameBut hmade, ?_⟩
    intro hsettled
    refine ⟨(hsettled.mono hmade.grown.keeps).mono hwrote.keeps, ?_⟩
    rw [hwrote.look fun e e' => temporary_apart, hmade.look hk.grounded hsettled]
  · cases hok

/-- A change that was made is in force and in the file. -/
theorem set_ok (hd : disk.Honest view) (henv : Silent environment) (hk : Orderly view k s)
    (h : k.set disk key value s = ((.ok (), k'), s')) :
    ∃ edited, k.current.setField key value = .ok edited ∧
      k' = { k with current := edited.normalized } ∧ Orderly view k' s' ∧
      Agrees view environment k' s' ∧ (view s').tree.get? (temporaryPath k.path) = none ∧
      ∃ x, (view s').tree.follow k.path = .ok x := by
  rcases set_cases hd hk.grounded h with
    ⟨⟨e, herror⟩, -⟩ | ⟨-, edited, v, v', hedit, rfl, hmade, hwrote, hmoved⟩
  · cases herror
  · have hnormal := normal_normalized edited
    have hfits := (hk.fits.setField hedit).normalized
    obtain ⟨hgrounded, -, hleads, hlook, hgone⟩ :=
      hmoved.spec (hwrote.grounded (hmade.grown.grounded hk.grounded)) fun e e' => temporary_apart
    refine ⟨edited, hedit, rfl, ⟨hgrounded, hnormal, hfits⟩, ⟨.inl hleads, ?_⟩, hgone, hleads⟩
    rw [hlook, hwrote.look_self]
    exact ofFound_fileText henv hnormal hfits

/-- No member but the one that was named is another. -/
theorem member?_set (hk : Orderly view k s) {edited : Settings}
    (h : k.current.setField key value = .ok edited) {name : String} (hname : name ≠ key) :
    edited.normalized.member? name = k.current.member? name := by
  have hcongr := member?_normalized_congr (member?_setField h hname)
  have hnormal : k.current.normalized = k.current := hk.normal
  rwa [hnormal] at hcongr

/-! ### Many changes -/

/-- One change after the other, whatever becomes of each. -/
def setAll (disk : Disk (StateM σ)) : List (String × String) → KeptSettings → StateM σ KeptSettings
  | [], k => pure k
  | (key, value) :: changes, k => do
    let answer ← k.set disk key value
    setAll disk changes answer.2

theorem load_orderly (hd : disk.Honest view) (henv : Silent environment) (path : String)
    (hg : (view s).tree.Grounded) :
    Orderly view (load disk path environment s).1 (load disk path environment s).2 ∧
      (load disk path environment s).1 =
        ⟨path, ofFound ((view s).look path) environment⟩ ∧
      view (load disk path environment s).2 = view s := by
  obtain ⟨hlook, hview⟩ := hd.look path s hg
  have hload : load disk path environment s =
      (⟨path, ofFound (disk.look path s).1 environment⟩, (disk.look path s).2) := rfl
  rw [hload, hlook]
  dsimp only
  rw [hview]
  exact ⟨⟨hview ▸ hg, normal_ofFound _, fits_ofFound henv _⟩, rfl, rfl⟩

/-- Loading afresh gives what is in force. -/
theorem Agrees.load (h : Agrees view environment k s) (hd : disk.Honest view)
    (henv : Silent environment) (hg : (view s).tree.Grounded) :
    (load disk k.path environment s).1 = k := by
  rw [(load_orderly hd henv k.path hg).2.1, h.current]

theorem set_orderly (hd : disk.Honest view) (henv : Silent environment) (hk : Orderly view k s)
    (h : k.set disk key value s = ((r, k'), s')) :
    k'.path = k.path ∧ Orderly view k' s' ∧
      (Agrees view environment k s → Agrees view environment k' s') := by
  cases r with
  | error e =>
    obtain ⟨rfl, horderly, -, hlook⟩ := set_error hd hk h
    refine ⟨rfl, horderly, fun hagrees => ?_⟩
    obtain ⟨hsettled, heq⟩ := hlook hagrees.settled
    exact ⟨hsettled, heq ▸ hagrees.current⟩
  | ok u =>
    obtain ⟨edited, -, rfl, horderly, hagrees, -⟩ := set_ok hd henv hk h
    exact ⟨rfl, horderly, fun _ => hagrees⟩

theorem setAll_orderly (hd : disk.Honest view) (henv : Silent environment)
    (hk : Orderly view k s) (changes : List (String × String)) :
    (setAll disk changes k s).1.path = k.path ∧
      Orderly view (setAll disk changes k s).1 (setAll disk changes k s).2 ∧
      (Agrees view environment k s →
        Agrees view environment (setAll disk changes k s).1 (setAll disk changes k s).2) := by
  induction changes generalizing k s with
  | nil => exact ⟨rfl, hk, id⟩
  | cons change changes ih =>
    obtain ⟨key, value⟩ := change
    cases hset : k.set disk key value s with
    | mk answer s' =>
      obtain ⟨r, k'⟩ := answer
      have hrest : setAll disk ((key, value) :: changes) k s = setAll disk changes k' s' := by
        simp only [setAll, bind, StateT.bind, hset]
      obtain ⟨hpath, horderly, hagrees⟩ := set_orderly hd henv hk hset
      obtain ⟨hpath', horderly', hagrees'⟩ := ih horderly
      rw [hrest]
      exact ⟨hpath'.trans hpath, horderly', fun h => hagrees' (hagrees h)⟩

/-- **Settings on disk and in memory do not drift.**  On a disk that may refuse anything at any
time, and with no settings in the environment, settings are loaded and then changed many times.
A change that is refused leaves what is in force, and every file but the one beside; where the
path of the settings leads somewhere or does not go up, it goes on showing what it showed.  A
change that is made puts the edited settings in normal form into force, with no other member
changed; loading afresh gives them, nothing is left beside the file, and its path leads
somewhere.  If it did so at the start, or does not go up, loading afresh gives what is in force
after every change, whether it was made or refused. -/
theorem kept_run (hd : disk.Honest view) (henv : Silent environment) {path : String}
    {changes : List (String × String)} {s₀ s₁ : σ} {k₀ : KeptSettings}
    (hg : (view s₀).tree.Grounded) (hload : load disk path environment s₀ = (k₀, s₁))
    (hchanges : setAll disk changes k₀ s₁ = (k, s))
    (hset : k.set disk key value s = ((r, k'), s')) :
    (∀ e, r = .error e →
      k' = k ∧ (view s).SameBut (view s') (temporaryPath path) ∧
      ((view s).tree.Settled path → (view s').look path = (view s).look path)) ∧
    (r = .ok () →
      ∃ edited, k.current.setField key value = .ok edited ∧ k' = ⟨path, edited.normalized⟩ ∧
        (∀ name ≠ key, k'.current.member? name = k.current.member? name) ∧
        (load disk path environment s').1 = k' ∧
        (view s').tree.get? (temporaryPath path) = none ∧
        ∃ x, (view s').tree.follow path = .ok x) ∧
    ((view s₀).tree.Settled path → (load disk path environment s').1 = k') := by
  obtain ⟨hstart, hk₀, hview⟩ := load_orderly (s := s₀) hd henv path hg
  rw [hload] at hstart hk₀ hview
  have hall := setAll_orderly hd henv hstart changes
  rw [hchanges] at hall
  obtain ⟨hpath, hbefore, hagreed⟩ := hall
  obtain rfl : k.path = path := hpath.trans (congrArg KeptSettings.path hk₀)
  obtain ⟨hpath', hafter, hagrees⟩ := set_orderly hd henv hbefore hset
  refine ⟨?_, ?_, fun hsettled => ?_⟩
  · rintro e rfl
    obtain ⟨hk, -, hsame, hlook⟩ := set_error hd hbefore hset
    exact ⟨hk, hsame, fun hsettled => (hlook hsettled).2⟩
  · rintro rfl
    obtain ⟨edited, hedit, rfl, -, hfile, hgone, hleads⟩ := set_ok hd henv hbefore hset
    exact ⟨edited, hedit, rfl, fun name hname => member?_set hbefore hedit hname,
      hfile.load hd henv hafter.grounded, hgone, hleads⟩
  · have hagree : Agrees view environment k₀ s₁ := by
      dsimp only at hk₀ hview
      rw [hk₀]
      exact ⟨hview ▸ hsettled, hview ▸ rfl⟩
    have hagree' := (hagrees (hagreed hagree)).load hd henv hafter.grounded
    rwa [hpath'] at hagree'

/-- A file of settings that does not say all, on a disk that is full when a file is to be moved. -/
def fullDisk : Scripted where
  tree := ⟨[(["settings.json"], .file (encode "\x7b\"framing\": \"plain_text\"\x7d".toList))]⟩
  refusals := [none, none, some (.other "No space left on device (os error 28)")]

theorem kept_run_refusedThenMade :
    let start := load scripted "settings.json" [] fullDisk
    let before := setAll scripted [("api_token", "t")] start.1 start.2
    let after := before.1.set scripted "request_timeout_secs" "30" before.2
    before.1 = start.1 ∧ after.1.1 = .ok () ∧
      (load scripted "settings.json" [] after.2).1 = after.1.2 := by
  intro start before after
  have hg : fullDisk.tree.volume.tree.Grounded := grounded_of_nodes (by decide)
  have hdown : GoesDown "settings.json" := by
    unfold GoesDown
    decide
  have hload : load scripted "settings.json" [] fullDisk = (start.1, start.2) := rfl
  have hchanges : setAll scripted [("api_token", "t")] start.1 start.2 = (before.1, before.2) := rfl
  have hset : before.1.set scripted "request_timeout_secs" "30" before.2 =
      ((after.1.1, after.1.2), after.2) := rfl
  have hrun := kept_run honest_scripted (by simp [Silent]) hg hload hchanges hset
  exact ⟨by decide +kernel, by decide +kernel, hrun.2.2 (.inr hdown)⟩

/-! ### A path that goes up -/

/-- A file with a token, and a directory in the place of the file beside. -/
def foreignFile : FileTree :=
  ⟨[(["b.json"], .file (encode "\x7b\"api_token\": \"t\"\x7d".toList)), (["b.json.tmp"], .directory)]⟩

/-- While `x` is missing there are no settings at this path, and the defaults are in force.  A
change makes `x` and is then refused.  Now the path leads to the file with the token. -/
theorem drift_of_path_up :
    let start := load FileTree.disk "x/../b.json" [] foreignFile
    let after := start.1.set FileTree.disk "framing" "plain_text" start.2
    foreignFile.Grounded ∧
      after.1 = (.error (.writeFile "x/../b.json.tmp" .isDirectory), start.1) ∧
      (load FileTree.disk "x/../b.json" [] after.2).1 ≠ after.1.2 :=
  ⟨grounded_of_nodes (by decide), by decide +kernel, by decide +kernel⟩

end KeptSettings

end Dialogue
