import UaHeaders.Proofs.Commit.Steps

/-!
# Replacing one target

The four steps together. When all succeed, the temporary file stands at the target with the permission
bits that the target had, and what stood there stands under the name of a backup. When one fails, and
what was noted since is taken back, every file but the temporary one is as it was.

## Main definitions

* `UaHeaders.Commit.Held` — what a target held, and where it is now.
* `UaHeaders.Commit.Exchanged` — a tree after one target was replaced.
* `UaHeaders.Commit.TakenBack` — a tree in which a replacement that failed is taken back.

## Main results

* `UaHeaders.Commit.replace_ok` — what a replacement that succeeds does.
* `UaHeaders.Commit.replace_error` — what is left of one that fails, once it is taken back.
* `UaHeaders.Commit.replace_sameDirs` — which directories it makes, either way.
-/

set_option autoImplicit false

namespace UaHeaders.Commit

open FileTree

variable {s s' : Commit} {t u v : FileTree} {l m τ β : Location} {target temp b : Path}
  {mode old : Nat} {content : ByteArray} {failure : Failure}

/-! ## The steps one by one -/

/-- A replacement succeeds when its four steps do. -/
lemma replace_eq_ok (h : s.replace target temp = (.ok (), s')) :
    ∃ s₁ s₂ s₃, s.makeParent target = (.ok (), s₁) ∧ s₁.copyMode target temp = (.ok (), s₂) ∧
      s₂.setAside target = (.ok (), s₃) ∧ s₃.moveIn target temp = (.ok (), s') := by
  simp only [replace] at h
  generalize hsteps : andThen (s.makeParent target) _ = result at h
  obtain ⟨cause | done, v⟩ := result
  · simp at h
  · obtain rfl : v = s' := by simpa using h
    obtain rfl : done = () := rfl
    simpa only [andThen_eq_ok, exists_and_left] using hsteps

/-- **A replacement fails at one of three steps**, and the temporary file is cleared away then: the permission
bits of a file that is there are always copied.

**Proof sketch.** The steps are peeled off one by one. Copying the permission bits cannot fail, because
the temporary file is still there once the directories are made. -/
lemma replace_eq_error (hl : s.tree.locate temp = .ok l) (hf : s.tree.file? l = some (old, content))
    (h : s.replace target temp = (.error failure, s')) :
    ∃ v : Commit, s' = { v with tree := v.tree.removeIfFile temp } ∧
      (s.makeParent target = (.error failure, v) ∨
        ∃ s₁ s₂, s.makeParent target = (.ok (), s₁) ∧ s₁.copyMode target temp = (.ok (), s₂) ∧
          (s₂.setAside target = (.error failure, v) ∨
            ∃ s₃, s₂.setAside target = (.ok (), s₃) ∧ s₃.moveIn target temp = (.error failure, v))) := by
  simp only [replace] at h
  generalize hsteps : andThen (s.makeParent target) _ = result at h
  obtain ⟨cause | done, v⟩ := result
  · obtain ⟨rfl, rfl⟩ : cause = failure ∧ _ = s' := by simpa using h
    simp only [andThen_eq_error] at hsteps
    obtain h₁ | ⟨s₁, h₁, hcopy | ⟨s₂, h₂, hrest⟩⟩ := hsteps
    · exact ⟨v, rfl, .inl h₁⟩
    · exfalso
      obtain ⟨hgrown, -⟩ := makeParent_spec s target
      rw [h₁] at hgrown
      obtain ⟨mode, hok, -⟩ := copyMode_spec target (locate_mono hgrown.within hl)
        (by rw [hgrown.file?, hf])
      simp [hok] at hcopy
    · exact ⟨v, rfl, .inr ⟨s₁, s₂, h₁, h₂, hrest⟩⟩
  · simp at h

/-! ## The first two steps -/

/-- **A tree `u` in which a replacement is prepared**: the directories above the target are there, and
the temporary file, at `l`, has its permission bits. -/
structure Prepared (t u : FileTree) (target temp : Path) (l : Location) (mode : Nat)
    (content : ByteArray) : Prop where
  within : t.Within u
  newDirs : t.NewDirsAlong u target.ancestors.tail
  locate : u.locate temp = .ok l
  file? : ∀ m, u.file? m = if m = l then some (mode, content) else t.file? m
  mode_of_file? : ∀ τ mode' content', u.locate target = .ok τ → τ ≠ l →
    t.file? τ = some (mode', content') → mode = mode'
  mode_of_not_exists : u.pathExists target = false → mode = newFileMode

/-- The file at the temporary path of a prepared tree. -/
lemma Prepared.file?_temp (h : Prepared t u target temp l mode content) :
    u.file? l = some (mode, content) := by
  rw [h.file?, if_pos rfl]

/-- **The first two steps prepare a replacement.**

**Proof sketch.** Making directories changes no file, so the temporary file is found where it was and
gets the permission bits of the target. What stood at the target stands there still. -/
lemma prepared_of_steps {s₁ s₂ : Commit} (hl : s.tree.locate temp = .ok l)
    (hf : s.tree.file? l = some (old, content)) (h₁ : s.makeParent target = (.ok (), s₁))
    (h₂ : s₁.copyMode target temp = (.ok (), s₂)) :
    ∃ mode, Prepared s.tree s₂.tree target temp l mode content ∧ s₁.tree.SameDirs s₂.tree ∧
      s₂.replaced = s.replaced ∧ s₂.created = s₁.created := by
  obtain ⟨hgrown, hrep⟩ := makeParent_spec s target
  rw [h₁] at hgrown hrep
  have hl₁ := locate_mono hgrown.within hl
  have hf₁ : s₁.tree.file? l = some (old, content) := by rw [hgrown.file?, hf]
  obtain ⟨mode, hcopy, hmode, hnew⟩ := copyMode_spec target hl₁ hf₁
  rw [hcopy, Prod.mk.injEq] at h₂
  obtain ⟨-, rfl⟩ := h₂
  have hsame : s₁.tree.SameDirs (s₁.tree.put l (.file mode content)) :=
    .put_file (not_dirAt_of_file? hf₁) _ _
  have hne : l ≠ [] := ne_nil_of_file? hf₁
  refine ⟨mode, ⟨hgrown.within.trans hsame.within, hgrown.along.sameDirs hsame,
    locate_mono hsame.within hl₁, fun m => ?_, ?_, fun hx => hnew ?_⟩, hsame, hrep, rfl⟩
  · rw [file?_put_file hne, hgrown.file?]
  · intro τ mode' content' hτ hne hfτ
    exact hmode τ mode' content' (locate_mono hsame.symm.within hτ) (by rw [hgrown.file?, hfτ])
  · by_contra hex
    obtain ⟨m, hm, hem⟩ := pathExists_iff.1 (by simpa using hex)
    have hex' : (s₁.tree.put l (.file mode content)).pathExists target = true := by
      refine pathExists_iff.2 ⟨m, locate_mono hsame.within hm, ?_⟩
      rw [entry?_put hne]
      split
      · simp
      · exact hem
    simp [hex'] at hx

/-! ## A replacement that succeeds -/

/-- **What a target held, and where it is now**: nothing, or a file that is now a backup. -/
inductive Held (t u : FileTree) (l τ : Location) (mode : Nat) : Option Path → Option Location → Prop
  | nothing (free : t.file? τ = none) (mode_eq : mode = newFileMode) : Held t u l τ mode none none
  | backup {b : Path} {β : Location} {content : ByteArray}
      (name : ∃ dir n, b = t.tempPath dir (tempName backupName "" n))
      (file : t.file? τ = some (mode, content)) (locate : u.locate b = .ok β)
      (free : t.file? β = none) (ne_target : β ≠ τ) (ne_temp : β ≠ l) :
      Held t u l τ mode (some b) (some β)

/-- **A tree `u` after one target was replaced** in `t`: the file at `l` went to the target, at `τ`, and
what stood there went to a backup, if it did. -/
structure Exchanged (t u : FileTree) (target : Path) (l τ : Location) (mode : Nat)
    (content : ByteArray) (β? : Option Location) : Prop where
  within : t.Within u
  newDirs : t.NewDirsAlong u target.ancestors.tail
  locate : u.locate target = .ok τ
  plain : target.endsWithSeparator = false
  ne_temp : τ ≠ l
  file? : ∀ m, u.file? m =
    if m = τ then some (mode, content)
    else if m = l then none
    else if some m = β? then t.file? τ
    else t.file? m

/-- A backup is reached, at a place where no file stood. -/
lemma Held.of_some {β? : Option Location} (h : Held t u l τ mode (some b) β?) :
    β? = some (b.place u.workdir) ∧ u.Reaches b ∧ t.file? (b.place u.workdir) = none := by
  cases h with
  | backup _ _ hlocate hfree _ _ =>
    obtain ⟨hreach, rfl⟩ := locate_eq_ok_iff.1 hlocate
    exact ⟨rfl, hreach, hfree⟩

/-- What the target held stands under the name of the backup. -/
lemma Exchanged.file?_backup (h : Exchanged t u target l τ mode content (some β)) (hτ : β ≠ τ)
    (hl : β ≠ l) : u.file? β = t.file? τ := by
  rw [h.file?, if_neg hτ, if_neg hl, if_pos rfl]

/-- A replacement changes no file elsewhere. -/
lemma Exchanged.file?_of_ne {β? : Option Location}
    (h : Exchanged t u target l τ mode content β?) (hτ : m ≠ τ) (hl : m ≠ l) (hβ : some m ≠ β?) :
    u.file? m = t.file? m := by
  rw [h.file?, if_neg hτ, if_neg hl, if_neg hβ]

/-- Temporary names depend on the working directory only. -/
lemma tempPath_congr (hw : u.workdir = t.workdir) (dir : Path) (name : String) :
    u.tempPath dir name = t.tempPath dir name := by
  simp only [tempPath, workdirPath, hw]

/-- Moving a file over one that is no directory keeps the directories. -/
lemma sameDirs_of_rename (h : t.rename temp target = .ok u) : t.SameDirs u := by
  obtain ⟨l, τ, mode, content, -, hf, -, hd, -, rfl⟩ := rename_eq_ok_iff.1 h
  have hdrop : t.SameDirs (t.drop l) := .drop_file hf
  exact hdrop.trans (.put_file (by rwa [hdrop.dirAt]) mode content)

/-- The files after one was moved. -/
lemma file?_of_rename (h : t.rename temp target = .ok u) (hl : t.locate temp = .ok l)
    (hτ : t.locate target = .ok τ) :
    ∃ f, t.file? l = some f ∧
      ∀ m, u.file? m = if m = τ then some f else if m = l then none else t.file? m := by
  obtain ⟨l', τ', mode, content, hl', hf, hτ', hd, -, rfl⟩ := rename_eq_ok_iff.1 h
  obtain rfl : l = l' := by simpa [hl] using hl'
  obtain rfl : τ = τ' := by simpa [hτ] using hτ'
  exact ⟨_, hf, fun m => by
    rw [file?_put_file (ne_nil_of_not_dirAt hd), file?_drop (ne_nil_of_file? hf)]⟩

/-- A replacement where nothing stood: the temporary file moves to a free place.

**Proof sketch.** Nothing stands at the place of the target, so it is not the temporary file. The move
takes the one place and frees the other. -/
lemma exchanged_of_absent (hp : Prepared t u target temp l mode content)
    (hx : u.pathExists target = false) (hmove : u.rename temp target = .ok v) :
    ∃ τ, Exchanged t v target l τ mode content none ∧ Held t v l τ mode none none := by
  have hsame := sameDirs_of_rename hmove
  obtain ⟨-, τ, -, -, -, -, hτ, -, hsep, -⟩ := rename_eq_ok_iff.1 hmove
  obtain ⟨f, hf, hv⟩ := file?_of_rename hmove hp.locate hτ
  obtain rfl : (mode, content) = f := by simpa [hp.file?_temp] using hf
  have hfree : u.file? τ = none := by
    refine file?_of_entry?_none ?_
    by_contra hne
    rw [pathExists_iff.2 ⟨τ, hτ, hne⟩] at hx
    exact absurd hx (by simp)
  have hne : τ ≠ l := by
    rintro rfl
    rw [hfree] at hf
    exact absurd hf (by simp)
  refine ⟨τ, ⟨hp.within.trans hsame.within, hp.newDirs.sameDirs hsame, locate_mono hsame.within hτ,
    hsep, hne, fun m => ?_⟩, .nothing ?_ (hp.mode_of_not_exists hx)⟩
  · rw [hv, hp.file?]
    simp only [reduceCtorEq, ↓reduceIte]
    split_ifs <;> rfl
  · rwa [hp.file?, if_neg hne] at hfree

/-- A replacement where a file stood: it is a backup when the temporary file comes in.

The backup is not the temporary file, because that one was there before the backup was made.

**Proof sketch.** The place of the backup was free when the temporary file was there already, and the
target was a file; so the three places differ. Then what the two moves do is read off place by place. -/
lemma exchanged_of_moved {w : FileTree} {f : Nat × ByteArray}
    (hp : Prepared t u target temp l mode content)
    (hname : ∃ dir n, b = u.tempPath dir (tempName backupName "" n))
    (hτ : u.locate target = .ok τ) (hfτ : u.file? τ = some f) (hβ : u.locate b = .ok β)
    (hfree : u.entry? β = none) (hsame : u.SameDirs w)
    (hw : ∀ m, w.file? m = if m = β then some f else if m = τ then none else u.file? m)
    (hmove : w.rename temp target = .ok v) :
    Exchanged t v target l τ mode content (some β) ∧ Held t v l τ mode (some b) (some β) := by
  have hsame' := hsame.trans (sameDirs_of_rename hmove)
  obtain ⟨-, -, -, -, -, -, -, -, hsep, -⟩ := rename_eq_ok_iff.1 hmove
  obtain ⟨g, hg, hv⟩ := file?_of_rename hmove (locate_mono hsame.within hp.locate)
    (locate_mono hsame.within hτ)
  have hfreeβ := file?_of_entry?_none hfree
  have hβl : β ≠ l := by
    rintro rfl
    simp [hp.file?] at hfreeβ
  have hβτ : β ≠ τ := by
    rintro rfl
    simp [hfτ] at hfreeβ
  have hne : τ ≠ l := by
    rintro rfl
    simp [hw, hβl.symm] at hg
  have hft : t.file? τ = some f := by rwa [hp.file?, if_neg hne] at hfτ
  obtain rfl : (mode, content) = g := by simpa [hw, hβl.symm, hne.symm, hp.file?] using hg
  obtain rfl : mode = f.1 := hp.mode_of_file? τ f.1 f.2 hτ hne hft
  obtain ⟨dir, n, hb⟩ := hname
  refine ⟨⟨hp.within.trans hsame'.within, hp.newDirs.sameDirs hsame',
    locate_mono hsame'.within hτ, hsep, hne, fun m => ?_⟩,
    .backup ⟨dir, n, by rw [hb, tempPath_congr hp.within.workdir]⟩ hft
      (locate_mono hsame'.within hβ) ?_ hβτ hβl⟩
  · rw [hv, hw, hp.file?, hft]
    simp only [Option.some.injEq]
    split_ifs <;> rfl
  · rwa [hp.file?, if_neg hβl] at hfreeβ

/-- **What a replacement that succeeds does.** -/
lemma replace_ok (hl : s.tree.locate temp = .ok l) (hf : s.tree.file? l = some (old, content))
    (h : s.replace target temp = (.ok (), s')) :
    ∃ τ mode b β?, Exchanged s.tree s'.tree target l τ mode content β? ∧
      Held s.tree s'.tree l τ mode b β? ∧ s'.replaced = ⟨target, b⟩ :: s.replaced := by
  obtain ⟨s₁, s₂, s₃, h₁, h₂, h₃, h₄⟩ := replace_eq_ok h
  obtain ⟨mode, hp, -, hrep₂, -⟩ := prepared_of_steps hl hf h₁ h₂
  obtain ⟨b, haside, hrep₃, -⟩ := setAside_ok h₃
  obtain ⟨hmove, hrep₄, -⟩ := moveIn_ok h₄
  have hrep : s'.replaced = ⟨target, b⟩ :: s.replaced := by rw [hrep₄, hrep₃, hrep₂]
  generalize s₃.tree = w at haside hmove
  cases haside with
  | absent hx =>
    obtain ⟨τ, hex, hheld⟩ := exchanged_of_absent hp hx hmove
    exact ⟨τ, mode, none, none, hex, hheld, hrep⟩
  | @moved _ b β τ f hname hτ hfτ hβ hfree hsame hw =>
    obtain ⟨hex, hheld⟩ := exchanged_of_moved hp hname hτ hfτ hβ hfree hsame hw hmove
    exact ⟨τ, mode, some b, some β, hex, hheld, hrep⟩

/-- **A target is replaced** when the directories above it can be made, what it holds can be moved aside and no
directory stands at its place.

**Proof sketch.** Copying the permission bits keeps all directories, and moving aside touches nothing but
the target. So the temporary file still waits, and nothing is in the way of the last move. -/
lemma exists_replace_of_setAside {s₁ : Commit} (hmake : s.makeParent target = (.ok (), s₁))
    (hl : s₁.tree.locate temp = .ok l) (hf : s₁.tree.file? l = some (old, content))
    (hτ : s₁.tree.locate target = .ok τ) (hne : τ ≠ l) (hd : ¬ s₁.tree.DirAt τ)
    (hsep : target.endsWithSeparator = false)
    (haside : ∀ mode, ∃ s₃,
      Commit.setAside { s₁ with tree := s₁.tree.put l (.file mode content) } target = (.ok (), s₃)) :
    ∃ s', s.replace target temp = (.ok (), s') := by
  obtain ⟨mode, hcopy, -⟩ := copyMode_spec target hl hf
  obtain ⟨s₃, haside⟩ := haside mode
  obtain ⟨o, hset, -, -⟩ := setAside_ok haside
  have hput : s₁.tree.SameDirs (s₁.tree.put l (.file mode content)) :=
    .put_file (not_dirAt_of_file? hf) mode content
  have hsame := hput.trans hset.sameDirs
  -- the temporary file waits, and nothing is in its way
  have hwait : s₃.tree.file? l = some (mode, content) := by
    refine hset.file?_of_ne (by rw [file?_put_file (ne_nil_of_file? hf), if_pos rfl]) ?_
    rw [← eq_place_of_locate (locate_mono hput.within hτ)]
    exact hne.symm
  have hmove := rename_eq_ok_iff.2 ⟨l, τ, mode, content, locate_mono hsame.within hl, hwait,
    locate_mono hsame.within hτ, by rwa [hsame.dirAt], hsep, rfl⟩
  simp only [replace, hmake, andThen, hcopy, haside, moveIn, hmove]
  exact ⟨_, rfl⟩

/-- **A target at which nothing stands is replaced**, once the directories above it are made.

**Proof sketch.** There is nothing to be moved aside, also after the permission bits are copied, since
that changes nothing but the temporary file. -/
lemma exists_replace_of_absent {parent : Path} (hparent : target.parent? = some parent)
    (hne : parent.text.isEmpty = false) (hmake : s.tree.makeDirs parent = (.ok (), u))
    (hl : u.locate temp = .ok l) (hf : u.file? l = some (old, content))
    (hτ : u.locate target = .ok τ) (hfree : u.entry? τ = none)
    (hsep : target.endsWithSeparator = false) :
    ∃ s', s.replace target temp = (.ok (), s') := by
  obtain ⟨created, hmade⟩ := makeParent_of_makeDirs hparent hne hmake
  have hne_temp : τ ≠ l := by
    rintro rfl
    simp [file?_of_entry?_none hfree] at hf
  refine exists_replace_of_setAside hmade hl hf hτ hne_temp (not_dirAt_of_entry?_none hfree) hsep
    fun mode => ?_
  have hput : u.SameDirs (u.put l (.file mode content)) :=
    .put_file (not_dirAt_of_file? hf) mode content
  have habsent : (u.put l (.file mode content)).pathExists target = false := by
    rw [← Bool.not_eq_true, pathExists_iff]
    rintro ⟨m, hm, hthere⟩
    obtain rfl : τ = m := by simpa [locate_mono hput.within hτ] using hm
    refine hthere ?_
    rw [entry?_put (ne_nil_of_file? hf), if_neg hne_temp, hfree]
  simp only [setAside, habsent, Bool.false_eq_true, if_false]
  exact ⟨_, rfl⟩

/-! ## A replacement that fails -/

/-- The files of a prepared tree once the temporary one was cleared away. -/
lemma Prepared.file?_cleared (hp : Prepared t u target temp l mode content) (hw : u.SameDirs v)
    (hv : ∀ m, v.file? m = u.file? m) (m : Location) :
    (v.removeIfFile temp).file? m = if m = l then none else t.file? m := by
  rw [file?_removeIfFile (locate_mono hw.within hp.locate), hv, hp.file?]
  split_ifs <;> rfl

/-- Taking back a target where nothing stood changes nothing before the file came in. -/
lemma restore_absent (hx : u.pathExists target = false) (hs : u.SameDirs v)
    (hv : ∀ m, u.file? m = none → v.file? m = none) : restore v ⟨target, none⟩ = v := by
  refine removeIfFile_of_not fun m hm => hv m (file?_of_entry?_none ?_)
  by_contra hne
  rw [pathExists_iff.2 ⟨m, locate_mono hs.symm.within hm, hne⟩] at hx
  exact absurd hx (by simp)

/-- Taking back a target whose file was moved aside moves it back, before the new file came in.

**Proof sketch.** Without the temporary file the tree holds the old file as the backup and nothing at the
target. Taking back moves it to the target, and all other places are compared one by one. -/
lemma file?_restore_moved {f : Nat × ByteArray} {w : FileTree}
    (hp : Prepared t u target temp l mode content) (hτ : u.locate target = .ok τ)
    (hfτ : u.file? τ = some f) (hβ : u.locate b = .ok β) (hfree : u.entry? β = none)
    (hsame : u.SameDirs w)
    (hw : ∀ m, w.file? m = if m = β then some f else if m = τ then none else u.file? m) :
    (∀ m, m ≠ l → (restore (w.removeIfFile temp) ⟨target, some b⟩).file? m = t.file? m) ∧
      (τ ≠ l → (restore (w.removeIfFile temp) ⟨target, some b⟩).file? l = none) := by
  have hfreeβ := file?_of_entry?_none hfree
  have hβl : β ≠ l := by
    rintro rfl
    simp [hp.file?] at hfreeβ
  have hcleared := sameDirs_removeIfFile w temp
  have hfile : ∀ m, (w.removeIfFile temp).file? m =
      if m = l then none else if m = β then some f else if m = τ then none else u.file? m := by
    intro m
    rw [file?_removeIfFile (locate_mono hsame.within hp.locate), hw]
  have hwithin := (hsame.trans hcleared).within
  have hd : ¬ (w.removeIfFile temp).DirAt τ := by
    rw [(hsame.trans hcleared).dirAt]
    exact not_dirAt_of_file? hfτ
  have hback : ∀ m, (restore (w.removeIfFile temp) ⟨target, some b⟩).file? m =
      if m = τ then some f else if m = β then none else (w.removeIfFile temp).file? m :=
    fun m => file?_restore_some rfl (locate_mono hwithin hβ) (by simp [hfile, hβl])
      (locate_mono hwithin hτ) hd (endsWithSeparator_of_file? hτ hfτ)
  refine ⟨fun m hm => ?_, fun hne => ?_⟩
  · have hum : u.file? m = t.file? m := by rw [hp.file?, if_neg hm]
    rw [hback, hfile, ← hum]
    split_ifs with h₁ h₂
    · rw [h₁, hfτ]
    · rw [h₂, hfreeβ]
    · rfl
  · simp [hback, hfile, hne.symm, hβl.symm]

/-- **A tree `v` in which a replacement in `t` is taken back** that failed: the directories stay, and the files are
as before but for the temporary one. -/
structure TakenBack (t v : FileTree) (target : Path) (l : Location) : Prop where
  within : t.Within v
  file?_of_ne : ∀ m, m ≠ l → v.file? m = t.file? m
  file?_temp : target.place t.workdir ≠ l → v.file? l = none

/-- Before anything was noted there is nothing to take back: the temporary file is cleared away. -/
lemma takenBack_of_cleared (hw : t.Within u)
    (hfile : ∀ m, (u.removeIfFile temp).file? m = if m = l then none else t.file? m) :
    TakenBack t (u.removeIfFile temp) target l where
  within := hw.trans (sameDirs_removeIfFile u temp).within
  file?_of_ne := fun m hm => by rw [hfile, if_neg hm]
  file?_temp := fun _ => by rw [hfile, if_pos rfl]

/-- After the old file was moved aside, the target is noted: taking it back moves the file to where it was. -/
lemma takenBack_of_aside {w : FileTree} {o : Option Path} (hp : Prepared t u target temp l mode content)
    (haside : Aside u target w o) :
    TakenBack t (restore (w.removeIfFile temp) ⟨target, o⟩) target l := by
  have hclear := sameDirs_removeIfFile w temp
  have hback := sameDirs_restore (w.removeIfFile temp) ⟨target, o⟩
  have hwithin := hp.within.trans (haside.sameDirs.trans (hclear.trans hback)).within
  cases haside with
  | absent hx =>
    rw [restore_absent hx hclear fun m => file?_removeIfFile_of_none]
    exact takenBack_of_cleared hp.within (hp.file?_cleared (.refl _) fun _ => rfl)
  | @moved _ b β τ f _ hτ hfτ hβ hfree hsame hw =>
    obtain rfl : τ = target.place t.workdir := by
      rw [eq_place_of_locate hτ, hp.within.workdir]
    obtain ⟨hfile, htemp⟩ := file?_restore_moved hp hτ hfτ hβ hfree hsame hw
    exact ⟨hwithin, hfile, htemp⟩

/-- **What is left of a replacement that fails, once it is taken back**: a tree with the same files but
for the temporary one.

**Proof sketch.** By the step that failed. Before the old file was moved aside nothing was noted, and
no file was touched but the temporary one. After that the target is noted, and taking it back moves
the old file to where it was. -/
lemma replace_error (hl : s.tree.locate temp = .ok l) (hf : s.tree.file? l = some (old, content))
    (h : s.replace target temp = (.error failure, s')) :
    ∃ v : FileTree, s'.replaced.foldl restore s'.tree = s.replaced.foldl restore v ∧
      TakenBack s.tree v target l := by
  obtain ⟨v, rfl, h₁ | ⟨s₁, s₂, h₁, h₂, h₃ | ⟨s₃, h₃, h₄⟩⟩⟩ := replace_eq_error hl hf h
  · -- the directories above could not be made
    obtain ⟨hgrown, hrep⟩ := makeParent_spec s target
    rw [h₁] at hgrown hrep
    refine ⟨v.tree.removeIfFile temp, by rw [hrep], takenBack_of_cleared hgrown.within fun m => ?_⟩
    rw [file?_removeIfFile (locate_mono hgrown.within hl), hgrown.file?]
  · -- the old file could not be moved aside
    obtain ⟨mode, hp, -, hrep₂, -⟩ := prepared_of_steps hl hf h₁ h₂
    obtain ⟨hsame, hfile, hrep₃, -⟩ := setAside_error h₃
    exact ⟨v.tree.removeIfFile temp, by rw [hrep₃, hrep₂],
      takenBack_of_cleared (hp.within.trans hsame.within) (hp.file?_cleared hsame hfile)⟩
  · -- the new file could not be moved in
    obtain ⟨mode, hp, -, hrep₂, -⟩ := prepared_of_steps hl hf h₁ h₂
    obtain ⟨b, haside, hrep₃, -⟩ := setAside_ok h₃
    obtain rfl := moveIn_error h₄
    exact ⟨restore (v.tree.removeIfFile temp) ⟨target, b⟩, by simp [hrep₃, hrep₂],
      takenBack_of_aside hp haside⟩

/-! ## Directories -/

/-- **A replacement makes the directories above its target and no others**, whether or not it succeeds,
and notes what was noted when they were made.

**Proof sketch.** By the step at which the replacement ends. No step behind the first makes or removes a
directory, nor does clearing away the temporary file. -/
lemma replace_sameDirs (target : Path) (hl : s.tree.locate temp = .ok l)
    (hf : s.tree.file? l = some (old, content)) :
    (s.makeParent target).2.tree.SameDirs (s.replace target temp).2.tree ∧
      (s.replace target temp).2.created = (s.makeParent target).2.created := by
  rcases h : s.replace target temp with ⟨failure | done, s'⟩
  · obtain ⟨v, rfl, h₁ | ⟨s₁, s₂, h₁, h₂, h₃ | ⟨s₃, h₃, h₄⟩⟩⟩ := replace_eq_error hl hf h
    · rw [h₁]
      exact ⟨sameDirs_removeIfFile _ _, rfl⟩
    · obtain ⟨mode, hp, hsame₂, -, hcr₂⟩ := prepared_of_steps hl hf h₁ h₂
      obtain ⟨hsame₃, -, -, hcr₃⟩ := setAside_error h₃
      rw [h₁]
      exact ⟨(hsame₂.trans hsame₃).trans (sameDirs_removeIfFile _ _), hcr₃.trans hcr₂⟩
    · obtain ⟨mode, hp, hsame₂, -, hcr₂⟩ := prepared_of_steps hl hf h₁ h₂
      obtain ⟨b, haside, -, hcr₃⟩ := setAside_ok h₃
      obtain rfl := moveIn_error h₄
      rw [h₁]
      exact ⟨(hsame₂.trans haside.sameDirs).trans (sameDirs_removeIfFile _ _), hcr₃.trans hcr₂⟩
  · obtain ⟨s₁, s₂, s₃, h₁, h₂, h₃, h₄⟩ := replace_eq_ok (show s.replace target temp = (.ok (), s') from h)
    obtain ⟨mode, hp, hsame₂, -, hcr₂⟩ := prepared_of_steps hl hf h₁ h₂
    obtain ⟨b, haside, -, hcr₃⟩ := setAside_ok h₃
    obtain ⟨hmove, -, hcr₄⟩ := moveIn_ok h₄
    rw [h₁]
    exact ⟨(hsame₂.trans haside.sameDirs).trans (sameDirs_of_rename hmove),
      hcr₄.trans (hcr₃.trans hcr₂)⟩

end UaHeaders.Commit
