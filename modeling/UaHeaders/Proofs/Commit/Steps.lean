import UaHeaders.Header.Transaction
import UaHeaders.Proofs.Files.Ancestors
import UaHeaders.Proofs.Files.Growth

/-!
# The steps of a commit

A commit replaces a target in four steps: it makes the directories above, copies the permission bits,
moves the old file aside and moves the new one in. Each step is described by what it does to the files
and to the directories of the tree. The same is done for what takes a step back.

## Main definitions

* `UaHeaders.Commit.Aside` — where the old file of a target is after it was moved aside.

## Main results

* `UaHeaders.Commit.makeParent_spec`, `copyMode_spec`, `setAside_ok`, `moveIn_ok` — the four steps.
* `UaHeaders.Commit.file?_restore_of_ne`, `file?_restore_none`, `file?_restore_some` — taking one back.
* `UaHeaders.FileTree.file?_removeIfFile`, `UaHeaders.Commit.file?_removeIfEmpty` — clearing away.
* `UaHeaders.FileTree.file?_foldl_removeIfFile_of_reaches`, `file?_foldl_removeIfFile_of_not_reaches` — clearing
  away several files.
-/

set_option autoImplicit false

namespace UaHeaders

namespace FileTree

variable {t u : FileTree} {l m : Location} {p : Path} {f : Nat × ByteArray} {paths : List Path}

/-! ## Clearing away a file -/

/-- A file that a path leads to is taken away. -/
lemma removeIfFile_of_file? (hl : t.locate p = .ok l) (hf : t.file? l = some f) :
    t.removeIfFile p = t.drop l := by
  unfold removeIfFile
  rw [removeFile_eq_ok_iff.2 ⟨l, f, hl, hf, rfl⟩]

/-- Where a path leads to no file nothing changes. -/
lemma removeIfFile_of_not (h : ∀ l, t.locate p = .ok l → t.file? l = none) :
    t.removeIfFile p = t := by
  unfold removeIfFile
  rcases hr : t.removeFile p with cause | u
  · rfl
  · obtain ⟨l, f, hl, hf, -⟩ := removeFile_eq_ok_iff.1 hr
    simp [h l hl] at hf

/-- Clearing away a file keeps the directories. -/
lemma sameDirs_removeIfFile (t : FileTree) (p : Path) : t.SameDirs (t.removeIfFile p) := by
  unfold removeIfFile
  rcases hr : t.removeFile p with cause | u
  · exact .refl t
  · obtain ⟨l, f, -, hf, rfl⟩ := removeFile_eq_ok_iff.1 hr
    exact .drop_file hf

/-- After a file was cleared away none stands where the path leads, and the others are there. -/
lemma file?_removeIfFile (hl : t.locate p = .ok l) :
    (t.removeIfFile p).file? m = if m = l then none else t.file? m := by
  rcases hf : t.file? l with _ | f
  · rw [removeIfFile_of_not fun l' hl' => by
      obtain rfl : l = l' := by simpa [hl] using hl'
      exact hf]
    split
    · next hm => rw [hm, hf]
    · rfl
  · rw [removeIfFile_of_file? hl hf, file?_drop (ne_nil_of_file? hf)]

/-- A file that does not stand at the place of a path is not cleared away. -/
lemma file?_removeIfFile_of_ne (hm : m ≠ p.place t.workdir) :
    (t.removeIfFile p).file? m = t.file? m := by
  rcases hl : t.locate p with cause | l
  · rw [removeIfFile_of_not fun l hl' => by simp [hl] at hl']
  · rw [file?_removeIfFile hl, if_neg]
    rwa [eq_place_of_locate hl]

/-- Clearing away makes no file. -/
lemma file?_removeIfFile_of_none (h : t.file? m = none) : (t.removeIfFile p).file? m = none := by
  rcases hl : t.locate p with cause | l
  · rwa [removeIfFile_of_not fun l hl' => by simp [hl] at hl']
  · rw [file?_removeIfFile hl, h, ite_self]

/-! ## Clearing away several files -/

/-- Clearing away files keeps the directories. -/
lemma sameDirs_foldl_removeIfFile (t : FileTree) (paths : List Path) :
    t.SameDirs (paths.foldl removeIfFile t) := by
  induction paths generalizing t with
  | nil => exact .refl t
  | cons path rest ih => exact (sameDirs_removeIfFile t path).trans (ih _)

/-- Clearing away files makes none. -/
lemma file?_foldl_removeIfFile_of_none (h : t.file? m = none) :
    (paths.foldl removeIfFile t).file? m = none := by
  induction paths generalizing t with
  | nil => exact h
  | cons path rest ih => exact ih (file?_removeIfFile_of_none h)

/-- **Where one of the paths leads, no file is left.** -/
lemma file?_foldl_removeIfFile_of_reaches (hmem : p ∈ paths) (hr : t.Reaches p) :
    (paths.foldl removeIfFile t).file? (p.place t.workdir) = none := by
  induction paths generalizing t with
  | nil => simp at hmem
  | cons path rest ih =>
    rcases List.mem_cons.1 hmem with rfl | hmem
    · refine file?_foldl_removeIfFile_of_none (t := t.removeIfFile p) ?_
      rw [file?_removeIfFile hr, if_pos rfl]
    · have hsame := sameDirs_removeIfFile t path
      have := ih hmem (hsame.reaches_iff.2 hr)
      rwa [hsame.workdir] at this

/-- **A file stays that none of the paths leads to.** -/
lemma file?_foldl_removeIfFile_of_not_reaches
    (h : ∀ p ∈ paths, m = p.place t.workdir → ¬ t.Reaches p) :
    (paths.foldl removeIfFile t).file? m = t.file? m := by
  induction paths generalizing t with
  | nil => rfl
  | cons path rest ih =>
    have hsame := sameDirs_removeIfFile t path
    refine (ih (t := t.removeIfFile path) fun p hmem hm => ?_).trans ?_
    · rw [hsame.reaches_iff]
      exact h p (by simp [hmem]) (by rwa [hsame.workdir] at hm)
    · by_cases hm : m = path.place t.workdir
      · obtain ⟨cause, hcause⟩ := exists_locate_eq_error (h path (by simp) hm)
        rw [removeIfFile_of_not fun l hl => by simp [hcause] at hl]
      · exact file?_removeIfFile_of_ne hm

end FileTree

open FileTree

namespace Commit

variable {s s' : Commit} {t u : FileTree} {l m τ β : Location} {target temp b : Path}
  {o : Option Path}
  {r : Replaced} {mode : Nat} {content : ByteArray} {failure : Failure}

/-! ## Clearing away a directory -/

/-- A directory is cleared away or nothing changes. -/
lemma removeIfEmpty_cases (t : FileTree) (p : Path) :
    removeIfEmpty t p = t ∨ ∃ l, t.locate p = .ok l ∧ t.DirAt l ∧ l ≠ [] ∧ t.below l = [] ∧
      removeIfEmpty t p = t.drop l := by
  unfold removeIfEmpty
  rcases hr : t.removeDir p with cause | u
  · exact .inl rfl
  · obtain ⟨l, hl, hd, -, hne, hb, rfl⟩ := removeDir_eq_ok_iff.1 hr
    exact .inr ⟨l, hl, hd, hne, hb, rfl⟩

/-- Clearing away directories touches no file. -/
lemma file?_removeIfEmpty (t : FileTree) (p : Path) (m : Location) :
    (removeIfEmpty t p).file? m = t.file? m := by
  rcases removeIfEmpty_cases t p with h | ⟨l, -, hd, hne, -, h⟩
  · rw [h]
  · rw [h, file?_drop_directory hne hd]

/-! ## Putting a target back -/

/-- Putting a target back keeps the directories. -/
lemma sameDirs_restore (t : FileTree) (r : Replaced) : t.SameDirs (restore t r) := by
  rcases hb : r.backup with _ | b
  · simp only [restore, hb]
    exact sameDirs_removeIfFile t r.target
  · rcases hr : t.rename b r.target with cause | u <;> simp only [restore, hb, hr]
    · exact sameDirs_removeIfFile t b
    · obtain ⟨l, m, mode, content, -, hf, -, hd, -, rfl⟩ := rename_eq_ok_iff.1 hr
      have hdrop : t.SameDirs (t.drop l) := .drop_file hf
      exact hdrop.trans (.put_file (by rwa [hdrop.dirAt]) mode content)

/-- A target that was not there is cleared away. -/
lemma file?_restore_none (hb : r.backup = none) (hτ : t.locate r.target = .ok τ) :
    (restore t r).file? l = if l = τ then none else t.file? l := by
  simp only [restore, hb]
  exact file?_removeIfFile hτ

/-- A file that was moved aside moves back. -/
lemma file?_restore_some (hb : r.backup = some b) (hβ : t.locate b = .ok β)
    (hf : t.file? β = some (mode, content)) (hτ : t.locate r.target = .ok τ) (hd : ¬ t.DirAt τ)
    (hsep : r.target.endsWithSeparator = false) :
    (restore t r).file? l =
      if l = τ then some (mode, content) else if l = β then none else t.file? l := by
  have hmove := rename_eq_ok_iff.2 ⟨β, τ, mode, content, hβ, hf, hτ, hd, hsep, rfl⟩
  simp only [restore, hb, hmove]
  rw [file?_put_file (ne_nil_of_not_dirAt hd), file?_drop (ne_nil_of_file? hf)]

/-- A file that cannot be moved back over a directory is cleared away. -/
lemma file?_restore_blocked (hb : r.backup = some b) (hβ : t.locate b = .ok β)
    (hτ : t.locate r.target = .ok τ) (hd : t.DirAt τ) :
    (restore t r).file? l = if l = β then none else t.file? l := by
  rcases hr : t.rename b r.target with cause | u
  · simp only [restore, hb, hr]
    exact file?_removeIfFile hβ
  · obtain ⟨-, m, -, -, -, -, hm, hdm, -⟩ := rename_eq_ok_iff.1 hr
    obtain rfl : τ = m := by simpa [hτ] using hm
    exact absurd hd hdm

/-- Putting a target back touches only the target and what was moved aside. -/
lemma file?_restore_of_ne (hτ : l ≠ r.target.place t.workdir)
    (hβ : ∀ b, r.backup = some b → l ≠ b.place t.workdir) : (restore t r).file? l = t.file? l := by
  rcases hb : r.backup with _ | b
  · simp only [restore, hb]
    exact file?_removeIfFile_of_ne hτ
  · rcases hr : t.rename b r.target with cause | u <;> simp only [restore, hb, hr]
    · exact file?_removeIfFile_of_ne (hβ b hb)
    · obtain ⟨m, n, mode, content, hm, hf, hn, hd, -, rfl⟩ := rename_eq_ok_iff.1 hr
      rw [file?_put_file (ne_nil_of_not_dirAt hd), file?_drop (ne_nil_of_file? hf),
        if_neg (eq_place_of_locate hn ▸ hτ), if_neg (eq_place_of_locate hm ▸ hβ b hb)]

/-! ## The four steps -/

/-- Two steps succeed when one does and then the other. -/
lemma andThen_eq_ok {result : Except Failure Unit × Commit}
    {next : Commit → Except Failure Unit × Commit} :
    andThen result next = (.ok (), s') ↔ ∃ s, result = (.ok (), s) ∧ next s = (.ok (), s') := by
  obtain ⟨_ | ⟨⟩, s⟩ := result <;> simp [andThen]

/-- Two steps fail when the one does, or the other after it. -/
lemma andThen_eq_error {result : Except Failure Unit × Commit}
    {next : Commit → Except Failure Unit × Commit} :
    andThen result next = (.error failure, s') ↔
      result = (.error failure, s') ∨
        ∃ s, result = (.ok (), s) ∧ next s = (.error failure, s') := by
  obtain ⟨_ | ⟨⟩, s⟩ := result <;> simp [andThen]

/-- **Making the directories above a target** lets the tree grow along the paths above it. -/
lemma makeParent_spec (s : Commit) (target : Path) :
    s.tree.GrownAlong (s.makeParent target).2.tree target.ancestors.tail ∧
      (s.makeParent target).2.replaced = s.replaced := by
  unfold makeParent
  rcases hp : target.parent? with _ | parent
  · exact ⟨.refl _ _, rfl⟩
  · simp only
    split
    · exact ⟨.refl _ _, rfl⟩
    · have hgrown := grownAlong_makeDirs s.tree parent
      rw [Path.ancestors_of_parent? hp]
      rcases hm : s.tree.makeDirs parent with ⟨_ | ⟨⟩, u⟩ <;> rw [hm] at hgrown <;>
        exact ⟨hgrown, rfl⟩

/-- The directories above a target are made as those of its parent. -/
lemma makeParent_of_makeDirs {parent : Path} (hparent : target.parent? = some parent)
    (hne : parent.text.isEmpty = false) (hmake : s.tree.makeDirs parent = (.ok (), u)) :
    ∃ created, s.makeParent target = (.ok (), { s with tree := u, created := created }) := by
  simp only [makeParent, hparent, hne, hmake, Bool.false_eq_true, if_false]
  exact ⟨_, rfl⟩

/-- **Copying the permission bits** gives the temporary file those of the target, or those of a new file
if nothing stands at the target. -/
lemma copyMode_spec {old : Nat} (target : Path) (hl : s.tree.locate temp = .ok l)
    (hf : s.tree.file? l = some (old, content)) :
    ∃ mode, s.copyMode target temp =
        (.ok (), { s with tree := s.tree.put l (.file mode content) }) ∧
      (∀ τ mode' content', s.tree.locate target = .ok τ →
        s.tree.file? τ = some (mode', content') → mode = mode') ∧
      (s.tree.pathExists target = false → mode = newFileMode) := by
  unfold copyMode
  simp only [setMode_of_file? hl hf]
  refine ⟨_, rfl, ?_, ?_⟩
  · intro τ mode' content' hτ hfτ
    rw [mode?_of_file? hτ hfτ]
  · intro hx
    obtain ⟨cause, hcause⟩ := mode?_of_not_exists hx
    rw [hcause]

/-- **A target is aside**: nothing stood there, or the file that did stands under the name of a backup
where nothing stood. -/
inductive Aside (t : FileTree) (target : Path) : FileTree → Option Path → Prop where
  | absent (absent : t.pathExists target = false) : Aside t target t none
  | moved {u : FileTree} {b : Path} {β τ : Location} {f : Nat × ByteArray}
      (name : ∃ dir n, b = t.tempPath dir (tempName backupName "" n))
      (locate_target : t.locate target = .ok τ) (file : t.file? τ = some f)
      (locate_backup : t.locate b = .ok β) (free : t.entry? β = none) (sameDirs : t.SameDirs u)
      (file? : ∀ l, u.file? l = if l = β then some f else if l = τ then none else t.file? l) :
      Aside t target u (some b)

/-- Moving a file aside keeps the directories. -/
lemma Aside.sameDirs (h : Aside t target u o) : t.SameDirs u := by
  cases h with
  | absent => exact .refl t
  | moved _ _ _ _ _ hsame => exact hsame

/-- A file that is moved aside leaves the other ones where they are. -/
lemma Aside.file?_of_ne {f : Nat × ByteArray} (h : Aside t target u o)
    (hl : t.file? l = some f) (hne : l ≠ target.place t.workdir) : u.file? l = some f := by
  cases h with
  | absent => exact hl
  | @moved _ b β τ _ _ hτ _ hβ hfree _ hu =>
    rw [hu, if_neg, if_neg, hl]
    · rwa [eq_place_of_locate hτ]
    · rintro rfl
      simp [file?_of_entry?_none hfree] at hl

/-- Nothing but a temporary file is new after one was made. -/
lemma createTemp_views {dir : Path} {beginning ending : String}
    (h : t.createTemp dir beginning ending = .ok (b, u)) :
    (∃ n, b = t.tempPath dir (tempName beginning ending n)) ∧
      ∃ β, t.locate b = .ok β ∧ t.entry? β = none ∧ t.SameDirs u ∧
        ∀ l, u.file? l = if l = β then some (tempFileMode, ByteArray.empty) else t.file? l := by
  obtain ⟨hname, β, hβ, hfree, rfl⟩ := createTemp_eq_ok h
  have hd : ¬ t.DirAt β := not_dirAt_of_entry?_none hfree
  exact ⟨hname, β, hβ, hfree, .put_file hd _ _, fun l => file?_put_file (ne_nil_of_not_dirAt hd)⟩

/-- **Moving the old file aside**, when it succeeds.

**Proof sketch.** A file that is there was there before the backup was made, so the two have different
places. What the making and the move do is then read off place by place. -/
lemma setAside_ok (h : s.setAside target = (.ok (), s')) :
    ∃ b, Aside s.tree target s'.tree b ∧ s'.replaced = ⟨target, b⟩ :: s.replaced ∧
      s'.created = s.created := by
  unfold setAside at h
  split at h
  · next hex =>
    rcases hc : s.tree.createTemp (s.tree.stagingDir target) backupName "" with cause | ⟨b, u⟩
    · simp [hc] at h
    simp only [hc] at h
    obtain ⟨⟨n, hn⟩, β, hβ, hfree, hsame, hu⟩ := createTemp_views hc
    rcases hr : u.rename target b with cause | v
    · simp [hr] at h
    simp only [hr, Prod.mk.injEq, true_and] at h
    subst h
    obtain ⟨τ, β', mode, content, hτ, hf, hβ', hd, -, rfl⟩ := rename_eq_ok_iff.1 hr
    obtain rfl : β = β' := by simpa [locate_mono hsame.within hβ] using hβ'
    -- the target was there before the backup, so it is not the backup
    obtain ⟨τ', hτ', he⟩ := pathExists_iff.1 hex
    obtain rfl : τ = τ' := by simpa [locate_mono hsame.within hτ'] using hτ.symm
    have hne : τ ≠ β := by
      rintro rfl
      exact he hfree
    have hfτ : s.tree.file? τ = some (mode, content) := by rwa [hu, if_neg hne] at hf
    refine ⟨some b, .moved ⟨_, n, hn⟩ hτ' hfτ hβ hfree ?_ ?_, rfl, rfl⟩
    · have hdrop : u.SameDirs (u.drop τ) := .drop_file hf
      exact (hsame.trans hdrop).trans (.put_file (by rwa [hdrop.dirAt]) mode content)
    · intro l
      rw [file?_put_file (ne_nil_of_not_dirAt hd), file?_drop (ne_nil_of_file? hf), hu]
      split_ifs <;> rfl
  · next hex =>
    simp only [Prod.mk.injEq, true_and] at h
    subst h
    exact ⟨none, .absent (by simpa using hex), rfl, rfl⟩

/-- **Moving the old file aside**, when it fails, changes nothing.

**Proof sketch.** Either no backup was made, or it was made at a free place and is cleared away again. -/
lemma setAside_error (h : s.setAside target = (.error failure, s')) :
    s.tree.SameDirs s'.tree ∧ (∀ l, s'.tree.file? l = s.tree.file? l) ∧
      s'.replaced = s.replaced ∧ s'.created = s.created := by
  unfold setAside at h
  split at h
  · rcases hc : s.tree.createTemp (s.tree.stagingDir target) backupName "" with cause | ⟨b, u⟩
    · simp only [hc, Prod.mk.injEq] at h
      obtain ⟨-, rfl⟩ := h
      exact ⟨.refl _, fun _ => rfl, rfl, rfl⟩
    simp only [hc] at h
    obtain ⟨-, β, hβ, hfree, hsame, hu⟩ := createTemp_views hc
    rcases hr : u.rename target b with cause | v
    · simp only [hr, Prod.mk.injEq] at h
      obtain ⟨-, rfl⟩ := h
      refine ⟨hsame.trans (sameDirs_removeIfFile u b), fun l => ?_, rfl, rfl⟩
      rw [file?_removeIfFile (locate_mono hsame.within hβ), hu]
      split_ifs with hl
      · rw [hl, file?_of_entry?_none hfree]
      · rfl
    · simp [hr] at h
  · simp at h

/-- **Moving the new file in** succeeds when the temporary file can be moved over the target. -/
lemma moveIn_ok (h : s.moveIn target temp = (.ok (), s')) :
    s.tree.rename temp target = .ok s'.tree ∧ s'.replaced = s.replaced ∧
      s'.created = s.created := by
  unfold moveIn at h
  rcases hr : s.tree.rename temp target with cause | u
  · simp [hr] at h
  · simp only [hr, Prod.mk.injEq, true_and] at h
    subst h
    exact ⟨rfl, rfl, rfl⟩

/-- **Moving the new file in**, when it fails, changes nothing. -/
lemma moveIn_error (h : s.moveIn target temp = (.error failure, s')) : s' = s := by
  unfold moveIn at h
  rcases hr : s.tree.rename temp target with cause | u
  · simp only [hr, Prod.mk.injEq] at h
    exact h.2.symm
  · simp [hr] at h

end Commit

end UaHeaders
