import UaHeaders.Proofs.Files.Under
import UaHeaders.Proofs.Run.Asides

/-!
# Commits that nothing hinders

A commit of staged headers succeeds when the directories of the headers can be made and there is room to move
aside what stands at their places. That the directories can be made is told by a tree that has them, as the
one that another commit has left. The temporary files of that other commit are in no way of these directories,
for it has made them while its own files were there.

## Main definitions

* `UaHeaders.RunConfig.FreeAside` — one more file can be moved aside.
* `UaHeaders.Transaction.Unhindered` — a tree shows that headers can be committed.

## Main results

* `UaHeaders.RunConfig.dirAt_of_reaches` — directories with the name of a temporary file are above all headers.
* `UaHeaders.Commit.not_dirAt_temp` — no directory is made at the place of a temporary file.
* `UaHeaders.RunConfig.exists_replace` — one header is replaced.
* `UaHeaders.Transaction.Unhindered.exists_passes` — all headers are.
-/

set_option autoImplicit false

namespace UaHeaders

open FileTree Commit Transaction

variable {s s₁ s' : Commit} {t u v : FileTree} {l : Location} {config : RunConfig}
  {target other : Target} {dir path temp : Path} {header : StagedHeader}
  {all done rest headers staged : List StagedHeader} {old : Nat} {content : ByteArray}

/-! ## Directories with the name of a temporary file -/

/-- **A directory above one header that has the name of a temporary file** is above all headers, so it is there
where another one is reached.

**Proof sketch.** The directories above a header are those of the output root, which all headers share,
and its folder, whose name begins with no dot as those of temporary files do. -/
lemma RunConfig.dirAt_of_reaches (hdir : dir ∈ (config.targetPath other).ancestors.tail)
    (hv : v.locate dir = .ok l) (hnamed : StagedAt l ∨ BackupAt l) (hwork : u.workdir = v.workdir)
    (hr : u.Reaches (config.targetPath target)) : u.DirAt l := by
  rcases mem_ancestors_cases hdir with hroot | ⟨folder, hfolder, rfl⟩
  · have hne := (Reaches.of_locate hv).usable.nonempty
    obtain ⟨m, hm, hd⟩ := isDir_iff.1 (isDir_of_mem_ancestors (trimmed_targetPath config target) hr
      (mem_ancestors_of_root hroot target) hne)
    rw [eq_place_of_locate hv, ← hwork, ← eq_place_of_locate hm]
    exact hd
  · -- the directory in the output root has a name of its own
    exfalso
    have hplace := eq_place_of_locate hv
    rw [place_headerDir, hfolder, Option.toList_some] at hplace
    obtain ⟨-, hhead, -⟩ := Target.folder_plain hfolder
    have hdot : folder.toList.head? = some '.' := by
      rcases hnamed with ⟨above, p, n, heq⟩ | ⟨above, n, heq⟩ <;>
      · rw [List.singleton_inj.1 (List.append_inj' (hplace.symm.trans heq) rfl).2, toList_tempName,
          List.append_assoc, List.head?_append]
        rfl
    exact hhead hdot

namespace Commit

/-- A header behind a commit is reached. -/
lemma Progress.reaches (h : Progress t all done rest s)
    (hun : ∀ header ∈ done, header.record.unchanged = true → t.Reaches header.record.target)
    (hmem : header ∈ done) : s.tree.Reaches header.record.target := by
  rcases hch : header.record.unchanged
  · exact (h.written header hmem hch).1
  · exact (hun header hmem hch).mono h.within

/-- **Replacing a target makes no directory at the place of a temporary file.**

**Proof sketch.** Such a directory would be above all headers. So it is there already once a header is behind
the commit; and as long as none is, all temporary files wait at their places. -/
lemma not_dirAt_temp_of_replace
    (h : Progress t (done ++ header :: rest) done (header :: rest) s)
    (hready : Ready t u (done ++ header :: rest)) (hconf : Configured config (done ++ header :: rest))
    (hun : ∀ header ∈ done, header.record.unchanged = true → t.Reaches header.record.target)
    (hr : s.replace header.record.target header.temp = (.ok (), s₁)) {waits : StagedHeader}
    (hmem : waits ∈ done ++ header :: rest) (hnot : ¬ s.tree.DirAt (waits.temp.place t.workdir)) :
    ¬ s₁.tree.DirAt (waits.temp.place t.workdir) := by
  intro hdir
  obtain ⟨-, -, mode, o, β?, hex, -, -⟩ := h.exchanged hr
  rcases done with _ | ⟨first, others⟩
  · -- the file waits while the directories are made
    obtain ⟨hreach, hfile⟩ := h.waiting header (by simp)
    rw [← h.within.workdir] at hfile
    obtain ⟨hsame, -⟩ := replace_sameDirs header.record.target hreach hfile
    rw [hr] at hsame
    have hgrown := (makeParent_spec s header.record.target).1
    have hthere := (h.waiting waits (by simpa using hmem)).2
    rw [← hgrown.file?] at hthere
    exact not_dirAt_of_file? hthere ((hsame.dirAt _).1 hdir)
  · obtain ⟨dir, hmem', -, hlocate⟩ := hex.newDirs _ hdir hnot
    rw [(Path.trimmed_of_mem_tail hmem').directoryName] at hlocate
    obtain ⟨target, htarget⟩ := hconf header (by simp)
    obtain ⟨target', htarget'⟩ := hconf first (by simp)
    have hreach' := h.reaches hun (List.mem_cons_self : first ∈ first :: others)
    rw [htarget] at hmem'
    rw [htarget'] at hreach'
    exact hnot (RunConfig.dirAt_of_reaches hmem' hlocate (.inl (hready.named waits hmem))
      hex.within.workdir.symm hreach')

/-- **No directory is made at the place of a temporary file.**

**Proof sketch.** Induction on the headers that are passed, with those that are done moved over one by
one; a replacement is `not_dirAt_temp_of_replace`. -/
lemma not_dirAt_temp (hp : Passes s headers s')
    (h : Progress t (done ++ headers) done headers s) (hready : Ready t u (done ++ headers))
    (ht : Tidy t.workdir (done ++ headers)) (hconf : Configured config (done ++ headers))
    (hun : ∀ header ∈ done ++ headers, header.record.unchanged = true →
      t.Reaches header.record.target)
    (hnot : ∀ header ∈ done ++ headers, ¬ s.tree.DirAt (header.temp.place t.workdir)) :
    ∀ header ∈ done ++ headers, ¬ s'.tree.DirAt (header.temp.place t.workdir) := by
  induction hp generalizing done with
  | nil s => exact hnot
  | @unchanged s s' header rest hunchanged _ ih =>
    have hnext := h.unchanged hready ht hunchanged
    have hnot' : ∀ other ∈ done ++ header :: rest,
        ¬ (s.tree.removeIfFile header.temp).DirAt (other.temp.place t.workdir) := by
      intro other hother
      rw [(sameDirs_removeIfFile s.tree header.temp).dirAt]
      exact hnot other hother
    rw [List.append_cons] at hnext hready ht hconf hun hnot' ⊢
    exact ih hnext hready ht hconf hun hnot'
  | @replaced s s₁ s' header rest hch hr _ ih =>
    have hnext := h.replaced hready ht hch hr
    have hnot' := fun other (hother : other ∈ done ++ header :: rest) =>
      not_dirAt_temp_of_replace h hready hconf (fun k hk => hun k (List.mem_append_left _ hk)) hr hother
        (hnot other hother)
    rw [List.append_cons] at hnext hready ht hconf hun hnot' ⊢
    exact ih hnext hready ht hconf hun hnot'

/-! ## One header -/

/-- **A file is moved aside** where a name for it is free.

**Proof sketch.** If something is there, it is a file, and there is a name for its backup. The backup is
made at a free place, and the file is moved over it. -/
lemma exists_setAside
    (hfile : s.tree.pathExists path = true → ∃ τ f, s.tree.locate path = .ok τ ∧ s.tree.file? τ = some f)
    (hroom : s.tree.pathExists path = true → ∃ n l, s.tree.locate (s.tree.tempPath
      (s.tree.stagingDir path) (tempName backupName "" n)) = .ok l ∧ s.tree.entry? l = none) :
    ∃ s', s.setAside path = (.ok (), s') := by
  unfold setAside
  split
  · next hx =>
    obtain ⟨τ, f, hτ, hf⟩ := hfile hx
    obtain ⟨n, l, hl, hfree⟩ := hroom hx
    obtain ⟨b, u, hcreate⟩ := exists_createTemp (by decide) (by decide) hl hfree
    obtain ⟨-, β, hβ, hfreeβ, hsame, hu⟩ := createTemp_views hcreate
    have hne : τ ≠ β := by
      rintro rfl
      simp [file?_of_entry?_none hfreeβ] at hf
    have hthere : u.file? β = some (tempFileMode, ByteArray.empty) := by rw [hu, if_pos rfl]
    have hβ' := locate_mono hsame.within hβ
    have hmove := rename_eq_ok_iff.2 ⟨τ, β, f.1, f.2, locate_mono hsame.within hτ,
      by rw [hu, if_neg hne]; exact hf, hβ', not_dirAt_of_file? hthere,
      endsWithSeparator_of_file? hβ' hthere, rfl⟩
    simp only [hcreate, hmove]
    exact ⟨_, rfl⟩
  · exact ⟨_, rfl⟩

end Commit

namespace RunConfig

/-- **The directories above a header can be made** where another tree has them.

**Proof sketch.** The parent is the working directory, which is there, or it is a directory of the other
tree, and then it can be made (`FileTree.Under.exists_makeDirs`). -/
lemma exists_makeParent (hs : s.tree.Under v) (hwork : s.tree.DirAt s.tree.workdir)
    (hr : v.Reaches (config.targetPath target)) :
    ∃ s₁, s.makeParent (config.targetPath target) = (.ok (), s₁) ∧ s₁.tree.Under v ∧
      s₁.tree.Reaches (config.targetPath target) := by
  have hparent := parent?_targetPath config target
  have hchild := child_targetPath config target
  obtain ⟨husable, hwalks⟩ := reaches_iff_walks.1 hr
  obtain ⟨-, -, hsize⟩ := (Child.walks_iff hchild).1 hwalks
  rcases Bool.eq_false_or_eq_true (config.headerDir target).text.isEmpty with hempty | hne
  · refine ⟨s, by simp [makeParent, hparent, hempty], hs, ?_⟩
    refine reaches_iff_walks.2 ⟨husable, (Child.walks_iff hchild).2
      ⟨walks_of_isEmpty hempty hwork, ?_, hsize⟩⟩
    rw [Path.place_stay (.inl hempty)]
    exact hwork
  · obtain ⟨u, hmake, hu, hdir⟩ := hs.exists_makeDirs hwork (trimmed_headerDir config target)
      (isDir_of_parent? (trimmed_targetPath config target) hr hparent hne)
    obtain ⟨m, hm, hd⟩ := isDir_iff.1 hdir
    obtain ⟨hreach, rfl⟩ := locate_eq_ok_iff.1 hm
    obtain ⟨created, hmade⟩ := makeParent_of_makeDirs hparent hne hmake
    exact ⟨_, hmade, hu, reaches_iff_walks.2 ⟨husable, (Child.walks_iff hchild).2
      ⟨(reaches_iff_walks.1 hreach).2, hd, hsize⟩⟩⟩

/-- The name of a backup fits. -/
lemma fittingName_backup : FittingName (tempName backupName "" 0) :=
  ⟨⟨by decide, by decide⟩, by decide, by decide⟩

/-- The path of a backup beside a header that is reached leads there, if it is not too long. -/
lemma locate_backup (hg : t.Grounded) (hr : t.Reaches (config.targetPath target))
    (hshort : (t.tempPath (config.homeDir target) (tempName backupName "" 0)).text.utf8ByteSize ≤ 4095)
    (n : Nat) : t.locate (t.tempPath (t.stagingDir (config.targetPath target))
        (tempName backupName "" n)) =
      .ok ((config.headerDir target).place t.workdir ++ [tempName backupName "" n]) := by
  have hdir := isDir_stagingDir hg (config.targetPath target)
  rw [stagingDir_eq_homeDir hr] at hdir ⊢
  obtain ⟨l, hl, hd⟩ := isDir_iff.1 hdir
  rw [← place_homeDir, ← eq_place_of_locate hl]
  exact (alike_tempName (by decide) (by decide) 0 n).locate
    (locate_tempPath hg hl hd fittingName_backup hshort)

/-- **One more file can be moved aside in the directory of a header**: the paths of backups are not too long, and
one of their places is free and stays so while the tree grows to have the directories of `v`. -/
structure FreeAside (config : RunConfig) (t v : FileTree) (target : Target) : Prop where
  short : (t.tempPath (config.homeDir target) (tempName backupName "" 0)).text.utf8ByteSize ≤ 4095
  place : ∃ n, t.file? ((config.headerDir target).place t.workdir ++ [tempName backupName "" n]) = none ∧
    ¬ v.DirAt ((config.headerDir target).place t.workdir ++ [tempName backupName "" n])

/-- **What a header holds is moved aside** where there is room for it and nothing but a file can stand at the
place of the header. -/
lemma exists_setAside_targetPath (hg : s.tree.Grounded) (hw : s.tree.Within v)
    (hr : s.tree.Reaches (config.targetPath target))
    (hplain : ¬ v.DirAt ((config.targetPath target).place s.tree.workdir))
    (hroom : s.tree.file? ((config.targetPath target).place s.tree.workdir) ≠ none →
      config.FreeAside s.tree v target) :
    ∃ s', s.setAside (config.targetPath target) = (.ok (), s') := by
  have hthere : s.tree.pathExists (config.targetPath target) = true →
      s.tree.file? ((config.targetPath target).place s.tree.workdir) ≠ none := by
    intro hx hnone
    obtain ⟨m, hm, hentry⟩ := pathExists_iff.1 hx
    refine hentry (entry?_eq_none_iff.2 ?_)
    rw [eq_place_of_locate hm]
    exact ⟨hnone, fun hd => hplain (hw.dirAt _ hd)⟩
  refine exists_setAside (fun hx => ?_) fun hx => ?_
  · obtain ⟨f, hf⟩ := Option.ne_none_iff_exists'.1 (hthere hx)
    exact ⟨_, f, hr, hf⟩
  · obtain ⟨hshort, ⟨n, hfree, hnodir⟩⟩ := hroom (hthere hx)
    exact ⟨n, _, locate_backup hg hr hshort n,
      entry?_eq_none_iff.2 ⟨hfree, fun hd => hnodir (hw.dirAt _ hd)⟩⟩

/-- **One header is replaced** where its directories can be made and there is room to move aside what it
holds.

**Proof sketch.** Each of the four steps succeeds: nothing but a file stands at the place of the header, since
no directory does in the tree that has all directories. -/
lemma exists_replace (hg : s.tree.Grounded) (hs : s.tree.Under v)
    (hr : v.Reaches (config.targetPath target))
    (hplain : ¬ v.DirAt ((config.targetPath target).place v.workdir))
    (hl : s.tree.locate temp = .ok l) (hf : s.tree.file? l = some (old, content))
    (hne : l ≠ (config.targetPath target).place s.tree.workdir)
    (hroom : s.tree.file? ((config.targetPath target).place s.tree.workdir) ≠ none →
      config.FreeAside s.tree v target) :
    ∃ s', s.replace (config.targetPath target) temp = (.ok (), s') := by
  obtain ⟨s₁, hmake, hs₁, hreach₁⟩ := exists_makeParent hs hg.dirAt hr
  have hgrown := (makeParent_spec s (config.targetPath target)).1
  rw [hmake] at hgrown
  have hf₁ : s₁.tree.file? l = some (old, content) := by rw [hgrown.file?, hf]
  have hwork₁ := hgrown.within.workdir
  rw [hs.within.workdir, ← hwork₁] at hplain
  rw [← hwork₁] at hne
  refine exists_replace_of_setAside hmake (locate_mono hgrown.within hl) hf₁ hreach₁ hne.symm
    (fun hd => hplain (hs₁.within.dirAt _ hd))
    ((targetPath_endsIn config target).endsWithSeparator target.plainName) fun mode => ?_
  -- the file at the place of the header is moved aside, if there is one
  have hsame : s₁.tree.SameDirs (s₁.tree.put l (.file mode content)) :=
    .put_file (not_dirAt_of_file? hf₁) _ _
  have hfile : ∀ m, (s₁.tree.put l (.file mode content)).file? m =
      if m = l then some (mode, content) else s.tree.file? m := by
    intro m
    rw [file?_put_file (ne_nil_of_file? hf₁), hgrown.file?]
  have hwithin := hgrown.within.trans hsame.within
  have hwork : FileTree.workdir (s₁.tree.put l (.file mode content)) = s.tree.workdir :=
    hwithin.workdir
  refine exists_setAside_targetPath (hg.mono hwithin) (hsame.symm.within.trans hs₁.within)
    (hreach₁.mono hsame.within) (by rwa [hwork, ← hwork₁]) fun hheld => ?_
  rw [hwork, hfile, if_neg (by rw [← hwork₁]; exact hne.symm)] at hheld
  obtain ⟨hshort, ⟨n, hfree, hnodir⟩⟩ := hroom hheld
  refine ⟨by rwa [tempPath_congr hwork], n, ?_, by rwa [hwork]⟩
  rw [hwork, hfile, if_neg, hfree]
  rintro rfl
  simp [hfree] at hf

end RunConfig

namespace Transaction

/-! ## All headers -/

/-- **As long as fewer files were moved aside than there is room for**, one more can be.

**Proof sketch.** There are more names for backups than were taken, and every backup in the directory
took one of them. So one is left (`Finset.exists_mem_notMem_of_card_lt_card`), and nothing else stands
there. -/
lemma Backed.freeAside {k : Nat} (h : Backed config t done s)
    (hprogress : Progress t all done rest s) (hready : Ready t u all)
    (ht : Tidy t.workdir all) (hdone : ∀ header ∈ done, header ∈ all)
    (hroom : config.RoomAside t v target k)
    (hlt : asides t ((config.headerDir target).place t.workdir) (writtenPlaces t.workdir done) < k) :
    config.FreeAside s.tree v target := by
  obtain ⟨places, hcard, hplaces⟩ := hroom.places
  -- there are more places than are taken by backups
  have htaken : ((backupPlaces t.workdir s).filter
      (·.dropLast = (config.headerDir target).place t.workdir)).toFinset.card < places.card := by
    refine (List.toFinset_card_le _).trans_lt ?_
    rw [← List.countP_eq_length_filter, h.counted]
    exact hlt.trans_le hcard
  obtain ⟨l, hl, hnot⟩ := Finset.exists_mem_notMem_of_card_lt_card htaken
  obtain ⟨⟨n, rfl⟩, hfree, hnodir⟩ := hplaces l hl
  rw [List.mem_toFinset, List.mem_filter, List.dropLast_concat] at hnot
  have hat : BackupAt ((config.headerDir target).place t.workdir ++ [tempName backupName "" n]) :=
    ⟨_, n, rfl⟩
  have hwork := hprogress.within.workdir
  refine ⟨by rw [tempPath_congr hwork]; exact hroom.short, n, ?_, by rwa [hwork]⟩
  rw [hwork, hprogress.others, hfree]
  · rintro ⟨k, hk, -, heq⟩
    exact (ht.apart k (hdone k hk)).2 (heq ▸ hat)
  · rintro ⟨k, hk, heq⟩
    exact (hready.named k hk).not_backupAt (heq ▸ hat)
  · exact fun hmem => hnot ⟨mem_backupPlaces.2 hmem, by simp⟩

/-- **The tree `v` shows that headers can be committed** from `t`: it has their directories and nothing but
files at their places, its new directories are above headers, and there is room to move files aside. -/
structure Unhindered (config : RunConfig) (t v : FileTree) (headers : List StagedHeader) : Prop where
  newDirs : ∀ l, v.DirAt l → ¬ t.DirAt l →
    ∃ other, ∃ dir ∈ (config.targetPath other).ancestors.tail, v.locate dir = .ok l
  held : ∀ header ∈ headers, header.record.unchanged = false →
    v.Reaches header.record.target ∧ ¬ v.DirAt (header.record.target.place v.workdir)
  room : ∀ target,
    0 < asides t ((config.headerDir target).place t.workdir) (writtenPlaces t.workdir headers) →
    config.RoomAside t v target
      (asides t ((config.headerDir target).place t.workdir) (writtenPlaces t.workdir headers))

/-- **A header that was replaced is in no way of directories**: the tree can grow as before.

**Proof sketch.** The new file stands where no directory does. A backup is made beside a header that is reached,
so where a directory had its place, that directory would be there. -/
lemma Unhindered.under_of_replace (h : Unhindered config t v headers) (hs : s.tree.Under v)
    (hwithin : t.Within s.tree) (hwork : t.DirAt t.workdir) (hmem : header ∈ headers)
    (hch : header.record.unchanged = false) (htarget : header.record.target = config.targetPath target)
    (hl : s.tree.locate temp = .ok l) (hf : s.tree.file? l = some (old, content))
    (hreplace : s.replace header.record.target temp = (.ok (), s₁)) : s₁.tree.Under v := by
  obtain ⟨hr, hplain⟩ := h.held header hmem hch
  obtain ⟨τ, mode, o, β?, hex, hheld, -⟩ := replace_ok hl hf hreplace
  obtain ⟨hsame, -⟩ := replace_sameDirs header.record.target hl hf
  rw [hreplace] at hsame
  have hlocate := hex.locate
  rw [htarget] at hr hsame hlocate hplain
  obtain ⟨s₂, hmake, hs₂, -⟩ := RunConfig.exists_makeParent hs
    (by rw [hwithin.workdir]; exact hwithin.dirAt _ hwork) hr
  rw [hmake] at hsame
  have hwork₁ : s₁.tree.workdir = v.workdir := hsame.workdir.trans hs₂.within.workdir.symm
  refine ⟨hsame.symm.within.trans hs₂.within, fun m hm => ?_⟩
  have hτ : m ≠ τ := by
    rintro rfl
    rw [eq_place_of_locate hlocate, hwork₁] at hm
    exact hplain hm
  rw [hex.file?, if_neg hτ]
  split_ifs with htemp hβ
  · rfl
  · exfalso
    cases hheld with
    | nothing => simp at hβ
    | @backup b β content' hname hfile hβ' _ hne_target hne_temp =>
      obtain rfl : m = β := by simpa using hβ
      have hthere : s₁.tree.file? m = some (mode, content') := by
        rw [hex.file?_backup hne_target hne_temp, hfile]
      have hat : BackupAt m := by
        obtain ⟨dir, n, hname⟩ := hname
        rw [eq_place_of_locate hβ', hname]
        exact backupAt_tempPath s.tree dir n _
      refine not_dirAt_of_file? hthere ?_
      by_cases ht : t.DirAt m
      · exact hex.within.dirAt m (hwithin.dirAt m ht)
      · obtain ⟨other, dir, hdir, hlocate'⟩ := h.newDirs m hm ht
        exact RunConfig.dirAt_of_reaches hdir hlocate' (.inr hat) hwork₁ (.of_locate hlocate)
  · exact hs.clear m hm

/-- **The next header is replaced.**

**Proof sketch.** What is moved aside for it is counted among all that is, so one of the places for backups is
free. -/
lemma Unhindered.exists_replace (h : Unhindered config t v (done ++ header :: rest)) (hg : t.Grounded)
    (hready : Ready t u (done ++ header :: rest)) (ht : Tidy t.workdir (done ++ header :: rest))
    (hprogress : Progress t (done ++ header :: rest) done (header :: rest) s)
    (hbacked : Backed config t done s) (hs : s.tree.Under v)
    (htarget : header.record.target = config.targetPath target)
    (hch : header.record.unchanged = false) :
    ∃ s₁, s.replace header.record.target header.temp = (.ok (), s₁) := by
  obtain ⟨hreach, hfile⟩ := hprogress.waiting header (by simp)
  obtain ⟨hr, hplain⟩ := h.held header (by simp) hch
  obtain ⟨hnot_staged, hnot_backup⟩ := ht.apart header (by simp)
  have hwork := hprogress.within.workdir
  have hthere := hprogress.file?_ne_none_iff hready hnot_staged hnot_backup
  have habove : (header.record.target.place t.workdir).dropLast =
      (config.headerDir target).place t.workdir := by
    rw [htarget, RunConfig.place_targetPath_eq, List.dropLast_concat]
  have hlt := fun hwhy => @asides_lt_of_replaced t _ _ _ done rest hch habove hwhy
  rw [htarget] at hr hplain hnot_staged hthere hlt ⊢
  refine RunConfig.exists_replace (hg.mono hprogress.within) hs hr hplain hreach
    (by rw [hwork]; exact hfile) ?_ fun hheld => ?_
  · rw [hwork]
    intro heq
    exact hnot_staged (heq ▸ hready.named header (by simp))
  · rw [hwork] at hheld
    have hless := hlt ((hthere.1 hheld).imp_right mem_writtenPlaces.2)
    exact hbacked.freeAside hprogress hready ht (fun k hk => List.mem_append_left _ hk)
      (h.room target ((Nat.zero_le _).trans_lt hless)) hless

/-- **Headers are committed** where nothing hinders.

**Proof sketch.** Induction on the headers to come; each is cleared away or replaced. -/
lemma Unhindered.exists_passes (h : Unhindered config t v (done ++ rest)) (hg : t.Grounded)
    (hready : Ready t u (done ++ rest)) (ht : Tidy t.workdir (done ++ rest))
    (hconf : Configured config (done ++ rest)) (hprogress : Progress t (done ++ rest) done rest s)
    (hbacked : Backed config t done s) (hs : s.tree.Under v) : ∃ s', Passes s rest s' := by
  induction rest generalizing done s with
  | nil => exact ⟨s, .nil s⟩
  | cons header rest ih =>
    obtain ⟨target, htarget⟩ := hconf header (by simp)
    obtain ⟨hreach, hfile⟩ := hprogress.waiting header (by simp)
    have hfile' : s.tree.file? (header.temp.place s.tree.workdir) =
        some (tempFileMode, header.record.content.toUTF8) := by rwa [hprogress.within.workdir]
    rcases hch : header.record.unchanged
    · obtain ⟨s₁, hreplace⟩ := h.exists_replace hg hready ht hprogress hbacked hs htarget hch
      have hunder := h.under_of_replace hs hprogress.within hg.dirAt (by simp) hch htarget hreach hfile'
        hreplace
      have hnext := hprogress.replaced hready ht hch hreplace
      have hbacked' := hbacked.replaced hprogress hg hready ht htarget hch hreplace
      rw [List.append_cons] at hnext hready ht hconf h
      obtain ⟨s', hpass⟩ := ih h hready ht hconf hnext hbacked' hunder
      exact ⟨s', .replaced hch hreplace hpass⟩
    · have hnext := hprogress.unchanged hready ht hch
      have hbacked' := hbacked.unchanged hprogress hready hch
      have hsame := sameDirs_removeIfFile s.tree header.temp
      have hunder : (s.tree.removeIfFile header.temp).Under v :=
        ⟨hsame.symm.within.trans hs.within, fun m hm => file?_removeIfFile_of_none (hs.clear m hm)⟩
      rw [List.append_cons] at hnext hready ht hconf h
      obtain ⟨s', hpass⟩ := ih h hready ht hconf hnext hbacked' hunder
      exact ⟨s', .unchanged hch hpass⟩

end Transaction

end UaHeaders
