import UaHeaders.Proofs.Run.Root

/-!
# Files that are moved aside

A commit moves a file aside each time it replaces one: a file from before, or one that it has written itself for
a header that is made twice. How many are moved aside in a directory depends on which places are written and how
often, and not on their order. Each of them lies beside its target, at a place of its own.

## Main definitions

* `UaHeaders.Transaction.asides` — how many files are moved aside in a directory.
* `UaHeaders.Transaction.Backed` — what is known of the backups of a commit.
* `UaHeaders.RunConfig.RoomAside` — there is room to move files aside.

## Main results

* `UaHeaders.Transaction.asides_le_of_subperm` — fewer places, fewer files moved aside.
* `UaHeaders.Transaction.Backed.passes` — the backups of a whole commit.
* `UaHeaders.Transaction.Backed.roomAside` — a commit that succeeds had room for its backups.
-/

set_option autoImplicit false

namespace UaHeaders

open FileTree Commit

variable {s s₁ s' : Commit} {t u v : FileTree} {l m above w : Location} {ls ls' : List Location}
  {config : RunConfig} {target : Target} {temp b : Path} {header : StagedHeader}
  {all done rest headers : List StagedHeader} {old : Nat} {content : ByteArray} {k : Nat}

namespace Transaction

/-! ## How many files are moved aside -/

/-- **How many files are moved aside in a directory** when places are written one after another, the latest
first: one at each place in the directory that held a file at the start or was written before. -/
def asides (t : FileTree) (above : Location) : List Location → Nat
  | [] => 0
  | l :: earlier =>
    asides t above earlier +
      if l.dropLast = above ∧ (t.file? l ≠ none ∨ l ∈ earlier) then 1 else 0

/-- The order in which places are written makes no difference. -/
lemma asides_perm (h : ls.Perm ls') : asides t above ls = asides t above ls' := by
  induction h with
  | nil => rfl
  | cons l hperm ih => simp only [asides, ih, hperm.mem_iff]
  | swap l m ls =>
    by_cases heq : l = m
    · rw [heq]
    · simp only [asides, List.mem_cons, heq, Ne.symm heq, false_or]
      omega
  | trans _ _ ih ih' => exact ih.trans ih'

/-- More places, more files moved aside. -/
lemma asides_le_append (ls ls' : List Location) : asides t above ls ≤ asides t above (ls' ++ ls) := by
  induction ls' with
  | nil => rfl
  | cons l ls' ih => exact ih.trans (Nat.le_add_right _ _)

/-- **Fewer places, fewer files moved aside**, in whatever order. -/
lemma asides_le_of_subperm (h : ls.Subperm ls') : asides t above ls ≤ asides t above ls' := by
  obtain ⟨same, hsame, hsub⟩ := h
  obtain ⟨more, hmore⟩ := hsub.exists_perm_append
  calc asides t above ls = asides t above same := (asides_perm hsame).symm
    _ ≤ asides t above (more ++ same) := asides_le_append same more
    _ = asides t above ls' := asides_perm (List.perm_append_comm.trans hmore.symm)

/-- No more files are moved aside than places are written. -/
lemma asides_le_length (t : FileTree) (above : Location) (ls : List Location) :
    asides t above ls ≤ ls.length := by
  induction ls with
  | nil => rfl
  | cons l ls ih =>
    rw [asides, List.length_cons]
    split_ifs <;> omega

/-- **Files are moved aside in a directory** when one was there at the start, or a place is written twice.

**Proof sketch.** Induction on the places. One of them counts if a file was there, or if it comes again;
and a place that is written twice comes again at its first turn. -/
lemma asides_pos_iff : 0 < asides t above ls ↔
    ∃ l ∈ ls, l.dropLast = above ∧ (t.file? l ≠ none ∨ 2 ≤ ls.count l) := by
  induction ls with
  | nil => simp [asides]
  | cons l ls ih =>
    rw [asides, Nat.add_pos_iff_pos_or_pos, ih]
    constructor
    · rintro (⟨m, hm, habove, hwhy⟩ | hpos)
      · refine ⟨m, List.mem_cons_of_mem _ hm, habove, hwhy.imp_right fun htwo => htwo.trans ?_⟩
        exact List.count_le_count_cons
      · split_ifs at hpos with h
        · refine ⟨l, List.mem_cons_self, h.1, h.2.imp_right fun hmem => ?_⟩
          rw [List.count_cons_self]
          exact Nat.succ_le_succ (List.count_pos_iff.2 hmem)
        · simp at hpos
    · rintro ⟨m, hm, habove, hwhy⟩
      by_cases heq : m = l
      · subst heq
        refine .inr ?_
        rw [if_pos]
        · exact Nat.one_pos
        · refine ⟨habove, hwhy.imp_right fun htwo => List.count_pos_iff.1 ?_⟩
          rw [List.count_cons_self] at htwo
          omega
      · refine .inl ⟨m, (List.mem_cons.1 hm).resolve_left heq, habove, hwhy.imp_right fun htwo => ?_⟩
        rwa [List.count_cons_of_ne (Ne.symm heq)] at htwo

/-! ## The places that a commit writes -/

/-- The places to which headers are written, in order. -/
def writtenPlaces (w : Location) (headers : List StagedHeader) : List Location :=
  (headers.filter fun header => !header.record.unchanged).map fun header => header.record.target.place w

/-- A place to which a header is written is one of them. -/
lemma mem_writtenPlaces : l ∈ writtenPlaces w headers ↔ Writes w headers l := by
  simp only [writtenPlaces, Writes, List.mem_map, List.mem_filter, Bool.not_eq_true', and_assoc,
    eq_comm (a := l)]

/-- The places of one more header. -/
lemma writtenPlaces_append_of_changed (hch : header.record.unchanged = false) :
    writtenPlaces w (done ++ [header]) = writtenPlaces w done ++ [header.record.target.place w] := by
  simp [writtenPlaces, hch]

/-- A header that is unchanged is not written. -/
lemma writtenPlaces_append_of_unchanged (hun : header.record.unchanged = true) :
    writtenPlaces w (done ++ [header]) = writtenPlaces w done := by
  simp [writtenPlaces, hun]

/-- How many files are moved aside with one more header. -/
lemma asides_append_of_changed (hch : header.record.unchanged = false) :
    asides t above (writtenPlaces w (done ++ [header])) = asides t above (writtenPlaces w done) +
      if (header.record.target.place w).dropLast = above ∧
          (t.file? (header.record.target.place w) ≠ none ∨
            header.record.target.place w ∈ writtenPlaces w done) then 1 else 0 := by
  rw [writtenPlaces_append_of_changed hch, asides_perm (List.perm_append_singleton _ _), asides]

/-- **A header that replaces a file** is one for which one more file is moved aside in its directory. -/
lemma asides_lt_of_replaced (hch : header.record.unchanged = false)
    (habove : (header.record.target.place w).dropLast = above)
    (hwhy : t.file? (header.record.target.place w) ≠ none ∨
      header.record.target.place w ∈ writtenPlaces w done) :
    asides t above (writtenPlaces w done) <
      asides t above (writtenPlaces w (done ++ header :: rest)) := by
  have hlt : asides t above (writtenPlaces w done) <
      asides t above (header.record.target.place w :: writtenPlaces w done) := by
    rw [asides, if_pos ⟨habove, hwhy⟩]
    exact Nat.lt_succ_self _
  refine hlt.trans_le (asides_le_of_subperm ?_)
  rw [writtenPlaces, writtenPlaces, List.filter_append, List.map_append,
    List.filter_cons_of_pos (by simp [hch]), List.map_cons]
  refine List.Subperm.trans ?_ List.perm_middle.symm.subperm
  exact (List.subperm_cons _).2 (List.sublist_append_left _ _).subperm

/-- The places of the files that a commit has moved aside, the latest first. -/
def backupPlaces (w : Location) (s : Commit) : List Location :=
  s.replaced.filterMap fun r => r.backup.map (Path.place w)

/-- The place of a backup is one of them. -/
lemma mem_backupPlaces : l ∈ backupPlaces w s ↔ s.HasBackup w l := by
  simp only [backupPlaces, HasBackup, List.mem_filterMap, Option.map_eq_some_iff, Option.mem_def,
    eq_comm (a := l)]

/-- A target that held nothing has no backup. -/
lemma backupPlaces_of_none {target : Path} (h : s'.replaced = ⟨target, none⟩ :: s.replaced) :
    backupPlaces w s' = backupPlaces w s := by
  simp [backupPlaces, h]

/-- The backup of a target is the latest. -/
lemma backupPlaces_of_some {target : Path} (h : s'.replaced = ⟨target, some b⟩ :: s.replaced) :
    backupPlaces w s' = b.place w :: backupPlaces w s := by
  simp [backupPlaces, h]

/-! ## Backups -/

/-- Staged headers belong to targets of a run. -/
def Configured (config : RunConfig) (headers : List StagedHeader) : Prop :=
  ∀ header ∈ headers, ∃ target, header.record.target = config.targetPath target

/-- **What is known of the backups of a commit**, with the headers `done` behind it: each stands at a place of
its own beside its target, and in each directory there are as many as files were replaced. -/
structure Backed (config : RunConfig) (t : FileTree) (done : List StagedHeader) (s : Commit) : Prop where
  nodup : (backupPlaces t.workdir s).Nodup
  stands : ∀ l ∈ backupPlaces t.workdir s, s.tree.file? l ≠ none
  counted : ∀ above, (backupPlaces t.workdir s).countP (·.dropLast = above) =
    asides t above (writtenPlaces t.workdir done)
  named : ∀ r ∈ s.replaced, ∀ b ∈ r.backup, ∃ target n,
    b = t.tempPath (config.homeDir target) (tempName backupName "" n)

/-- A commit starts without backups. -/
lemma Backed.start (config : RunConfig) (t u : FileTree) : Backed config t [] (.start u) := by
  refine ⟨?_, ?_, fun above => ?_, ?_⟩ <;>
    simp [backupPlaces, Commit.start, writtenPlaces, asides]

end Transaction

open Transaction

namespace Commit

/-- What a commit notes when it moves a file aside. -/
lemma replaced_of_setAside {target : Path} (h : s.setAside target = (.ok (), s')) :
    s'.replaced = ⟨target, none⟩ :: s.replaced ∨
      ∃ n, s'.replaced = ⟨target, some (s.tree.tempPath (s.tree.stagingDir target)
        (tempName backupName "" n))⟩ :: s.replaced := by
  unfold setAside at h
  split at h
  · rcases hc : s.tree.createTemp (s.tree.stagingDir target) backupName "" with cause | ⟨b, u⟩
    · simp [hc] at h
    obtain ⟨⟨n, hn⟩, -⟩ := createTemp_eq_ok hc
    rcases hr : FileTree.rename u target b with cause | v
    · simp [hc, hr] at h
    · simp only [hc, hr, Prod.mk.injEq, true_and] at h
      subst h
      exact .inr ⟨n, by rw [hn]⟩
  · simp only [Prod.mk.injEq, true_and] at h
    subst h
    exact .inl rfl

/-- **The backup of a header has a name of its own** in the directory of the header. -/
lemma exists_name_of_replace (hl : s.tree.locate temp = .ok l)
    (hf : s.tree.file? l = some (old, content))
    (h : s.replace (config.targetPath target) temp = (.ok (), s'))
    (hrep : s'.replaced = ⟨config.targetPath target, some b⟩ :: s.replaced) :
    ∃ n, b = s.tree.tempPath (config.homeDir target) (tempName backupName "" n) := by
  obtain ⟨s₁, s₂, s₃, h₁, h₂, h₃, h₄⟩ := replace_eq_ok h
  obtain ⟨mode, hp, -, hrep₂, -⟩ := prepared_of_steps hl hf h₁ h₂
  obtain ⟨o, haside, -, -⟩ := setAside_ok h₃
  obtain ⟨hmove, hrep₄, -⟩ := moveIn_ok h₄
  obtain ⟨-, τ, -, -, -, -, hτ, -⟩ := rename_eq_ok_iff.1 hmove
  have hreach : s₂.tree.Reaches (config.targetPath target) :=
    (Reaches.of_locate hτ).mono haside.sameDirs.symm.within
  rw [hrep₄, ← hrep₂] at hrep
  rcases replaced_of_setAside h₃ with hnone | ⟨n, hsome⟩
  · simp [hrep] at hnone
  · rw [hrep, List.cons.injEq, Replaced.mk.injEq, Option.some.injEq] at hsome
    refine ⟨n, ?_⟩
    rw [hsome.1.2, RunConfig.stagingDir_eq_homeDir hreach, tempPath_congr hp.within.workdir]

/-- **Which files stand where no temporary file has its name**: those from the start, and the written ones. -/
lemma Progress.file?_ne_none_iff (h : Progress t all done rest s) (hready : Ready t u all)
    (hs : ¬ StagedAt l) (hb : ¬ BackupAt l) :
    s.tree.file? l ≠ none ↔ t.file? l ≠ none ∨ Writes t.workdir done l := by
  by_cases hw : Writes t.workdir done l
  · obtain ⟨k, hk, hch, rfl⟩ := hw
    simp only [(h.written k hk hch).2, ne_eq, reduceCtorEq, not_false_eq_true, true_iff]
    exact .inr ⟨k, hk, hch, rfl⟩
  · rw [h.others l hw]
    · simp [hw]
    · rintro ⟨k, hk, rfl⟩
      exact hs (hready.named k hk)
    · rintro ⟨r, hr, b, hb', rfl⟩
      exact hb (h.backups r hr b hb').2.1

end Commit

/-- **The backup of a header lies in the directory of the header.** -/
lemma RunConfig.place_backup (config : RunConfig) (target : Target) (hg : t.Grounded) (n : Nat) :
    (t.tempPath (config.homeDir target) (tempName backupName "" n)).place t.workdir =
      (config.headerDir target).place t.workdir ++ [tempName backupName "" n] := by
  rw [place_tempPath_eq hg (config.homeDir_nonempty target) (plainName_backup n),
    RunConfig.place_homeDir]

namespace Transaction

/-- An unchanged header has no backup. -/
lemma Backed.unchanged (h : Backed config t done s)
    (hprogress : Progress t (done ++ header :: rest) done (header :: rest) s)
    (hready : Ready t u (done ++ header :: rest)) (hun : header.record.unchanged = true) :
    Backed config t (done ++ [header]) { s with tree := s.tree.removeIfFile header.temp } := by
  refine ⟨h.nodup, fun l hl => ?_, fun above => ?_, h.named⟩
  · obtain ⟨r, hr, b, hb, rfl⟩ := mem_backupPlaces.1 hl
    have hne : b.place t.workdir ≠ header.temp.place s.tree.workdir := by
      rw [hprogress.within.workdir]
      intro heq
      refine (hready.named header (by simp)).not_backupAt ?_
      rw [← heq]
      exact (hprogress.backups r hr b hb).2.1
    show (s.tree.removeIfFile header.temp).file? _ ≠ none
    rw [file?_removeIfFile_of_ne hne]
    exact h.stands _ hl
  · rw [writtenPlaces_append_of_unchanged hun]
    exact h.counted above

/-- Backups keep their places when a target is replaced: a new one is made where nothing stands.

**Proof sketch.** A replacement changes what stands at the target, at the temporary file and at the new
backup. A backup is no temporary file, and the new one has a place that was free. -/
lemma Backed.stands_of_exchanged {τ m : Location} {mode : Nat} {path : Path} {o : Option Path}
    {β? : Option Location} (h : Backed config t done s) (hprogress : Progress t all done rest s)
    (hm : StagedAt m) (hex : Exchanged s.tree s₁.tree path m τ mode content β?)
    (hheld : Held s.tree s₁.tree m τ mode o β?) :
    ∀ l ∈ backupPlaces t.workdir s, s₁.tree.file? l ≠ none := by
  intro l hl
  have hstands := h.stands l hl
  obtain ⟨r, hr, b, hb, rfl⟩ := mem_backupPlaces.1 hl
  have hne : b.place t.workdir ≠ m := by
    rintro rfl
    exact hm.not_backupAt (hprogress.backups r hr b hb).2.1
  rw [hex.file?, if_neg hne]
  split_ifs with hτ hβ
  · simp
  · cases hheld with
    | nothing => simp at hβ
    | @backup _ β _ _ _ _ hfree =>
      obtain rfl : b.place t.workdir = β := by simpa using hβ
      exact absurd hfree hstands
  · exact hstands

/-- **Replacing a target** makes a backup where it held a file.

**Proof sketch.** A file stands at the target if one did at the start, or if the target was written before. A
backup is made where nothing stands, so it is none of the earlier ones, and those keep their places. -/
lemma Backed.replaced (h : Backed config t done s)
    (hprogress : Progress t (done ++ header :: rest) done (header :: rest) s)
    (hg : t.Grounded) (hready : Ready t u (done ++ header :: rest))
    (ht : Tidy t.workdir (done ++ header :: rest))
    (htarget : header.record.target = config.targetPath target)
    (hch : header.record.unchanged = false)
    (hr : s.replace header.record.target header.temp = (.ok (), s₁)) :
    Backed config t (done ++ [header]) s₁ := by
  obtain ⟨hwork, -, mode, o, β?, hex, hheld, hrep⟩ := hprogress.exchanged hr
  obtain ⟨hnot_staged, hnot_backup⟩ := ht.apart header (by simp)
  have hthere := hprogress.file?_ne_none_iff hready hnot_staged hnot_backup
  rw [← mem_writtenPlaces] at hthere
  have hkeeps := h.stands_of_exchanged hprogress (hready.named header (by simp)) hex hheld
  cases hheld with
  | nothing hfree _ =>
    have hbackups : backupPlaces t.workdir s₁ = backupPlaces t.workdir s := backupPlaces_of_none hrep
    refine ⟨hbackups ▸ h.nodup, hbackups ▸ hkeeps, fun above => ?_, ?_⟩
    · have hnot := (not_congr hthere).1 (by simpa using hfree)
      rw [hbackups, h.counted, asides_append_of_changed hch, if_neg fun hwhy => hnot hwhy.2, Nat.add_zero]
    · rw [hrep]
      exact List.forall_mem_cons.2 ⟨by simp, h.named⟩
  | @backup b β old _ hold hβ hfree hne_target hne_temp =>
    obtain ⟨-, rfl⟩ := locate_eq_ok_iff.1 hβ
    rw [hwork] at hfree hne_target hne_temp hex
    obtain ⟨hreach, hfile⟩ := hprogress.waiting header (by simp)
    have hwork' := hprogress.within.workdir
    obtain ⟨n, hname⟩ :=
      exists_name_of_replace hreach (by rwa [hwork']) (htarget ▸ hr) (htarget ▸ hrep)
    rw [tempPath_congr hwork'] at hname
    have hplace : b.place t.workdir =
        (config.headerDir target).place t.workdir ++ [tempName backupName "" n] := by
      rw [hname, config.place_backup target hg]
    have hbackups : backupPlaces t.workdir s₁ = b.place t.workdir :: backupPlaces t.workdir s :=
      backupPlaces_of_some hrep
    refine ⟨?_, ?_, fun above => ?_, ?_⟩
    · rw [hbackups, List.nodup_cons]
      exact ⟨fun hmem => h.stands _ hmem hfree, h.nodup⟩
    · rw [hbackups]
      refine List.forall_mem_cons.2 ⟨?_, hkeeps⟩
      rw [hex.file?_backup hne_target hne_temp, hold]
      simp
    · have hwhy := hthere.1 (by simp [hold])
      have habove : (b.place t.workdir).dropLast = (header.record.target.place t.workdir).dropLast := by
        rw [hplace, htarget, RunConfig.place_targetPath_eq, List.dropLast_concat, List.dropLast_concat]
      rw [hbackups, List.countP_cons, h.counted, asides_append_of_changed hch, habove]
      simp [hwhy]
    · rw [hrep]
      exact List.forall_mem_cons.2 ⟨fun b' hb' => ⟨target, n, by
        obtain rfl : b = b' := by simpa using hb'
        exact hname⟩, h.named⟩

/-- **The backups of a whole commit.** -/
lemma Backed.passes (hp : Passes s headers s')
    (hprogress : Progress t (done ++ headers) done headers s) (hg : t.Grounded)
    (hready : Ready t u (done ++ headers)) (ht : Tidy t.workdir (done ++ headers))
    (hconf : Configured config (done ++ headers)) (h : Backed config t done s) :
    Backed config t (done ++ headers) s' := by
  induction hp generalizing done with
  | nil s => simpa using h
  | unchanged hun _ ih =>
    have hnext := hprogress.unchanged hready ht hun
    have hbacked := h.unchanged hprogress hready hun
    rw [List.append_cons] at hnext hready ht hconf ⊢
    exact ih hnext hready ht hconf hbacked
  | @replaced s s₁ s' header rest hch hr _ ih =>
    obtain ⟨target, htarget⟩ := hconf header (by simp)
    have hnext := hprogress.replaced hready ht hch hr
    have hbacked := h.replaced hprogress hg hready ht htarget hch hr
    rw [List.append_cons] at hnext hready ht hconf ⊢
    exact ih hnext hready ht hconf hbacked

end Transaction

/-! ## Room for backups -/

namespace RunConfig

/-- **There is room to move `k` files aside in the directory of a header** while the tree grows from `t` to have
the directories of `v`: the paths of backups are not too long, and that many of their places stay free. -/
structure RoomAside (config : RunConfig) (t v : FileTree) (target : Target) (k : Nat) : Prop where
  short : (t.tempPath (config.homeDir target) (tempName backupName "" 0)).text.utf8ByteSize ≤ 4095
  places : ∃ places : Finset Location, k ≤ places.card ∧ ∀ l ∈ places,
    (∃ n, l = (config.headerDir target).place t.workdir ++ [tempName backupName "" n]) ∧
      t.file? l = none ∧ ¬ v.DirAt l

end RunConfig

namespace Transaction

/-- **A commit that succeeds had room for its backups.**

**Proof sketch.** The backups themselves are the room: as many places as files were moved aside, all
different, and free at the start. The path of one of them was short enough, and all names are as long. -/
lemma Backed.roomAside (h : Backed config t all s) (hprogress : Progress t all all [] s)
    (hg : t.Grounded) (hs : s.tree.SameDirs v)
    (hpos : 0 < asides t ((config.headerDir target).place t.workdir) (writtenPlaces t.workdir all)) :
    config.RoomAside t v target
      (asides t ((config.headerDir target).place t.workdir) (writtenPlaces t.workdir all)) := by
  have hplaces : ∀ l ∈ backupPlaces t.workdir s, l.dropLast = (config.headerDir target).place t.workdir →
      ∃ b n, l = b.place t.workdir ∧ s.tree.Reaches b ∧ t.file? l = none ∧
        b = t.tempPath (config.homeDir target) (tempName backupName "" n) := by
    intro l hl habove
    obtain ⟨r, hr, b, hb, rfl⟩ := mem_backupPlaces.1 hl
    obtain ⟨other, n, hname⟩ := h.named r hr b hb
    obtain ⟨hreach, -, hfree⟩ := hprogress.backups r hr b hb
    refine ⟨b, n, rfl, hreach, hfree, ?_⟩
    rw [hname, config.place_backup other hg, List.dropLast_concat] at habove
    rw [hname, RunConfig.homeDir, RunConfig.homeDir, RunConfig.headerDir_eq_of_place habove]
  constructor
  · rw [← h.counted, List.countP_pos_iff] at hpos
    obtain ⟨l, hl, habove⟩ := hpos
    obtain ⟨b, n, -, hreach, -, hname⟩ := hplaces l hl (by simpa using habove)
    rw [hname] at hreach
    exact ((alike_tempName (by decide) (by decide) n 0).usable hreach.usable).short
  · refine ⟨((backupPlaces t.workdir s).filter
      (·.dropLast = (config.headerDir target).place t.workdir)).toFinset, ?_, fun l hl => ?_⟩
    · rw [List.toFinset_card_of_nodup (h.nodup.filter _), ← List.countP_eq_length_filter, h.counted]
    · rw [List.mem_toFinset, List.mem_filter, decide_eq_true_iff] at hl
      obtain ⟨b, n, hplace, -, hfree, hname⟩ := hplaces l hl.1 hl.2
      refine ⟨⟨n, ?_⟩, hfree, ?_⟩
      · rw [hplace, hname, config.place_backup target hg]
      · rw [hs.dirAt]
        obtain ⟨f, hf⟩ := Option.ne_none_iff_exists'.1 (h.stands l hl.1)
        exact not_dirAt_of_file? hf

end Transaction

end UaHeaders
