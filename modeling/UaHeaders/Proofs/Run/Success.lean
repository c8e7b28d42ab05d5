import UaHeaders.Proofs.Run.Repeated
import UaHeaders.Proofs.Run.SameHeaders
import UaHeaders.Proofs.Run.Unhindered

/-!
# When a run with the same targets succeeds

A run that succeeded shows that another one with the same targets can: where its tree has directories, they
can be made, and beside its headers files can be moved aside. That no temporary file of the other run is in
the way of a directory is told by names alone if there are more of these files than before; if there are not,
by the places of the ones that were there when the directories were made.

## Main definitions

* `UaHeaders.Succeeds` — a run succeeds.
* `UaHeaders.FileTree.CrampedAside` — the paths of backups beside a header are too long.
* `UaHeaders.RunConfig.DirsApart` — no missing directory has the name of a temporary file.

## Main results

* `UaHeaders.Ran.succeeds` — a run for which there is room succeeds where another one has.
* `UaHeaders.Ran.succeeds_of_subperm` — a run with some of the targets, in any order.
* `UaHeaders.Ran.succeeds_iff` — a run with the same targets, however often each is named.
-/

set_option autoImplicit false

namespace UaHeaders

open FileTree Commit Transaction FormatterCommand

variable {outside : Outside} {config : RunConfig} {inputs : Inputs} {t t' u u' v : FileTree}
  {result : ByteArray → Except Fault Finished × ByteArray} {report : Report}
  {target : Target} {targets others : List Target} {staged staged' : List StagedHeader}
  {header : StagedHeader} {texts : List (Path × String)} {s s' : Commit} {l : Location}
  {tx : Transaction} {entry : TargetReport} {k m : Nat}

/-! ## Runs that succeed -/

/-- **A run succeeds**: it ends with a report. -/
def Succeeds (outside : Outside) (config : RunConfig) (inputs : Inputs) (t : FileTree) : Prop :=
  ∃ report t', generate outside config inputs t = (.ok report, t')

/-- A commit that gets past all headers ends well. -/
lemma Commit.run_of_passes {headers : List StagedHeader} (h : Passes s headers s') :
    s.run headers = (.ok (), s'.close) := by
  induction h with
  | nil s => rfl
  | unchanged hun _ ih =>
    rw [run, if_pos hun]
    exact ih
  | replaced hch hr _ ih =>
    rw [run, if_neg (by simp [hch])]
    simp only [hr]
    exact ih

/-- A run that renders, stages and commits succeeds. -/
lemma succeeds_of_passes (hmode : config.mode = .write) (hvalid : config.validate t = .ok ())
    (hrender : renderAll outside config inputs t = .ok texts)
    (hstage : stageAll outside.programs (.start config.formatter false) t texts = (.ok tx, u))
    (htx : tx.dryRun = false) (hpass : Passes (.start u) tx.staged s) :
    Succeeds outside config inputs t := by
  have hprepare : prepare outside config inputs t = .ok texts := by rw [prepare, hvalid]; exact hrender
  have hdry : (config.mode == .check) = false := by rw [hmode]; rfl
  have hcommit : tx.commit u = (.ok tx.records, s.close) := by
    rw [commit, htx, Commit.run_of_passes hpass]
    rfl
  have hgenerate := generate_of_stageAll_ok hprepare (by rw [hdry]; exact hstage)
  rw [hmode, conclude, hcommit] at hgenerate
  exact ⟨_, _, hgenerate⟩

/-- An unchanged header is reached. -/
lemma HeaderOf.reaches (h : HeaderOf outside config inputs result t target header)
    (hun : header.record.unchanged = true) : t.Reaches header.record.target := by
  obtain ⟨l, -, hl, -⟩ := FileTree.read_eq_ok_iff.1 (h.unchanged.1 hun)
  rw [h.path]
  exact .of_locate hl

/-! ## Files that are moved aside -/

/-- **The paths of backups beside a header are too long.** They are of one length, so this is said of the
first. -/
def FileTree.CrampedAside (t : FileTree) (target : Path) : Prop :=
  4095 < (t.tempPath (t.stagingDir target) (tempName backupName "" 0)).text.utf8ByteSize

instance (t : FileTree) (target : Path) : Decidable (t.CrampedAside target) :=
  inferInstanceAs (Decidable (_ < _))

namespace RunConfig

/-- **No missing directory above a header has the name of a temporary file.** -/
def DirsApart (config : RunConfig) (t : FileTree) : Prop :=
  ∀ target ∈ config.targets, ∀ dir ∈ (config.targetPath target).ancestors.tail, t.pathExists dir = false →
    ¬ StagedAt (dir.place t.workdir) ∧ ¬ BackupAt (dir.place t.workdir)

/-- Room for more files is room for fewer. -/
lemma RoomAside.mono (h : config.RoomAside t v target k) (hle : m ≤ k) : config.RoomAside t v target m := by
  obtain ⟨places, hcard, hplaces⟩ := h.places
  exact ⟨h.short, places, hle.trans hcard, hplaces⟩

/-- Where a header is reached, its backups lie in its directory. -/
lemma not_crampedAside_iff (hw : t'.workdir = t.workdir) (hr : t'.Reaches (config.targetPath target)) :
    ¬ t'.CrampedAside (config.targetPath target) ↔
      (t.tempPath (config.homeDir target) (tempName backupName "" 0)).text.utf8ByteSize ≤ 4095 := by
  rw [CrampedAside, Nat.not_lt, stagingDir_eq_homeDir hr, tempPath_congr hw]

end RunConfig

/-- The places that are due are those of the targets that do not hold their text. -/
lemma mem_duePlaces : l ∈ duePlaces outside config inputs result t targets ↔ ∃ target ∈ targets,
    ¬ HasText outside config inputs result t target ∧ (config.targetPath target).place t.workdir = l := by
  simp only [duePlaces, List.mem_map, mem_dueTargets, and_assoc]

/-- A place is due as often as its target is named. -/
lemma count_duePlaces (hdue : ¬ HasText outside config inputs result t target) :
    (duePlaces outside config inputs result t targets).count ((config.targetPath target).place t.workdir) =
      targets.count target := by
  have hinj : Function.Injective fun target => (config.targetPath target).place t.workdir :=
    fun _ _ heq => eq_of_place_targetPath heq
  rw [duePlaces, List.count_map_of_injective _ _ hinj, dueTargets, List.count_filter (by simpa using hdue)]

/-- Fewer targets, fewer places that are due. -/
lemma duePlaces_subperm (h : others.Subperm targets) :
    (duePlaces outside config inputs result t others).Subperm
      (duePlaces outside config inputs result t targets) :=
  map_subperm_map (h.filter _) _

/-- **Files are moved aside in the directory of a header** when a target there is due that holds a file, or
that is named twice. -/
lemma asides_duePlaces_pos_iff :
    0 < asides t ((config.headerDir target).place t.workdir)
        (duePlaces outside config inputs result t targets) ↔
      ∃ other ∈ targets, ¬ HasText outside config inputs result t other ∧
        config.headerDir other = config.headerDir target ∧
        (t.file? ((config.targetPath other).place t.workdir) ≠ none ∨ 2 ≤ targets.count other) := by
  have habove : ∀ other, ((config.targetPath other).place t.workdir).dropLast =
      (config.headerDir target).place t.workdir ↔ config.headerDir other = config.headerDir target := by
    intro other
    rw [RunConfig.place_targetPath_eq, List.dropLast_concat]
    exact ⟨RunConfig.headerDir_eq_of_place, fun heq => by rw [heq]⟩
  rw [asides_pos_iff]
  constructor
  · rintro ⟨l, hl, hdir, hwhy⟩
    obtain ⟨other, hother, hdue, rfl⟩ := mem_duePlaces.1 hl
    rw [count_duePlaces hdue] at hwhy
    exact ⟨other, hother, hdue, (habove other).1 hdir, hwhy⟩
  · rintro ⟨other, hother, hdue, hdir, hwhy⟩
    rw [← count_duePlaces hdue] at hwhy
    exact ⟨_, mem_duePlaces.2 ⟨other, hother, hdue, rfl⟩, (habove other).2 hdir, hwhy⟩

namespace Ran

/-! ## What a run has met -/

/-- The invariant of its commit at the end. -/
lemma progress (h : Ran outside config inputs result t t' report texts staged u s) :
    Progress t staged staged [] s := by
  have hprogress : Progress t ([] ++ staged) ([] ++ staged) [] s :=
    .passes h.passes (.start h.ready) h.ready h.tidy
  exact hprogress

/-- Its tree has the directories that the commit has left. -/
lemma sameDirs (h : Ran outside config inputs result t t' report texts staged u s) :
    s.tree.SameDirs t' := by
  rw [h.closed]
  exact (close_views fun r hr b hb => (h.progress.backups r hr b hb).1).1

/-- **It had room to move files aside.** -/
lemma roomAside (h : Ran outside config inputs result t t' report texts staged u s) (hg : t.Grounded)
    (hpos : 0 < asides t ((config.headerDir target).place t.workdir)
      (duePlaces outside config inputs result t config.targets)) :
    config.RoomAside t t' target (asides t ((config.headerDir target).place t.workdir)
      (duePlaces outside config inputs result t config.targets)) := by
  have hbacked : Backed config t ([] ++ staged) s :=
    .passes h.passes (.start h.ready) hg h.ready h.tidy (configured_of_headers h.headers) (.start config t u)
  rw [← writtenPlaces_eq h.headers] at hpos ⊢
  exact hbacked.roomAside h.progress hg h.sameDirs hpos

/-- **The paths of its backups were not too long**, where a target was due that held a file or was named
twice. -/
lemma short (h : Ran outside config inputs result t t' report texts staged u s) (hg : t.Grounded)
    (htarget : target ∈ config.targets) (hdue : ¬ HasText outside config inputs result t target)
    (hwhy : t.file? ((config.targetPath target).place t.workdir) ≠ none ∨
      2 ≤ config.targets.count target) :
    (t.tempPath (config.homeDir target) (tempName backupName "" 0)).text.utf8ByteSize ≤ 4095 :=
  (h.roomAside hg (asides_duePlaces_pos_iff.2 ⟨target, htarget, hdue, rfl, hwhy⟩)).short

/-- Its unchanged headers were reached before. -/
lemma reaches_of_unchanged (h : Ran outside config inputs result t t' report texts staged u s) :
    ∀ header ∈ staged, header.record.unchanged = true → t.Reaches header.record.target := by
  intro header hheader hun
  obtain ⟨target, -, hof⟩ := exists_of_forall₂ h.headers hheader
  exact hof.reaches hun

/-- It has made no directory at the place of a temporary file. -/
lemma not_dirAt_temp (h : Ran outside config inputs result t t' report texts staged u s) :
    ∀ header ∈ staged, ¬ t'.DirAt (header.temp.place t.workdir) := by
  have hstart : ∀ header ∈ staged, ¬ (Commit.start u).tree.DirAt (header.temp.place t.workdir) :=
    fun header hheader => not_dirAt_of_file? (h.ready.file header hheader)
  have hend : ∀ header ∈ [] ++ staged, ¬ s.tree.DirAt (header.temp.place t.workdir) :=
    Commit.not_dirAt_temp h.passes (.start h.ready) h.ready h.tidy (configured_of_headers h.headers)
      h.reaches_of_unchanged hstart
  intro header hheader
  rw [h.sameDirs.dirAt]
  exact hend header hheader

/-- Where its tree has a directory no file was. -/
lemma file?_of_dirAt (h : Ran outside config inputs result t t' report texts staged u s)
    (hd : t'.DirAt l) : t.file? l = none := by
  by_contra hfile
  have hnone : t'.file? l = none := by
    by_contra hthere
    obtain ⟨f, hf⟩ := Option.ne_none_iff_exists'.1 hthere
    exact not_dirAt_of_file? hf hd
  by_cases hw : Writes t.workdir staged l
  · obtain ⟨header, hheader, hch, rfl⟩ := hw
    simp [(h.committed.written header hheader hch).2] at hnone
  · rw [h.committed.others l hw] at hnone
    exact hfile hnone

/-! ## Other headers in the same tree -/

/-- **The directories that it has left can be made** among the temporary files of other headers, if none of
these is in their way. -/
lemma under (h : Ran outside config inputs result t t' report texts staged u s)
    (hready : Ready t u' staged') (hnot : ∀ header ∈ staged', ¬ t'.DirAt (header.temp.place t.workdir)) :
    u'.Under t' := by
  refine ⟨hready.sameDirs.symm.within.trans h.committed.within, fun l hl => ?_⟩
  rw [hready.others, h.file?_of_dirAt hl]
  rintro ⟨header, hheader, rfl⟩
  exact hnot header hheader hl

/-- No temporary file is in the way that was there when the directories were made. -/
lemma not_dirAt_of_sparser (h : Ran outside config inputs result t t' report texts staged u s)
    (hready : Ready t u' staged') (hs : Sparser u' u) :
    ∀ header ∈ staged', ¬ t'.DirAt (header.temp.place t.workdir) := by
  intro header hheader
  have hplace : header.temp.place t.workdir ∈ tempPlaces t.workdir staged := by
    by_contra hnot
    have hnone : u'.file? (header.temp.place t.workdir) = none := by
      refine hs.fewer _ ?_
      rw [h.ready.others _ hnot, hready.free header hheader]
    simp [hready.file header hheader] at hnone
  obtain ⟨waits, hwaits, heq⟩ := hplace
  rw [heq]
  exact h.not_dirAt_temp waits hwaits

/-- What it has written is no directory and reached by headers that it covers. -/
lemma held (h : Ran outside config inputs result t t' report texts staged u s)
    (hcovers : Covers staged' staged) : ∀ header ∈ staged', header.record.unchanged = false →
      t'.Reaches header.record.target ∧ ¬ t'.DirAt (header.record.target.place t'.workdir) := by
  intro header hheader hch
  obtain ⟨other, hother, hch', htarget, -⟩ := hcovers header hheader hch
  obtain ⟨hreach, hfile⟩ := h.committed.written other hother hch'
  rw [htarget] at hreach hfile
  refine ⟨hreach, ?_⟩
  rw [h.committed.within.workdir]
  exact not_dirAt_of_file? hfile

/-- Its new directories are above configured headers. -/
lemma newDirs (h : Ran outside config inputs result t t' report texts staged u s) (hd : t'.DirAt l)
    (hn : ¬ t.DirAt l) : ∃ target ∈ config.targets, ∃ dir ∈ (config.targetPath target).ancestors.tail,
      t.pathExists dir = false ∧ t'.locate dir = .ok l := by
  obtain ⟨header, hheader, -, dir, hdir, hx, hlocate⟩ := h.committed.newDirs l hd hn
  obtain ⟨target, htarget, hof⟩ := exists_of_forall₂ h.headers hheader
  exact ⟨target, htarget, dir, hof.path ▸ hdir, hx, hlocate⟩

/-- **A run for which there is room succeeds where another one has.**

**Proof sketch.** The same headers are rendered. Once they are staged, the tree that the other run has left
shows that nothing hinders their commit. -/
lemma succeeds (h : Ran outside config inputs result t t' report texts staged u s)
    (hmode : config.mode = .write)
    (hf : ∀ command ∈ config.formatter, command.Rewrites outside.programs result) (hg : t.Grounded)
    (hmem : ∀ target, target ∈ others ↔ target ∈ config.targets)
    (hstage : stageAll outside.programs (.start config.formatter false) t
      (others.map (headerText outside config inputs t)) = (.ok tx, u'))
    (hnot : ∀ staged', Ready t u' staged' →
      ∀ header ∈ staged', ¬ t'.DirAt (header.temp.place t.workdir))
    (hroom : ∀ target, 0 < asides t ((config.headerDir target).place t.workdir)
        (duePlaces outside config inputs result t others) → config.RoomAside t t' target
      (asides t ((config.headerDir target).place t.workdir)
        (duePlaces outside config inputs result t others))) :
    Succeeds outside (config.withTargets others) inputs t := by
  have hrender := renderAll_withTargets (fun target => (hmem target).1) h.rendered
  obtain ⟨staged', htx, hready, hfor⟩ := ready_stageAll hf (.nil t) hstage
  obtain rfl : tx = ⟨config.formatter, false, staged'⟩ := by simpa [Transaction.start] using htx
  have hall : List.Forall₂ (HeaderOf outside (config.withTargets others) inputs result t) others staged' :=
    headersOf hrender hfor
  have hall' : List.Forall₂ (HeaderOf outside config inputs result t) others staged' :=
    hall.imp fun _ _ hof => ⟨hof.path, hof.text, hof.accepted, hof.unchanged⟩
  have hunhindered : Unhindered config t t' ([] ++ staged') := by
    refine ⟨fun l hl hn => ?_, h.held (covers_of_headers hall' h.headers fun target => (hmem target).1), ?_⟩
    · obtain ⟨target, -, dir, hdir, -, hlocate⟩ := h.newDirs hl hn
      exact ⟨target, dir, hdir, hlocate⟩
    · rw [List.nil_append, writtenPlaces_eq hall']
      exact hroom
  obtain ⟨s', hpass⟩ := hunhindered.exists_passes hg hready
    (tidy_of_staged hall t.workdir) (configured_of_headers hall') (.start hready) (.start config t u')
    (h.under hready (hnot staged' hready))
  exact succeeds_of_passes hmode
    (RunConfig.validate_withTargets hmem h.valid) hrender hstage rfl hpass

/-! ## Other targets -/

/-- Its texts are those of configured targets. -/
lemma ofRun (h : Ran outside config inputs result t t' report texts staged u s) : OfRun config texts := by
  intro item hitem
  obtain ⟨target, -, hpath, -⟩ := exists_of_forall₂ (forall₂_of_renderAll h.rendered) hitem
  exact ⟨target, hpath⟩

/-- **A run with some of the targets succeeds**, in any order. -/
lemma succeeds_of_subperm (h : Ran outside config inputs result t t' report texts staged u s)
    (hmode : config.mode = .write)
    (hf : ∀ command ∈ config.formatter, command.Rewrites outside.programs result) (hg : t.Grounded)
    (hmem : ∀ target, target ∈ others ↔ target ∈ config.targets) (hsub : others.Subperm config.targets) :
    Succeeds outside (config.withTargets others) inputs t := by
  have hsubtexts : (others.map (headerText outside config inputs t)).Subperm texts := by
    rw [eq_map_of_renderAll h.rendered]
    exact map_subperm_map hsub _
  obtain ⟨tx, u', hstage, hsparser⟩ := exists_stageAll_of_subperm hf h.ofRun hsubtexts h.stagedAll
  refine h.succeeds hmode hf hg hmem hstage (fun staged' hready => h.not_dirAt_of_sparser hready hsparser)
    fun target hpos => ?_
  have hle := @asides_le_of_subperm t ((config.headerDir target).place t.workdir) _ _
    (@duePlaces_subperm outside config inputs t result _ _ hsub)
  exact (h.roomAside hg (hpos.trans_le hle)).mono hle

/-- A directory that it has made has no name of a temporary file, if no missing directory has. -/
lemma not_tempName_of_dirsApart (h : Ran outside config inputs result t t' report texts staged u s)
    (hapart : config.DirsApart t) (hd : t'.DirAt l) (hn : ¬ t.DirAt l) : ¬ StagedAt l ∧ ¬ BackupAt l := by
  obtain ⟨target, htarget, dir, hdir, hx, hlocate⟩ := h.newDirs hd hn
  rw [eq_place_of_locate hlocate, h.committed.within.workdir]
  exact hapart target htarget dir hdir hx

/-- **There are places for backups**, if no missing directory has the name of a temporary file and the tree is
not larger than there are such names. -/
lemma places_of_dirsApart (h : Ran outside config inputs result t t' report texts staged u s)
    (hapart : config.DirsApart t) (hsize : t.entries.size + k ≤ 62 ^ 6) (above : Location) :
    ∃ places : Finset Location, k ≤ places.card ∧ ∀ l ∈ places,
      (∃ n, l = above ++ [tempName backupName "" n]) ∧ t.file? l = none ∧ ¬ t'.DirAt l := by
  obtain ⟨numbers, hcard, hfree⟩ := exists_free_numbers hsize above backupName ""
  refine ⟨numbers.image fun n => above ++ [tempName backupName "" n], ?_, fun l hl => ?_⟩
  · rw [Finset.card_image_of_injOn]
    · exact hcard
    · intro n hn m hm heq
      exact tempName_injOn (hfree n hn).1 (hfree m hm).1 (List.singleton_inj.1 (List.append_inj' heq rfl).2)
  · obtain ⟨n, hn, rfl⟩ := Finset.mem_image.1 hl
    obtain ⟨hfile, hdir⟩ := entry?_eq_none_iff.1 (hfree n hn).2
    exact ⟨⟨n, rfl⟩, hfile, fun hd => (h.not_tempName_of_dirsApart hapart hd hdir).2 ⟨above, n, rfl⟩⟩

/-- **A run with the same targets succeeds** where the paths of the backups are not too long that it needs on
top.

**Proof sketch.** Staging succeeds because each header is one of those that were staged
(`exists_stageAll_of_mem`). In the commit a header is moved aside only if a file was there, and then the
first run did so too, or if it is written twice, and then its path is short by assumption. -/
lemma succeeds_of_short (h : Ran outside config inputs result t t' report texts staged u s)
    (hmode : config.mode = .write)
    (hf : ∀ command ∈ config.formatter, command.Rewrites outside.programs result) (hg : t.Grounded)
    (hmem : ∀ target, target ∈ others ↔ target ∈ config.targets) (hapart : config.DirsApart t)
    (hsize : t.entries.size + others.length ≤ 62 ^ 6)
    (hshort : ∀ target ∈ others, ¬ HasText outside config inputs result t target → 2 ≤ others.count target →
      (t.tempPath (config.homeDir target) (tempName backupName "" 0)).text.utf8ByteSize ≤ 4095) :
    Succeeds outside (config.withTargets others) inputs t := by
  have htexts : ∀ item ∈ others.map (headerText outside config inputs t), item ∈ texts := by
    rw [eq_map_of_renderAll h.rendered]
    exact List.map_subset _ fun target => (hmem target).1
  have hunhidden : Unhidden t (others.map (headerText outside config inputs t)) := by
    rintro item hitem dir hdir hx
    obtain ⟨target, htarget, rfl⟩ := List.mem_map.1 hitem
    exact (hapart target ((hmem target).1 htarget) dir hdir hx).1
  obtain ⟨tx, u', hstage⟩ := exists_stageAll_of_mem hf h.ofRun htexts hg hunhidden (by simpa using hsize)
    h.stagedAll
  refine h.succeeds hmode hf hg hmem hstage (fun staged' hready header hheader hd => ?_) fun target hpos => ?_
  · by_cases hold : t.DirAt (header.temp.place t.workdir)
    · exact not_dirAt_of_file? (hready.file header hheader) ((hready.sameDirs.dirAt _).2 hold)
    · exact (h.not_tempName_of_dirsApart hapart hd hold).1 (hready.named header hheader)
  · have hle : asides t ((config.headerDir target).place t.workdir)
        (duePlaces outside config inputs result t others) ≤ others.length := by
      refine (asides_le_length _ _ _).trans ?_
      rw [duePlaces, List.length_map]
      exact List.length_filter_le _ _
    refine ⟨?_, h.places_of_dirsApart hapart ((Nat.add_le_add_left hle _).trans hsize) _⟩
    obtain ⟨other, hother, hdue, hdir, hwhy⟩ := asides_duePlaces_pos_iff.1 hpos
    have hhome : config.homeDir target = config.homeDir other := by
      rw [RunConfig.homeDir, RunConfig.homeDir, hdir]
    rw [hhome]
    rcases hwhy with hfile | htwice
    · exact h.short hg ((hmem other).1 hother) hdue (.inl hfile)
    · exact hshort other hother hdue htwice

/-- Its headers are reached. -/
lemma reaches (h : Ran outside config inputs result t t' report texts staged u s)
    (htarget : target ∈ config.targets) : t'.Reaches (config.targetPath target) := by
  obtain ⟨header, hheader, hof⟩ := exists_of_forall₂ h.headers.flip htarget
  have hreach := (h.progress.reaches h.reaches_of_unchanged hheader).mono h.sameDirs.within
  rwa [hof.path] at hreach

/-- An entry of its report says where the header is and whether it was due. -/
lemma entry_spec (h : Ran outside config inputs result t t' report texts staged u s)
    (hentry : entry ∈ report.targets) : entry.target ∈ config.targets ∧
      entry.path = config.targetPath entry.target ∧
      (entry.status = .written ↔ ¬ HasText outside config inputs result t entry.target) := by
  have htarget : entry.target ∈ config.targets := h.map_target ▸ List.mem_map_of_mem hentry
  obtain ⟨target, header, -, hof, rfl⟩ := h.exists_header hentry
  refine ⟨htarget, hof.path, ?_⟩
  rw [TargetReport.ofRecord, ← hof.unchanged_iff]
  rcases header.record.unchanged <;> simp [TargetStatus.of]

/-- **A run with the same targets succeeds exactly where no backup is too long** that it needs on top.

**Proof sketch.** In one direction the second run is looked at as the first: what it moved aside had a
short path. The other direction is `succeeds_of_short`. -/
lemma succeeds_iff (h : Ran outside config inputs result t t' report texts staged u s)
    (hmode : config.mode = .write)
    (hf : ∀ command ∈ config.formatter, command.Rewrites outside.programs result) (hg : t.Grounded)
    (hmem : ∀ target, target ∈ others ↔ target ∈ config.targets) (hapart : config.DirsApart t)
    (hsize : t.entries.size + others.length ≤ 62 ^ 6) :
    Succeeds outside (config.withTargets others) inputs t ↔ ∀ entry ∈ report.targets,
      entry.status = .written → 2 ≤ others.count entry.target → ¬ t'.CrampedAside entry.path := by
  have hwork := h.committed.within.workdir
  constructor
  · rintro ⟨report', t'', hagain⟩ entry hentry hwritten htwice
    obtain ⟨texts', staged', u', s', h'⟩ :=
      exists_ran_withTargets hmode hf hagain
    obtain ⟨htarget, hpath, hdue⟩ := h.entry_spec hentry
    rw [hpath, RunConfig.not_crampedAside_iff hwork (h.reaches htarget)]
    exact h'.short hg ((hmem _).2 htarget) (hdue.1 hwritten) (.inr htwice)
  · intro hshort
    refine h.succeeds_of_short hmode hf hg hmem hapart hsize fun target htarget hdue htwice => ?_
    have htarget' := (hmem target).1 htarget
    obtain ⟨entry, hentry, rfl⟩ := List.mem_map.1 (h.map_target.symm ▸ htarget')
    obtain ⟨-, hpath, hwritten⟩ := h.entry_spec hentry
    have hnot := hshort entry hentry (hwritten.2 hdue) htwice
    rwa [hpath, RunConfig.not_crampedAside_iff hwork (h.reaches htarget')] at hnot

end Ran

end UaHeaders
