import UaHeaders.Proofs.Run.Again
import UaHeaders.Proofs.Run.Success

/-!
# Order and repetition of targets

What a run leaves and reports does not depend on the order of its targets, nor on how often each is named. Nor
does the order tell whether the run succeeds. Repetition does: a target that is named twice is written over its
own fresh copy, which is moved aside for it, and the path of that backup may be too long where no backup was
needed before.

## Main definitions

* `UaHeaders.SameOutcome` — two runs come out the same.

## Main results

* `UaHeaders.generate_withTargets` — runs with the same targets.
* `UaHeaders.generate_withTargets_far` — a run that succeeds only if it names its target once.
-/

set_option autoImplicit false

namespace UaHeaders

open FileTree Transaction FormatterCommand

variable {outside : Outside} {config : RunConfig} {inputs : Inputs} {t : FileTree}
  {result : ByteArray → Except Fault Finished × ByteArray} {others : List Target} {k : Nat}

/-! ## Order and repetition -/

/-- **Two runs come out the same**: they leave the same tree, without temporary files of their own, and their
reports are about their targets and say the same of each. -/
structure SameOutcome (targets others : List Target) (t t' t'' : FileTree) (report report' : Report) :
    Prop where
  same : t'.Same t''
  temps : ∀ l, StagedAt l ∨ BackupAt l → t'.file? l = t.file? l
  targets_eq : report.targets.map TargetReport.target = targets
  others_eq : report'.targets.map TargetReport.target = others
  entries : ∀ entry ∈ report.targets, ∀ entry' ∈ report'.targets, entry.target = entry'.target →
    entry = entry'

/-- **Order and repetition of the targets.** Runs with the same targets, in whatever order and however often,
come out the same when both succeed. In a tree whose working directory is where its path leads, the order makes
no difference to success, and a run with fewer repetitions succeeds where one with more does. With more of them
it succeeds exactly if no header that is written is named twice while the path of its backup is too long, as
long as temporary files have names left and no missing directory has such a name.

**Proof sketch.** What is written is told by the targets and by the tree from before. Headers can be staged in
any order, for their temporary files take the same places together. The tree that one run has left shows which
directories the other can make, and its backups show how many files can be moved aside beside each header. -/
theorem generate_withTargets (hmode : config.mode = .write)
    (hf : ∀ command ∈ config.formatter, command.Rewrites outside.programs result)
    (hmem : ∀ target, target ∈ others ↔ target ∈ config.targets) :
    (∀ report report' t' t'', generate outside config inputs t = (.ok report, t') →
      generate outside (config.withTargets others) inputs t = (.ok report', t'') →
      SameOutcome config.targets others t t' t'' report report') ∧
    (t.Grounded →
      (others.Subperm config.targets → Succeeds outside config inputs t →
        Succeeds outside (config.withTargets others) inputs t) ∧
      (others.Perm config.targets →
        (Succeeds outside (config.withTargets others) inputs t ↔ Succeeds outside config inputs t)) ∧
      ∀ report t', generate outside config inputs t = (.ok report, t') → config.DirsApart t →
        t.entries.size + others.length ≤ 62 ^ 6 →
        (Succeeds outside (config.withTargets others) inputs t ↔ ∀ entry ∈ report.targets,
          entry.status = .written → 2 ≤ others.count entry.target → ¬ t'.CrampedAside entry.path)) := by
  refine ⟨fun report report' t' t'' hrun hrun' => ?_, fun hg => ?_⟩
  · obtain ⟨texts, staged, u, s, h⟩ := exists_ran hmode hf hrun
    obtain ⟨texts', staged', u', s', h'⟩ := exists_ran_withTargets hmode hf hrun'
    refine ⟨h.same h' hmem, fun l hl => h.committed.others l ?_, h.map_target, h'.map_target,
      fun entry hentry entry' hentry' => h.entry_eq h' hentry hentry'⟩
    rintro ⟨header, hheader, -, rfl⟩
    obtain ⟨hstaged, hbackup⟩ := h.tidy.apart header hheader
    exact hl.elim hstaged hbackup
  · have hsub : ∀ (config : RunConfig) (others : List Target), config.mode = .write →
        (∀ command ∈ config.formatter, command.Rewrites outside.programs result) →
        (∀ target, target ∈ others ↔ target ∈ config.targets) → others.Subperm config.targets →
        Succeeds outside config inputs t → Succeeds outside (config.withTargets others) inputs t := by
      rintro config others hmode hf hmem hsub ⟨report, t', hrun⟩
      obtain ⟨texts, staged, u, s, h⟩ := exists_ran hmode hf hrun
      exact h.succeeds_of_subperm hmode hf hg hmem hsub
    refine ⟨hsub config others hmode hf hmem, fun hperm => ⟨fun hothers => ?_, ?_⟩,
      fun report t' hrun hapart hsize => ?_⟩
    · exact hsub (config.withTargets others) config.targets hmode hf (fun target => (hmem target).symm)
        hperm.symm.subperm hothers
    · exact hsub config others hmode hf hmem hperm.subperm
    · obtain ⟨texts, staged, u, s, h⟩ := exists_ran hmode hf hrun
      exact h.succeeds_iff hmode hf hg hmem hapart hsize

/-- No missing directory has the name of a temporary file where none begins with a dot. -/
lemma dirsApart_of_head? (h : ∀ target ∈ config.targets, ∀ dir ∈ (config.targetPath target).ancestors.tail,
    ∀ name ∈ (dir.place t.workdir).getLast?, name.toList.head? ≠ some '.') : config.DirsApart t := by
  intro target htarget dir hdir _
  have hname := h target htarget dir hdir
  constructor
  · rintro ⟨above, p, n, heq⟩
    rw [heq, List.getLast?_concat] at hname
    refine hname _ rfl ?_
    rw [toList_tempName, List.append_assoc, List.head?_append]
    rfl
  · rintro ⟨above, n, heq⟩
    rw [heq, List.getLast?_concat] at hname
    refine hname _ rfl ?_
    rw [toList_tempName, List.append_assoc, List.head?_append]
    rfl

/-- **A header that is made twice or three times** comes out the same. -/
theorem generate_withTargets_pragma : ∃ report report' t'',
    generate pragmaOutside pragmaConfig pragmaInputs .empty = (.ok report, pragmaTree) ∧
      generate pragmaOutside (pragmaConfig.withTargets [.attributes, .attributes, .attributes]) pragmaInputs
        .empty = (.ok report', t'') ∧
      SameOutcome [.attributes, .attributes] [.attributes, .attributes, .attributes] .empty pragmaTree t''
        report report' := by
  have hf : ∀ command ∈ pragmaConfig.formatter, command.Rewrites pragmaOutside.programs pragmaLeft :=
    fun command _ => rewrites_pragmaPrograms command
  have hmem : ∀ target, target ∈ [Target.attributes, .attributes, .attributes] ↔
      target ∈ pragmaConfig.targets := by simp [pragmaConfig]
  obtain ⟨report, hrun, -⟩ := exists_generate_pragma
  obtain ⟨texts, staged, u, s, h⟩ := exists_ran rfl hf hrun
  obtain ⟨hsame, hsuccess⟩ :=
    @generate_withTargets pragmaOutside pragmaConfig pragmaInputs .empty _ _ rfl hf hmem
  obtain ⟨-, -, hiff⟩ := hsuccess (by decide +kernel)
  have hapart : pragmaConfig.DirsApart .empty := dirsApart_of_head? (by decide +kernel)
  have hshort : (FileTree.empty.tempPath (pragmaConfig.homeDir .attributes)
      (tempName backupName "" 0)).text.utf8ByteSize ≤ 4095 := by decide +kernel
  obtain ⟨report', t'', hrun'⟩ := (hiff report pragmaTree hrun hapart (by decide)).2 <| by
    intro entry hentry _ _
    obtain ⟨htarget, hpath, -⟩ := h.entry_spec hentry
    obtain hattributes : entry.target = .attributes := by simpa [pragmaConfig] using htarget
    rw [hattributes] at hpath
    rw [hpath, RunConfig.not_crampedAside_iff h.committed.within.workdir (h.reaches (hattributes ▸ htarget))]
    exact hshort
  exact ⟨report, report', t'', hrun, hrun', hsame _ _ _ _ hrun hrun'⟩

/-! ## A header that cannot be made twice -/

/-- **A header with a long path cannot be made twice**: the path of its backup is too long. -/
lemma not_succeeds_row_twice (hk : 4069 ≤ k) (hk' : k ≤ 4077) :
    ¬ Succeeds bareOutside ((rowConfig k).withTargets [.nodeIds, .nodeIds]) .standard tableTree := by
  rintro ⟨report, t', hrun⟩
  obtain ⟨texts, staged, u, s, h⟩ := @exists_ran _ _ _ _ _ (fun content => (.error .notFound, content)) _
    (show ((rowConfig k).withTargets [.nodeIds, .nodeIds]).mode = .write from rfl)
    (fun command hc => by simp [rowConfig, RunConfig.withTargets] at hc) hrun
  have hpath : ((rowConfig k).withTargets [.nodeIds, .nodeIds]).targetPath .nodeIds =
      Path.spread "out" (k + 1) "ua/nodeids.hpp" := targetPath_row k
  have hdue : ¬ HasText bareOutside ((rowConfig k).withTargets [.nodeIds, .nodeIds]) .standard
      (fun content => (.error .notFound, content)) tableTree .nodeIds := by
    rintro ⟨text, -, hread⟩
    obtain ⟨l, -, hl, -⟩ := FileTree.read_eq_ok_iff.1 hread
    rw [hpath, locate_tableTree_row (by decide) hk' (by decide)] at hl
    simp at hl
  have hshort := h.short (by decide +kernel) (List.mem_cons_self : Target.nodeIds ∈ [.nodeIds, .nodeIds]) hdue
    (.inr (show 2 ≤ [Target.nodeIds, .nodeIds].count .nodeIds by decide))
  -- the backup would lie in the directory of the header
  have hdir : ((rowConfig k).withTargets [.nodeIds, .nodeIds]).homeDir .nodeIds =
      Path.spread "out" (k + 1) "ua" := by
    have hparent := RunConfig.parent?_targetPath ((rowConfig k).withTargets [.nodeIds, .nodeIds]) .nodeIds
    rw [hpath, parent?_header, Option.some.injEq] at hparent
    rw [RunConfig.homeDir, ← hparent, if_neg (by simp [Path.spread])]
  have hrelative : Path.isAbsolute ⟨tempName backupName "" 0⟩ = false := by decide
  have hsize := le_size_tempPath_row tableTree k hrelative
  have hname : (tempName backupName "" 0).utf8ByteSize = 24 := by decide
  rw [hdir] at hshort
  omega

/-- **A run that succeeds only if it names its target once.** -/
theorem generate_withTargets_far :
    (rowConfig 4073).mode = .write ∧ (rowConfig 4073).formatter = none ∧
      (∀ target, target ∈ [Target.nodeIds, .nodeIds] ↔ target ∈ (rowConfig 4073).targets) ∧
      Succeeds bareOutside (rowConfig 4073) .standard tableTree ∧
      ¬ Succeeds bareOutside ((rowConfig 4073).withTargets [.nodeIds, .nodeIds]) .standard tableTree :=
  ⟨rfl, rfl, by simp [rowConfig], exists_generate_row (by decide),
    not_succeeds_row_twice (by decide) (by decide)⟩

end UaHeaders
