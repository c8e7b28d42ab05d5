import UaHeaders.Proofs.Files.Names
import UaHeaders.Proofs.Run.Open
import UaHeaders.Proofs.Run.Settled

/-!
# How long a path may be

The temporary file of a header lies beside the header, under a name that may be longer than the one of the
header. So its path may be too long though the path of the header is not. A run fails where this is so for
one of its headers. Where it is so for none, and the tree is not larger than there are temporary names,
there is room for all headers.

## Main definitions

* `UaHeaders.FileTree.Cramped` — the temporary files of a target have paths that are too long.

## Main results

* `UaHeaders.tempEnding_targetPath` — the end of the temporary names of a header.
* `UaHeaders.not_cramped_of_short` — a header with a short path is not cramped.
* `UaHeaders.roomy_of_not_cramped` — there is room where no header is cramped.
* `UaHeaders.exists_generate_error` — a run fails where a header is cramped.
* `UaHeaders.stagingDir_of_reaches` — a header that is reached is staged in its own directory.
-/

set_option autoImplicit false

namespace UaHeaders

open FileTree Transaction FormatterCommand

variable {outside : Outside} {config : RunConfig} {inputs : Inputs} {t u : FileTree}
  {programs : Programs} {tx : Transaction} {target : Target} {path parent : Path}
  {texts : List (Path × String)} {name : String} {k n : Nat}

/-! ## Headers and their names -/

namespace Path

/-- A path that ends in a name does not end with a separator. -/
lemma EndsIn.endsWithSeparator (h : path.EndsIn name) (hname : PlainName name) :
    path.endsWithSeparator = false := by
  obtain ⟨before, htext, -⟩ := h
  have hlong := hname.long
  have hne : name.toList ≠ [] := by
    rintro hnil
    simp [hnil] at hlong
  rw [Path.endsWithSeparator, htext, List.getLast?_append_of_ne_nil _ hne, beq_eq_false_iff_ne]
  exact fun hlast => hname.noSeparator (List.mem_of_getLast? hlast)

end Path

/-- The end of the temporary names of a header: the extension of the header. -/
def Target.ending : Target → String
  | typeConverter => ".h"
  | attributes | typeRegistry | nodeIds => ".hpp"

/-- The path of a header ends in its name. -/
lemma targetPath_endsIn (config : RunConfig) (target : Target) :
    (config.targetPath target).EndsIn target.fileName :=
  target.relativePath_endsIn.join config.outputRoot

/-- The last component of the path of a header is its name. -/
lemma fileName?_targetPath (config : RunConfig) (target : Target) :
    (config.targetPath target).fileName? = some target.fileName :=
  (targetPath_endsIn config target).fileName? target.plainName.plain target.plainName.noSeparator

/-- Nothing is to be trimmed from the path of a header. -/
lemma trimmed_targetPath (config : RunConfig) (target : Target) :
    (config.targetPath target).Trimmed :=
  (targetPath_endsIn config target).trimmed target.plainName.plain target.plainName.noSeparator

/-- **The temporary names of a header end as the header does.** -/
lemma tempEnding_targetPath (config : RunConfig) (target : Target) :
    tempEnding (config.targetPath target) = target.ending := by
  rw [tempEnding, Path.extension?, fileName?_targetPath]
  cases target <;> decide

/-! ## Paths that are too long -/

namespace FileTree

/-- **A target is cramped**: the paths of its temporary files are too long. They are of one length, so this is
said of the first. -/
def Cramped (t : FileTree) (target : Path) : Prop :=
  4095 < (t.tempPath (t.stagingDir target)
    (tempName stagedName (tempEnding target) 0)).text.utf8ByteSize

instance (t : FileTree) (target : Path) : Decidable (t.Cramped target) :=
  inferInstanceAs (Decidable (_ < _))

/-- A target is cramped in every tree with the same directories. -/
lemma Cramped.sameDirs (h : t.Cramped path) (hs : t.SameDirs u) : u.Cramped path := by
  rw [Cramped, hs.stagingDir, Commit.tempPath_congr hs.workdir]
  exact h

/-- No temporary file is made for a cramped target. -/
lemma Cramped.createTemp_error (h : t.Cramped path) :
    ∃ cause, t.createTemp (t.stagingDir path) stagedName (tempEnding path) = .error cause := by
  rcases hcreate : t.createTemp (t.stagingDir path) stagedName (tempEnding path)
    with cause | ⟨temp, made⟩
  · exact ⟨cause, rfl⟩
  obtain ⟨⟨n, hname⟩, l, hl, -⟩ := createTemp_eq_ok hcreate
  rw [hname] at hl
  have hshort := ((alike_tempName (by decide) (separator_notMem_tempEnding path) n 0).usable
    (locate_eq_ok_iff_foldlM.1 hl).1).short
  exact absurd hshort (Nat.not_le.2 h)

end FileTree

/-- **Staging fails** where one of the targets is cramped. -/
lemma exists_stageAll_error (hf : ∀ command ∈ tx.formatter, command.Confined programs)
    {item : Path × String} (hmem : item ∈ texts) (h : t.Cramped item.1) :
    ∃ failure, (stageAll programs tx t texts).1 = .error failure := by
  induction texts generalizing tx t with
  | nil => simp at hmem
  | cons first rest ih =>
    obtain ⟨failure, u, hstage, -⟩ | ⟨temp, l, record, u, hadds⟩ :=
      stage_cases hf t first.1 first.2
    · exact ⟨failure, by rw [stageAll, hstage]⟩
    rcases List.mem_cons.1 hmem with rfl | hmem
    · obtain ⟨cause, hcreate⟩ := h.createTemp_error
      have heq := hadds.eq
      rw [stage_of_createTemp_error hcreate] at heq
      simp at heq
    · rw [stageAll, hadds.eq]
      exact @ih u { tx with staged := tx.staged ++ [⟨record, temp⟩] } hf hmem
        (h.sameDirs hadds.tempAt.sameDirs)

/-- **A run fails where one of its headers is cramped.** -/
lemma exists_generate_error
    (hf : ∀ command ∈ config.formatter, command.Confined outside.programs)
    (htarget : target ∈ config.targets) (h : t.Cramped (config.targetPath target)) :
    ∃ failure, (generate outside config inputs t).1 = .error failure := by
  rcases hprepare : prepare outside config inputs t with failure | texts
  · exact ⟨failure, by rw [generate_of_prepare_error hprepare]⟩
  have hrender : renderAll outside config inputs t = .ok texts := by
    rcases hvalid : config.validate t with failure | checked
    · simp [prepare, hvalid, bind, Except.bind] at hprepare
    · rwa [prepare, hvalid] at hprepare
  obtain ⟨item, hitem, hpath, -⟩ := exists_of_forall₂ (forall₂_of_renderAll hrender).flip htarget
  rw [← hpath] at h
  obtain ⟨failure, hfailure⟩ : ∃ failure, (stageAll outside.programs
      (.start config.formatter (config.mode == .check)) t texts).1 = .error failure :=
    exists_stageAll_error hf hitem h
  obtain ⟨hrun, -⟩ := generate_of_stageAll_error hf hprepare (Prod.ext hfailure rfl)
  exact ⟨failure, by rw [hrun]⟩

/-! ## Paths that are short -/

namespace Path

/-- The path of the directory above is the beginning of a path. -/
lemma parentRev?_suffix {cs up : List Char} (h : parentRev? cs = some up) : up <:+ cs := by
  have hcs := trimEnd_suffix cs
  unfold parentRev? at h
  split at h
  · simp at h
  · simp at h
  · next c rest _ heq =>
    obtain rfl : trimEnd (rest.dropWhile (· != '/')) = up := by simpa using h
    rw [heq] at hcs
    exact ((trimEnd_suffix _).trans (List.dropWhile_suffix _)).trans
      ((List.suffix_cons c rest).trans hcs)

/-- The paths above a path are no longer than it. -/
lemma size_le_of_mem_ancestors (h : parent ∈ path.ancestors.tail) :
    parent.text.utf8ByteSize ≤ path.text.utf8ByteSize := by
  obtain ⟨up, hup, rfl⟩ := List.mem_map.1 h
  have hsuffix : up <:+ path.text.toList.reverse := by
    generalize path.text.toList.reverse = cs at hup
    fun_induction ancestorsRev cs with
    | case1 => simp at hup
    | case2 cs next hnext ih =>
      rcases List.mem_cons.1 hup with rfl | hup
      · exact parentRev?_suffix hnext
      · exact (ih hup).trans (parentRev?_suffix hnext)
  obtain ⟨rest, hrest⟩ := hsuffix
  have htext : path.text = (ofRev up).text ++ String.ofList rest.reverse := by
    rw [← String.toList_inj, ← List.reverse_inj, ← hrest]
    simp [ofRev]
  rw [htext, String.utf8ByteSize_append]
  omega

/-- A path that is continued is no shorter than both paths. -/
lemma le_size_join {p rest : Path} (hrest : rest.isAbsolute = false) :
    p.text.utf8ByteSize + rest.text.utf8ByteSize ≤ (p.join rest).text.utf8ByteSize := by
  unfold join
  rw [if_neg (by simp [hrest])]
  split_ifs <;> simp only [String.utf8ByteSize_append] <;> omega

/-- A path that is continued is no longer than both paths and a separator. -/
lemma size_join_le (p rest : Path) :
    (p.join rest).text.utf8ByteSize ≤ p.text.utf8ByteSize + 1 + rest.text.utf8ByteSize := by
  have hone : "/".utf8ByteSize = 1 := by decide
  unfold join
  split_ifs
  · omega
  · rw [String.utf8ByteSize_append]
    omega
  · rw [String.utf8ByteSize_append, String.utf8ByteSize_append, hone]

end Path

/-- The directory in which a target is staged has no longer path than the target. -/
lemma FileTree.size_stagingDir_le (t : FileTree) (path : Path) :
    (t.stagingDir path).text.utf8ByteSize ≤ path.text.utf8ByteSize + 1 := by
  have hdot : (⟨"."⟩ : Path).text.utf8ByteSize = 1 := by decide
  rw [stagingDir]
  split
  · next dir hfind =>
    have hle := Path.size_le_of_mem_ancestors (List.mem_of_find?_eq_some hfind)
    split_ifs <;> omega
  · omega

/-- **A header with a short path is not cramped**, whatever directories there are. -/
lemma not_cramped_of_short (h : t.workdirPath.text.utf8ByteSize +
      (config.targetPath target).text.utf8ByteSize + 24 ≤ 4095) :
    ¬ t.Cramped (config.targetPath target) := by
  have hname : (tempName stagedName target.ending 0).utf8ByteSize ≤ 21 := by
    cases target <;> decide
  have hdir := t.size_stagingDir_le (config.targetPath target)
  have hjoin := Path.size_join_le (t.stagingDir (config.targetPath target))
    ⟨tempName stagedName target.ending 0⟩
  have htemp := Path.size_join_le t.workdirPath
    ((t.stagingDir (config.targetPath target)).join ⟨tempName stagedName target.ending 0⟩)
  simp only at hjoin
  rw [Cramped, tempEnding_targetPath, tempPath]
  omega

/-! ## Room -/

/-- The directory in which a target is staged is one.

**Proof sketch.** What the search finds is a directory, or empty and then replaced by a dot, which leads
to the working directory. -/
lemma FileTree.isDir_stagingDir (hg : t.Grounded) (path : Path) : t.isDir (t.stagingDir path) = true := by
  have hdot : t.isDir ⟨"."⟩ = true := by
    refine isDir_iff.2 ⟨t.workdir, ?_, hg.dirAt⟩
    have hsegments : Path.segments ⟨"."⟩ = ["."] := by decide
    have hsize : ".".utf8ByteSize ≤ 255 := by decide
    have hstep : t.step t.workdir "." = .ok t.workdir :=
      step_eq_ok_iff.2 ⟨hg.dirAt, hsize, by simp [Location.along]⟩
    rw [locate_eq_ok_iff_foldlM, hsegments]
    exact ⟨⟨by decide, by decide, by decide⟩, by simpa [start, Path.isAbsolute] using hstep⟩
  rw [stagingDir]
  split
  · next dir hfind =>
    rcases hempty : dir.text.isEmpty
    · simpa [hempty] using List.find?_some hfind
    · simpa using hdot
  · exact hdot

/-- A temporary name of a header fits. -/
lemma fittingName_tempName (target : Target) : FittingName (tempName stagedName target.ending 0) := by
  cases target <;> exact ⟨⟨by decide, by decide⟩, by decide, by decide⟩

/-- **There is room for a header that is not cramped**, in a tree that is not larger than there are temporary
names. -/
lemma roomFor_of_not_cramped (hg : t.Grounded) (h : ¬ t.Cramped (config.targetPath target))
    (hsize : t.entries.size + k ≤ 62 ^ 6) : t.RoomFor (config.targetPath target) k := by
  obtain ⟨l, hl, hd⟩ := isDir_iff.1 (isDir_stagingDir hg (config.targetPath target))
  have hname := fittingName_tempName target
  rw [← tempEnding_targetPath config] at hname
  have hlocate := locate_tempPath hg hl hd hname (Nat.not_lt.1 h)
  have hsep := separator_notMem_tempEnding (config.targetPath target)
  obtain ⟨numbers, hcard, hfree⟩ := exists_free_numbers hsize l stagedName
    (tempEnding (config.targetPath target))
  refine ⟨numbers.image (tempName stagedName (tempEnding (config.targetPath target))), ?_,
    fun name hmem => ?_⟩
  · rw [Finset.card_image_of_injOn]
    · exact hcard
    · exact fun m hm k hk heq => tempName_injOn (hfree m hm).1 (hfree k hk).1 heq
  · obtain ⟨m, hm, rfl⟩ := Finset.mem_image.1 hmem
    exact ⟨⟨m, rfl⟩, _, (alike_tempName (by decide) hsep 0 m).locate hlocate, (hfree m hm).2⟩

/-- **There is room where no header is cramped.** -/
lemma roomy_of_not_cramped (hg : t.Grounded)
    (h : ∀ target ∈ config.targets, ¬ t.Cramped (config.targetPath target))
    (hsize : t.entries.size + config.targets.length ≤ 62 ^ 6) : config.Roomy t :=
  fun target htarget => roomFor_of_not_cramped hg (h target htarget) hsize

/-! ## Where a header is staged that is there -/

/-- **A header that is reached is staged in its own directory.** -/
lemma stagingDir_of_reaches (hr : t.Reaches (config.targetPath target))
    (hparent : (config.targetPath target).parent? = some parent)
    (hne : parent.text.isEmpty = false) : t.stagingDir (config.targetPath target) = parent := by
  have hchild := Path.child_of_parent? (trimmed_targetPath config target) hparent
    (fileName?_targetPath config target)
  obtain ⟨husable, hwalks⟩ := reaches_iff_walks.1 hr
  obtain ⟨hparentWalks, hd, -⟩ := (Child.walks_iff hchild).1 hwalks
  have hdir : t.isDir parent = true :=
    isDir_iff.2 ⟨_, reaches_iff_walks.2 ⟨hchild.usable husable hne, hparentWalks⟩, hd⟩
  have htail : (config.targetPath target).ancestors.tail = parent :: parent.ancestors.tail := by
    rw [Path.ancestors_of_parent? hparent]
    rfl
  rw [stagingDir, htail, List.find?_cons_of_pos (by simp [hdir])]
  simp [hne]

end UaHeaders
