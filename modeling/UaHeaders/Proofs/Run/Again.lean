import UaHeaders.Proofs.Run.Limits
import UaHeaders.Proofs.Run.Modes

/-!
# A run that is made again

A run that writes leaves every header as it should be. If the same run is made again it finds all of them
unchanged, with the same digests, and leaves the tree as it is. It can fail all the same: it stages in the
directories that the first run has made, and there the paths of the temporary files may be too long. Where
there is room for them it succeeds.

## Main definitions

* `UaHeaders.rowConfig` — the settings of a run whose header has a path as long as one likes.

## Main results

* `UaHeaders.generate_again` — a run that is made again.
* `UaHeaders.generate_again_far` — a run that cannot be made again.
-/

set_option autoImplicit false

namespace UaHeaders

open FileTree Transaction FormatterCommand

variable {outside : Outside} {config : RunConfig} {inputs : Inputs} {t t' u v : FileTree}
  {result : ByteArray → Except Fault Finished × ByteArray} {report : Report} {mode : RunMode}
  {temp : Path} {l : Location} {text : String} {content : ByteArray} {k : Nat}

/-! ## Runs that are made again -/

/-- Settings of a run that writes are settings in that mode. -/
lemma RunConfig.inMode_self (hmode : config.mode = mode) : config.inMode mode = config := by
  rw [inMode, ← hmode]

/-- **A run on the tree that another one has written** succeeds exactly where no path of a temporary file
beside a header is too long, if the tree is not larger than there are temporary names. -/
lemma generate_after_iff (hmode : config.mode = .write)
    (hf : ∀ command ∈ config.formatter, command.Rewrites outside.programs result)
    (hapart : config.InputsApart t.workdir)
    (h : generate outside config inputs t = (.ok report, t')) (mode : RunMode) (hg : t'.Grounded)
    (hsize : t'.entries.size + config.targets.length ≤ 62 ^ 6) :
    (generate outside (config.inMode mode) inputs t').1 = .ok (report.found mode) ↔
      ∀ target ∈ config.targets, ¬ t'.Cramped (config.targetPath target) := by
  obtain ⟨-, -, hroomy⟩ := generate_after hmode hf hapart h mode
  constructor
  · intro hok target htarget hcramped
    obtain ⟨failure, hfailure⟩ : ∃ failure,
        (generate outside (config.inMode mode) inputs t').1 = .error failure :=
      exists_generate_error (fun command hc => (hf command hc).confined) htarget hcramped
    rw [hok] at hfailure
    simp at hfailure
  · exact fun hfree => hroomy (roomy_of_not_cramped hg hfree hsize)

/-- **A run that is made again** on the tree that it has written leaves the tree as it is, and reports nothing
but unchanged headers, with their digests from before. It succeeds where there is room to stage the headers.
In a tree that is not larger than there are temporary names, that is where no path of a temporary file beside
a header is too long.

**Proof sketch.** The first run leaves a settled tree, since its input lies apart from its headers. -/
theorem generate_again (hmode : config.mode = .write)
    (hf : ∀ command ∈ config.formatter, command.Rewrites outside.programs result)
    (hapart : config.InputsApart t.workdir)
    (h : generate outside config inputs t = (.ok report, t')) :
    t'.Same (generate outside config inputs t').2 ∧
      (∀ again, (generate outside config inputs t').1 = .ok again → again = report.found .write) ∧
      (config.Roomy t' → (generate outside config inputs t').1 = .ok (report.found .write)) ∧
      (t'.Grounded → t'.entries.size + config.targets.length ≤ 62 ^ 6 →
        ((generate outside config inputs t').1 = .ok (report.found .write) ↔
          ∀ target ∈ config.targets, ¬ t'.Cramped (config.targetPath target))) := by
  obtain ⟨hsame, hreport, hroomy⟩ := generate_after hmode hf hapart h .write
  have hiff := generate_after_iff hmode hf hapart h .write
  rw [RunConfig.inMode_self hmode] at hsame hreport hroomy hiff
  exact ⟨hsame, hreport, hroomy, hiff⟩

/-- The tree that a run leaves which makes one header twice. -/
def pragmaTree : FileTree := (generate pragmaOutside pragmaConfig pragmaInputs .empty).2

/-- What is known of the run that makes one header twice. -/
lemma exists_generate_pragma : ∃ report,
    generate pragmaOutside pragmaConfig pragmaInputs .empty = (.ok report, pragmaTree) ∧
      pragmaConfig.InputsApart FileTree.empty.workdir ∧ pragmaTree.Grounded ∧
      pragmaTree.entries.size + pragmaConfig.targets.length ≤ 62 ^ 6 ∧
      ∀ target ∈ pragmaConfig.targets, ¬ pragmaTree.Cramped (pragmaConfig.targetPath target) := by
  -- all that is evaluated, so that the run is evaluated once
  have hrun : (generate pragmaOutside pragmaConfig pragmaInputs .empty).1.isOk = true ∧
      pragmaTree.Grounded ∧
      pragmaTree.entries.size + pragmaConfig.targets.length ≤ 62 ^ 6 ∧
      ∀ target ∈ pragmaConfig.targets, pragmaTree.workdirPath.text.utf8ByteSize +
        (pragmaConfig.targetPath target).text.utf8ByteSize + 24 ≤ 4095 := by
    decide +kernel
  obtain ⟨hok, hg, hsize, hshort⟩ := hrun
  rcases h : generate pragmaOutside pragmaConfig pragmaInputs .empty with ⟨failure | report, t'⟩
  · rw [h] at hok
    simp [Except.isOk, Except.toBool] at hok
  obtain rfl : pragmaTree = t' := by rw [pragmaTree, h]
  have hapart : pragmaConfig.InputsApart FileTree.empty.workdir := by
    intro target htarget file hfile
    have hnone : ∀ target ∈ pragmaConfig.targets, pragmaConfig.inputFiles target = [] := by decide
    simp [hnone target htarget] at hfile
  exact ⟨report, rfl, hapart, hg, hsize,
    fun target htarget => not_cramped_of_short (hshort target htarget)⟩

/-- **A run that makes one header twice** finds both unchanged when it is made again. -/
theorem generate_again_pragma :
    ∃ report, generate pragmaOutside pragmaConfig pragmaInputs .empty = (.ok report, pragmaTree) ∧
      (generate pragmaOutside pragmaConfig pragmaInputs pragmaTree).1 = .ok (report.found .write) ∧
      pragmaTree.Same (generate pragmaOutside pragmaConfig pragmaInputs pragmaTree).2 := by
  obtain ⟨report, h, hapart, hg, hsize, hfree⟩ := exists_generate_pragma
  obtain ⟨hsame, -, -, hiff⟩ :=
    generate_again rfl (fun command _ => rewrites_pragmaPrograms command) hapart h
  exact ⟨report, h, (hiff hg hsize).2 hfree, hsame⟩

/-! ## Runs that cannot be made again

The output root `out` is written with a row of separators behind it, and the path of the header is just not
too long. The header is staged in the working directory at first, since there is no output root. Then it is
there, and its next temporary file would lie beside it.
-/

/-- **The settings of a run that makes the table of node ids**, with a row of separators in the output
root. -/
def rowConfig (k : Nat) : RunConfig where
  outputRoot := Path.spread "out" (k + 1) ""
  targets := [.nodeIds]
  nodeIds := .file "ids.csv"

/-- The path of the header has the row in it. -/
lemma targetPath_row (k : Nat) :
    (rowConfig k).targetPath .nodeIds = Path.spread "out" (k + 1) "ua/nodeids.hpp" := by
  have hend : (Path.spread "out" (k + 1) "").text.toList.getLast? = some '/' := by
    rw [Path.spread, List.replicate_succ', String.ofList_append]
    simp only [String.toList_append, String.toList_ofList, List.getLast?_append]
    rfl
  have hrel : Target.nodeIds.relativePath.isAbsolute = false := by decide
  rw [RunConfig.targetPath, Path.join, if_neg (by simp [hrel]), if_pos (by simp [rowConfig, hend])]
  simp [rowConfig, Path.spread, Target.relativePath]

/-- The header lies in a directory below the row. -/
lemma parent?_header (k : Nat) :
    (Path.spread "out" (k + 1) "ua/nodeids.hpp").parent? = some (Path.spread "out" (k + 1) "ua") := by
  have hrev : (Path.spread "out" (k + 1) "ua/nodeids.hpp").text.toList.reverse =
      "nodeids.hpp".toList.reverse ++
        '/' :: (Path.spread "out" (k + 1) "ua").text.toList.reverse := by
    simp [Path.spread]
  have htrim : Path.trimEnd ('/' :: (Path.spread "out" (k + 1) "ua").text.toList.reverse) =
      (Path.spread "out" (k + 1) "ua").text.toList.reverse := by
    simp [Path.spread, Path.trimEnd]
  rw [Path.parent?, hrev, Path.parentRev?_append (by simp [Path.trimEnd]) (by decide) (by decide)
    (.inr ⟨_, rfl⟩), htrim, Option.map_some, Path.ofRev_reverse]

/-- That directory lies in the output root. -/
lemma parent?_dir (k : Nat) : (Path.spread "out" (k + 1) "ua").parent? = some ⟨"out"⟩ := by
  have hrev : (Path.spread "out" (k + 1) "ua").text.toList.reverse =
      "ua".toList.reverse ++ '/' :: (List.replicate k '/' ++ "out".toList.reverse) := by
    rw [Path.spread, List.replicate_succ']
    simp
  have htrim : Path.trimEnd ('/' :: (List.replicate k '/' ++ "out".toList.reverse)) =
      "out".toList.reverse := by
    rw [← List.cons_append, ← List.replicate_succ, Path.trimEnd_row _ (by decide)]
    simp [Path.trimEnd]
  rw [Path.parent?, hrev, Path.parentRev?_append (by simp [Path.trimEnd]) (by decide) (by decide)
    (.inr ⟨_, rfl⟩), htrim]
  decide

/-- The rows of separators that make paths of headers no longer than a system accepts. -/
lemma size_row (hk : k ≤ 4077) {rest : String} (hrest : rest.utf8ByteSize ≤ 14) :
    (Path.spread "out" (k + 1) rest).text.utf8ByteSize ≤ 4095 := by
  have hout : "out".utf8ByteSize = 3 := by decide
  rw [Path.size_spread]
  omega

/-- The output root lies in the working directory. -/
lemma step_root (v : FileTree) : v.step [] "out" = .ok ["out"] :=
  step_eq_ok_iff.2 ⟨dirAt_nil v, by decide, by decide⟩

/-- **Where a path behind the row leads** is where it leads from the output root. -/
lemma locate_row {rest : String} (hw : v.workdir = []) (hnul : '\x00' ∉ rest.toList) (hk : k ≤ 4077)
    (hrest : rest.utf8ByteSize ≤ 14) :
    v.locate (Path.spread "out" (k + 1) rest) = (Path.segments ⟨rest⟩).foldlM v.step ["out"] := by
  have hsegments : (Path.spread "out" 1 rest).segments = "out" :: Path.segments ⟨rest⟩ := by
    have htext : (Path.spread "out" 1 rest).text.toList = "out".toList ++ '/' :: rest.toList := by
      simp [Path.spread]
    rw [Path.segments_of_toList htext, String.ofList_toList, String.ofList_toList,
      Path.segments_of_noSeparator (by decide), List.singleton_append]
  have hstart : v.start (Path.spread "out" 1 rest) = [] := by
    rw [FileTree.start, hw, ite_self]
  rw [locate_spread (by decide) (size_row hk hrest), locate, if_neg (by simp [Path.spread]),
    if_neg (by simp [Path.spread, hnul]), if_neg (Nat.not_lt.2 (size_row (Nat.zero_le _) hrest)),
    hsegments, hstart, List.foldlM_cons, step_root]
  rfl

/-- Nothing is found below a directory that is not there. -/
lemma locate_row_notFound {rest : String} (hw : v.workdir = []) (hfree : v.entry? ["out"] = none)
    (hnul : '\x00' ∉ rest.toList) (hk : k ≤ 4077) (hrest : rest.utf8ByteSize ≤ 14) :
    v.locate (Path.spread "out" (k + 1) rest) = .error .notFound := by
  obtain ⟨c, cs, hcs⟩ : ∃ c cs, Path.segments ⟨rest⟩ = c :: cs := by
    rcases hcs : Path.segments ⟨rest⟩ with _ | ⟨c, cs⟩
    · simp [Path.segments] at hcs
    · exact ⟨c, cs, rfl⟩
  have hmissing : v.step ["out"] c = .error .notFound := by simp [step, hfree]
  rw [locate_row hw hnul hk hrest, hcs, List.foldlM_cons, hmissing]
  rfl

/-- The directory of the header leads into the output root. -/
lemma locate_dir (hw : v.workdir = []) (hout : v.DirAt ["out"]) (hk : k ≤ 4077) :
    v.locate (Path.spread "out" (k + 1) "ua") = .ok ["out", "ua"] := by
  have hsegments : Path.segments ⟨"ua"⟩ = ["ua"] := by decide
  have hstep : v.step ["out"] "ua" = .ok ["out", "ua"] :=
    step_eq_ok_iff.2 ⟨hout, by decide, by decide⟩
  rw [locate_row hw (by decide) hk (by decide), hsegments, List.foldlM_cons, hstep]
  rfl

/-- The header leads into its directory. -/
lemma locate_header (hw : v.workdir = []) (hout : v.DirAt ["out"]) (hua : v.DirAt ["out", "ua"])
    (hk : k ≤ 4077) :
    v.locate (Path.spread "out" (k + 1) "ua/nodeids.hpp") = .ok ["out", "ua", "nodeids.hpp"] := by
  have hsegments : Path.segments ⟨"ua/nodeids.hpp"⟩ = ["ua", "nodeids.hpp"] := by decide
  have hdir : v.step ["out"] "ua" = .ok ["out", "ua"] :=
    step_eq_ok_iff.2 ⟨hout, by decide, by decide⟩
  have hstep : ["nodeids.hpp"].foldlM v.step ["out", "ua"] = .ok ["out", "ua", "nodeids.hpp"] := by
    simpa using (step_eq_ok_iff.2 ⟨hua, by decide, by decide⟩ :
      v.step ["out", "ua"] "nodeids.hpp" = .ok ["out", "ua", "nodeids.hpp"])
  rw [locate_row hw (by decide) hk (by decide), hsegments, List.foldlM_cons, hdir]
  exact hstep

/-- **The directories above the header are made.**

**Proof sketch.** The deeper directory lacks its parent (`locate_row_notFound`). That is made from the
root, and then the deeper one in it. -/
lemma makeDirs_row (hw : v.workdir = []) (hfree : ∀ rest, v.entry? ("out" :: rest) = none)
    (hk : k ≤ 4077) :
    v.makeDirs (Path.spread "out" (k + 1) "ua") =
      (.ok (), (v.put ["out"] .directory).put ["out", "ua"] .directory) := by
  have hname : directoryName (Path.spread "out" (k + 1) "ua") = Path.spread "out" (k + 1) "ua" :=
    (Path.trimmed_of_parent? (parent?_header k)).directoryName
  have hmissing : v.makeDir (Path.spread "out" (k + 1) "ua") = .error .notFound := by
    rw [makeDir, hname, locate_row_notFound hw (hfree []) (by decide) hk (by decide)]
    rfl
  have hout : v.makeDir ⟨"out"⟩ = .ok (v.put ["out"] .directory) := by
    refine makeDir_eq_ok_iff.2 ⟨["out"], ?_, hfree [], rfl⟩
    have hsegments : (directoryName ⟨"out"⟩).segments = ["out"] := by decide
    rw [locate_eq_ok_iff_foldlM, hsegments, FileTree.start, hw, ite_self]
    exact ⟨⟨by decide, by decide, by decide⟩, by simpa using step_root v⟩
  have hua : (v.put ["out"] .directory).makeDir (Path.spread "out" (k + 1) "ua") =
      .ok ((v.put ["out"] .directory).put ["out", "ua"] .directory) := by
    refine makeDir_eq_ok_iff.2 ⟨["out", "ua"], ?_, ?_, rfl⟩
    · rw [hname]
      exact locate_dir hw ((dirAt_put_directory (by simp)).2 (.inl rfl)) hk
    · rw [entry?_put (by simp), if_neg (by simp), hfree]
  have hancestors : Path.ancestors ⟨"out"⟩ = [⟨"out"⟩, ⟨""⟩] := by decide +kernel
  have hne : (Path.spread "out" (k + 1) "ua").text.isEmpty = false := by simp [Path.spread]
  have hne' : (⟨"out"⟩ : Path).text.isEmpty = false := by decide
  rw [makeDirs, Path.ancestors_of_parent? (parent?_dir k), hancestors]
  simp [makeChain, hne, hne', hmissing, hout, hua]

/-- A tree with an empty table of node ids. -/
def tableTree : FileTree := FileTree.empty.put ["ids.csv"] (.file newFileMode .empty)

/-- Nothing but the table is in the tree. -/
lemma entry?_tableTree (hne : l ≠ []) (htable : l ≠ ["ids.csv"]) :
    tableTree.entry? l = none := by
  rw [tableTree, entry?_put (by simp), if_neg htable]
  simp [ entry?, FileTree.empty, hne]

/-- There is no output root in the tree. -/
lemma locate_tableTree_row {rest : String} (hnul : '\x00' ∉ rest.toList) (hk : k ≤ 4077)
    (hrest : rest.utf8ByteSize ≤ 14) :
    tableTree.locate (Path.spread "out" (k + 1) rest) = .error .notFound :=
  locate_row_notFound rfl (entry?_tableTree (by decide) (by decide)) hnul hk hrest

/-- Nothing is made below the output root while the header is staged. -/
lemma entry?_out_of_tempAt
    (h : TempAt tableTree v temp l content) (hl : ∀ rest, l ≠ "out" :: rest) (rest : Location) :
    v.entry? ("out" :: rest) = none := by
  obtain ⟨hfile, hdir⟩ := entry?_eq_none_iff.1 (entry?_tableTree (List.cons_ne_nil "out" rest) (by simp))
  refine entry?_eq_none_iff.2 ⟨?_, fun hd => hdir ((h.sameDirs.dirAt _).1 hd)⟩
  rw [h.file?, if_neg (hl rest).symm, hfile]

/-- The header is staged in the working directory. -/
lemma stagingDir_row (hk : k ≤ 4077) :
    tableTree.stagingDir (Path.spread "out" (k + 1) "ua/nodeids.hpp") = ⟨"."⟩ := by
  have hancestors : Path.ancestors ⟨"out"⟩ = [⟨"out"⟩, ⟨""⟩] := by decide +kernel
  have hdir : tableTree.isDir (Path.spread "out" (k + 1) "ua") = false := by
    rw [isDir, lookup, locate_tableTree_row (by decide) hk (by decide)]
    rfl
  have hout : tableTree.isDir ⟨"out"⟩ = false := by decide +kernel
  have hne : (Path.spread "out" (k + 1) "ua").text.isEmpty = false := by simp [Path.spread]
  rw [stagingDir, Path.ancestors_of_parent? (parent?_header k),
    Path.ancestors_of_parent? (parent?_dir k), hancestors]
  simp [hne, hdir, hout]

/-- The header is rendered.

**Proof sketch.** What is rendered does not depend on how many separators there are, so it is evaluated
for one. The output root is missing, so the settings pass their check. -/
lemma exists_prepare_row (hk : k ≤ 4077) : ∃ text,
    prepare bareOutside (rowConfig k) .standard tableTree =
      .ok [(Path.spread "out" (k + 1) "ua/nodeids.hpp", text)] := by
  have hok : (renderTarget bareOutside (rowConfig 0) .standard tableTree .nodeIds).isOk = true := by
    decide +kernel
  have hrender : renderTarget bareOutside (rowConfig k) .standard tableTree .nodeIds =
      renderTarget bareOutside (rowConfig 0) .standard tableTree .nodeIds := rfl
  rcases htext : renderTarget bareOutside (rowConfig 0) .standard tableTree .nodeIds
    with failure | text
  · rw [htext] at hok
    simp [Except.isOk, Except.toBool] at hok
  have hroot : tableTree.isFile (rowConfig k).outputRoot = false := by
    have hmissing : tableTree.locate (rowConfig k).outputRoot = .error .notFound :=
      locate_tableTree_row (by decide) hk (by decide)
    rw [isFile, lookup, hmissing]
    rfl
  have hvalid : (rowConfig k).validate tableTree = .ok () := by
    unfold RunConfig.validate
    rw [hroot]
    rfl
  have hall : renderAll bareOutside (rowConfig k) .standard tableTree =
      .ok [(Path.spread "out" (k + 1) "ua/nodeids.hpp", text)] := by
    rw [← targetPath_row]
    show [Target.nodeIds].mapM _ = _
    rw [List.mapM_cons, hrender, htext]
    rfl
  exact ⟨text, by rw [prepare, hvalid]; exact hall⟩

/-- There is room for the header in the working directory. -/
lemma exists_createTemp_row (hk : k ≤ 4077) : ∃ temp made,
    tableTree.createTemp (tableTree.stagingDir (Path.spread "out" (k + 1) "ua/nodeids.hpp"))
      stagedName (tempEnding (Path.spread "out" (k + 1) "ua/nodeids.hpp")) = .ok (temp, made) := by
  rw [stagingDir_row hk, ← targetPath_row, tempEnding_targetPath]
  have hlocate : tableTree.locate (tableTree.tempPath ⟨"."⟩
      (tempName stagedName Target.nodeIds.ending 0)) = .ok [".headergen-000000.hpp"] := by
    decide +kernel
  exact exists_createTemp (by decide) (by decide) hlocate (entry?_tableTree (by decide) (by decide))

/-- The header is not staged below the output root. -/
lemma ne_out_of_tempAt (hk : k ≤ 4077) (htemp : TempAt tableTree v temp l content)
    (hcreate : tableTree.createTemp
      (tableTree.stagingDir (Path.spread "out" (k + 1) "ua/nodeids.hpp")) stagedName
      (tempEnding (Path.spread "out" (k + 1) "ua/nodeids.hpp")) = .ok (temp, u)) (rest : Location) :
    l ≠ "out" :: rest := by
  rintro rfl
  have hg : tableTree.Grounded := by decide +kernel
  obtain ⟨⟨n, hname⟩, -⟩ := createTemp_eq_ok hcreate
  have hdot : (⟨"."⟩ : Path).place tableTree.workdir = [] := Path.place_stay (.inr rfl) _
  have hplace := eq_place_of_locate htemp.locate
  rw [hname, stagingDir_row hk, place_tempPath_eq hg (by decide) (plainName_staged _ n), hdot,
    List.nil_append, List.cons.injEq] at hplace
  -- the name of a temporary file begins with a dot
  have hhead := congrArg (fun name : String => name.toList.head?) hplace.1
  rw [toList_tempName, List.append_assoc, List.head?_append] at hhead
  simp [stagedName] at hhead

/-- **The header is staged**, and nothing is made below the output root.

**Proof sketch.** There is no formatter, so the temporary file holds the text; and as the output root is
missing, the header held nothing. -/
lemma exists_stageAll_row (hk : k ≤ 4077) (text : String) : ∃ temp l v,
    TempAt tableTree v temp l text.toUTF8 ∧ (∀ rest, v.entry? ("out" :: rest) = none) ∧
      stageAll bareOutside.programs (.start none false) tableTree
        [(Path.spread "out" (k + 1) "ua/nodeids.hpp", text)] =
      (.ok ⟨none, false,
        [⟨⟨Path.spread "out" (k + 1) "ua/nodeids.hpp", text, none⟩, temp⟩]⟩, v) := by
  obtain ⟨temp, made, hcreate⟩ := exists_createTemp_row hk
  obtain ⟨l, v, hwrite, htemp⟩ := exists_tempAt hcreate text.toUTF8
  have hfree := entry?_out_of_tempAt htemp (ne_out_of_tempAt hk htemp hcreate)
  refine ⟨temp, l, v, htemp, hfree, ?_⟩
  have hread : v.readText temp = .ok text :=
    readText_eq_ok_iff.2 (FileTree.read_eq_ok_iff.2 ⟨l, _, htemp.located, htemp.there⟩)
  have hprevious : previousContent v (Path.spread "out" (k + 1) "ua/nodeids.hpp") = .ok none := by
    have hmissing : v.locate (Path.spread "out" (k + 1) "ua/nodeids.hpp") = .error .notFound :=
      locate_row_notFound htemp.sameDirs.workdir (hfree []) (by decide) hk (by decide)
    refine previousContent_eq_ok_iff.2 ?_
    simp only [Holds, FileTree.readText, FileTree.read, FileTree.lookup, hmissing]
    rfl
  have hrecord : recordOf v (Path.spread "out" (k + 1) "ua/nodeids.hpp") temp =
      .ok ⟨Path.spread "out" (k + 1) "ua/nodeids.hpp", text, none⟩ := by
    simp only [recordOf, hread, hprevious]
    rfl
  rw [stageAll, stage_eq hcreate hwrite, format, show (start none false).formatter = none from rfl]
  simp only [endStage, hrecord]
  rfl

/-- **The header is committed**, once the directories above it are made.

**Proof sketch.** The temporary file is still there once the directories are made, and nothing stands at
the place of the header. So it is moved there without anything set aside
(`Commit.exists_replace_of_absent`). -/
lemma exists_conclude_row (hk : k ≤ 4077) (htemp : TempAt tableTree v temp l content)
    (hfree : ∀ rest, v.entry? ("out" :: rest) = none) : ∃ records t',
    conclude .write ⟨none, false,
      [⟨⟨Path.spread "out" (k + 1) "ua/nodeids.hpp", text, none⟩, temp⟩]⟩ v = (.ok records, t') := by
  have hw : v.workdir = [] := htemp.sameDirs.workdir
  have hgrown := grownAlong_makeDirs v (Path.spread "out" (k + 1) "ua")
  rw [makeDirs_row hw hfree hk] at hgrown
  have hout : ((v.put ["out"] .directory).put ["out", "ua"] .directory).DirAt ["out"] := by
    simp [dirAt_put_directory]
  have hua : ((v.put ["out"] .directory).put ["out", "ua"] .directory).DirAt ["out", "ua"] := by
    simp [dirAt_put_directory]
  have hnew : FileTree.entry? ((v.put ["out"] .directory).put ["out", "ua"] .directory)
      ["out", "ua", "nodeids.hpp"] = none := by
    simp [entry?_put, hfree]
  have hsep : (Path.spread "out" (k + 1) "ua/nodeids.hpp").endsWithSeparator = false := by
    rw [← targetPath_row]
    exact (targetPath_endsIn (rowConfig k) .nodeIds).endsWithSeparator Target.nodeIds.plainName
  obtain ⟨s', hreplace⟩ : ∃ s', (Commit.start v).replace
      (Path.spread "out" (k + 1) "ua/nodeids.hpp") temp = (.ok (), s') :=
    Commit.exists_replace_of_absent (parent?_header k) (by simp [Path.spread])
      (makeDirs_row hw hfree hk) (locate_mono hgrown.within htemp.located)
      ((hgrown.file? l).trans htemp.there) (locate_header hw hout hua hk) hnew hsep
  have hrun : (Commit.start v).run
      [⟨⟨Path.spread "out" (k + 1) "ua/nodeids.hpp", text, none⟩, temp⟩] = (.ok (), s'.close) := by
    rw [Commit.run, if_neg (by simp [HeaderRecord.unchanged])]
    simp only [hreplace, Commit.run]
  rw [conclude, commit, hrun]
  exact ⟨_, _, rfl⟩

/-- **The header is written**, as long as its path is not too long. -/
lemma exists_generate_row (hk : k ≤ 4077) : ∃ report t',
    generate bareOutside (rowConfig k) .standard tableTree = (.ok report, t') := by
  obtain ⟨text, hprepare⟩ := exists_prepare_row hk
  obtain ⟨temp, l, v, htemp, hfree, hstage⟩ := exists_stageAll_row hk text
  obtain ⟨records, t', hconclude⟩ := @exists_conclude_row v temp l text _ k hk htemp hfree
  have hgenerate := generate_of_stageAll_ok hprepare hstage
  rw [show (rowConfig k).mode = .write from rfl, hconclude] at hgenerate
  exact ⟨_, _, hgenerate⟩

/-- The table is not where the header is. -/
lemma inputsApart_row (k : Nat) : (rowConfig k).InputsApart tableTree.workdir := by
  intro target htarget file hfile other hother heq
  obtain rfl : file = ⟨"ids.csv"⟩ := by
    obtain rfl : target = .nodeIds := by simpa [rowConfig] using htarget
    simpa [RunConfig.inputFiles, RunConfig.schemasFor, RunConfig.nodeIdFiles, rowConfig] using hfile
  obtain ⟨l, hl⟩ := place_targetPath (rowConfig k) other tableTree.workdir
  have htable : (⟨"ids.csv"⟩ : Path).place tableTree.workdir = [] ++ ["ids.csv"] := by decide
  rw [htable, hl] at heq
  have hname := List.singleton_inj.1 (List.append_inj' heq rfl).2
  revert hname
  cases other <;> decide

/-- The path of a temporary file beside the header has the row in it. -/
lemma le_size_tempPath_row (v : FileTree) (k : Nat) {name : String}
    (hname : (⟨name⟩ : Path).isAbsolute = false) : k + 6 + name.utf8ByteSize ≤
      (v.tempPath (Path.spread "out" (k + 1) "ua") name).text.utf8ByteSize := by
  have hout : "out".utf8ByteSize = 3 ∧ "ua".utf8ByteSize = 2 := by decide
  have hsize := Path.size_spread "out" (k + 1) "ua"
  have hjoin : _ ≤ ((Path.spread "out" (k + 1) "ua").join ⟨name⟩).text.utf8ByteSize :=
    Path.le_size_join hname
  have htemp : _ ≤ (v.workdirPath.join ((Path.spread "out" (k + 1) "ua").join ⟨name⟩)).text.utf8ByteSize :=
    Path.le_size_join (by
      rw [Path.isAbsolute_join (by simp [Path.spread]) hname]
      simp [Path.isAbsolute, Path.spread])
  rw [tempPath]
  simp only at hjoin
  omega

/-- **The second run fails**, in either mode, where the path of its temporary file is too long.

**Proof sketch.** By `settled_of_generate` the header is there now, so its temporary file would lie
beside it. Its path has every separator of the directory in it, and the name on top. -/
lemma exists_generate_row_error (hk : 4069 ≤ k)
    (h : generate bareOutside (rowConfig k) .standard tableTree = (.ok report, t')) (mode : RunMode) :
    ∃ failure, (generate bareOutside ((rowConfig k).inMode mode) .standard t').1 = .error failure := by
  have hpath : ((rowConfig k).inMode mode).targetPath .nodeIds =
      Path.spread "out" (k + 1) "ua/nodeids.hpp" := targetPath_row k
  have hnone : ∀ command, command ∉ (rowConfig k).formatter := by simp [rowConfig]
  have hmem : Target.nodeIds ∈ ((rowConfig k).inMode mode).targets := by
    simp [rowConfig, RunConfig.inMode]
  obtain ⟨hsettled, -⟩ := @settled_of_generate _ _ _ _ _ (fun content => (.error .notFound, content)) _
    rfl (fun command hc => absurd hc (hnone command)) (inputsApart_row k) h
  obtain ⟨text, -, hread⟩ := (hsettled.inMode mode).held .nodeIds hmem
  obtain ⟨l, -, hl, -⟩ := FileTree.read_eq_ok_iff.1 hread
  have hdir : t'.stagingDir (((rowConfig k).inMode mode).targetPath .nodeIds) =
      Path.spread "out" (k + 1) "ua" :=
    stagingDir_of_reaches (.of_locate hl) (hpath ▸ parent?_header k) (by simp [Path.spread])
  have hcramped : t'.Cramped (((rowConfig k).inMode mode).targetPath .nodeIds) := by
    have hname : (tempName stagedName Target.nodeIds.ending 0).utf8ByteSize = 21 := by decide
    have hrelative : Path.isAbsolute ⟨tempName stagedName Target.nodeIds.ending 0⟩ = false := by decide
    have hsize := le_size_tempPath_row t' k hrelative
    rw [Cramped, tempEnding_targetPath, hdir]
    omega
  exact exists_generate_error (fun command hc => absurd hc (hnone command)) hmem hcramped

/-- **A run that cannot be made again**: it succeeds, and when it is made again there is no room for the
temporary file of its header. -/
theorem generate_again_far :
    (rowConfig 4073).mode = .write ∧ (rowConfig 4073).formatter = none ∧
      (rowConfig 4073).InputsApart tableTree.workdir ∧
      ∃ report t', generate bareOutside (rowConfig 4073) .standard tableTree = (.ok report, t') ∧
        ∃ failure, (generate bareOutside (rowConfig 4073) .standard t').1 = .error failure := by
  obtain ⟨report, t', h⟩ := exists_generate_row (show 4073 ≤ 4077 by decide)
  exact ⟨rfl, rfl, inputsApart_row 4073, report, t', h,
    exists_generate_row_error (by omega) h .write⟩

end UaHeaders
