import UaHeaders.Proofs.Lists
import UaHeaders.Proofs.Run.Committed

/-!
# A run that writes

A run in write mode that succeeds has done what its report says. Each entry of the report is about one
configured target: its place holds the text that was assembled and formatted for it, and the entry says
whether the text was there before. Nothing else in the tree is new but directories above written
headers.

## Main definitions

* `UaHeaders.FormattedText` — a text is the one that was assembled and formatted for a target.
* `UaHeaders.Delivered` — an entry of a report tells the truth about its header.
* `UaHeaders.WrittenAsReported` — a report tells the truth about a run.

## Main results

* `UaHeaders.tidy_of_staged` — the headers of a run are apart from all temporary files.
* `UaHeaders.generate_write` — a run in write mode does what its report says.

## Design

The statement needs to know of the formatter that it only rewrites the file that it is given. It asks
nothing of the tree, of the output root, or of the list of targets: the last components of the headers
are names that no temporary file has, and every target has its own.
-/

set_option autoImplicit false

namespace UaHeaders

open FileTree Transaction FormatterCommand

variable {outside : Outside} {config : RunConfig} {inputs : Inputs} {t t' : FileTree}
  {result : ByteArray → Except Fault Finished × ByteArray} {report : Report}
  {target other : Target} {staged : List StagedHeader} {header : StagedHeader} {text : String}

/-! ## Names of headers -/

/-- The last component of the place of a header. -/
def Target.fileName : Target → String
  | attributes => "attribute_highlevel.hpp"
  | typeRegistry => "typeregistry.hpp"
  | typeConverter => "TypeConverterNative.h"
  | nodeIds => "nodeids.hpp"

/-- Headers are told apart by their names. -/
lemma Target.fileName_inj (h : target.fileName = other.fileName) : target = other := by
  revert h
  cases target <;> cases other <;> decide

/-- The name of a header is plain. -/
lemma Target.plainName (target : Target) : PlainName target.fileName := by
  cases target <;> exact ⟨by decide, by decide⟩

/-- The name of a header ends its path. -/
lemma Target.relativePath_endsIn (target : Target) :
    target.relativePath.EndsIn target.fileName := by
  cases target with
  | attributes => exact ⟨"services/".toList, by decide, .inr (by decide)⟩
  | typeRegistry => exact ⟨"ua/".toList, by decide, .inr (by decide)⟩
  | typeConverter => exact ⟨[], by decide, .inl rfl⟩
  | nodeIds => exact ⟨"ua/".toList, by decide, .inr (by decide)⟩

/-- **The place of a header ends in its name**, whatever the output root is. -/
lemma place_targetPath (config : RunConfig) (target : Target) (w : Location) :
    ∃ l, (config.targetPath target).place w = l ++ [target.fileName] :=
  place_of_endsIn (target.relativePath_endsIn.join config.outputRoot) target.plainName w

/-- No header has the name of a temporary file: those begin with a dot. -/
lemma Target.fileName_ne_tempName (target : Target) {beginning ending : String} {n : Nat}
    (hdot : beginning.toList.head? = some '.') : target.fileName ≠ tempName beginning ending n := by
  intro heq
  have hhead : target.fileName.toList.head? = some '.' := by
    rw [heq, toList_tempName, List.append_assoc, List.head?_append, hdot, Option.some_or]
  revert hhead
  cases target <;> decide

/-- The place of a header is apart from those of temporary files. -/
lemma not_stagedAt_targetPath (config : RunConfig) (target : Target) (w : Location) :
    ¬ StagedAt ((config.targetPath target).place w) := by
  obtain ⟨l, hl⟩ := place_targetPath config target w
  rintro ⟨above, p, n, heq⟩
  have hname := (List.append_inj' (hl.symm.trans heq) rfl).2
  exact target.fileName_ne_tempName (by decide) (List.singleton_inj.1 hname)

/-- The place of a header is apart from those of backups. -/
lemma not_backupAt_targetPath (config : RunConfig) (target : Target) (w : Location) :
    ¬ BackupAt ((config.targetPath target).place w) := by
  obtain ⟨l, hl⟩ := place_targetPath config target w
  rintro ⟨above, n, heq⟩
  have hname := (List.append_inj' (hl.symm.trans heq) rfl).2
  exact target.fileName_ne_tempName (by decide) (List.singleton_inj.1 hname)

/-- Targets with one place are one target. -/
lemma eq_of_place_targetPath {w : Location}
    (h : (config.targetPath target).place w = (config.targetPath other).place w) :
    target = other := by
  obtain ⟨l, hl⟩ := place_targetPath config target w
  obtain ⟨l', hl'⟩ := place_targetPath config other w
  have hname := (List.append_inj' (hl.symm.trans (h.trans hl')) rfl).2
  exact Target.fileName_inj (List.singleton_inj.1 hname)

/-! ## The headers of a run -/

/-- **A text is the one of a target**: it was assembled for it, and formatted. -/
def FormattedText (outside : Outside) (config : RunConfig) (inputs : Inputs)
    (result : ByteArray → Except Fault Finished × ByteArray) (t : FileTree) (target : Target)
    (text : String) : Prop :=
  ∃ assembled, renderTarget outside config inputs t target = .ok assembled ∧
    formatted config.formatter result assembled.toUTF8 = text.toUTF8

/-- A target has one text. -/
lemma FormattedText.unique {other : String}
    (h : FormattedText outside config inputs result t target text)
    (h' : FormattedText outside config inputs result t target other) : text = other := by
  obtain ⟨assembled, hrender, hformat⟩ := h
  obtain ⟨assembled', hrender', hformat'⟩ := h'
  obtain rfl : assembled = assembled' := by simpa [hrender] using hrender'
  exact String.toByteArray_inj.1 (hformat.symm.trans hformat')

/-- **A staged header is the one of a target.** -/
structure HeaderOf (outside : Outside) (config : RunConfig) (inputs : Inputs)
    (result : ByteArray → Except Fault Finished × ByteArray) (t : FileTree) (target : Target)
    (header : StagedHeader) : Prop where
  path : header.record.target = config.targetPath target
  text : FormattedText outside config inputs result t target header.record.content
  accepted : ∀ assembled, renderTarget outside config inputs t target = .ok assembled →
    Accepts config.formatter result assembled.toUTF8
  unchanged : header.record.unchanged = true ↔
    t.read (config.targetPath target) = .ok header.record.content.toUTF8

/-- The texts that were rendered are those of the configured targets. -/
lemma forall₂_of_renderAll {headers : List (Path × String)}
    (h : renderAll outside config inputs t = .ok headers) :
    List.Forall₂ (fun target item => item.1 = config.targetPath target ∧
      renderTarget outside config inputs t target = .ok item.2) config.targets headers := by
  refine (forall₂_of_mapM h).imp fun target item hitem => ?_
  rcases htext : renderTarget outside config inputs t target with cause | content
  · simp [htext, bind, Except.bind] at hitem
  · obtain rfl : (config.targetPath target, content) = item := by
      simpa [htext, bind, Except.bind, pure, Except.pure] using hitem
    exact ⟨rfl, rfl⟩

/-- The headers that were staged are those of the configured targets. -/
lemma headersOf {headers : List (Path × String)}
    (hrender : renderAll outside config inputs t = .ok headers)
    (hstaged : List.Forall₂ (StagedFor config.formatter result t) headers staged) :
    List.Forall₂ (HeaderOf outside config inputs result t) config.targets staged := by
  refine forall₂_comp (forall₂_of_renderAll hrender) hstaged fun target item header hitem hfor => ?_
  obtain ⟨hpath, htext⟩ := hitem
  have hunchanged := hfor.unchanged
  rw [hpath] at hunchanged
  refine ⟨hfor.target.trans hpath, ⟨item.2, htext, hfor.content⟩, fun assembled hassembled => ?_,
    hunchanged (not_stagedAt_targetPath config target _)⟩
  obtain rfl : item.2 = assembled := by simpa [htext] using hassembled
  exact hfor.accepted

/-- **The headers of a run are apart** from temporary files and from each other. -/
lemma tidy_of_staged
    (h : List.Forall₂ (HeaderOf outside config inputs result t) config.targets staged)
    (w : Location) : Tidy w staged := by
  refine ⟨fun header hh => ?_, fun header hh other ho heq => ?_⟩
  · obtain ⟨target, -, hof⟩ := exists_of_forall₂ h hh
    rw [hof.path]
    exact ⟨not_stagedAt_targetPath config target w, not_backupAt_targetPath config target w⟩
  · obtain ⟨target, -, hof⟩ := exists_of_forall₂ h hh
    obtain ⟨target', -, hof'⟩ := exists_of_forall₂ h ho
    rw [hof.path, hof'.path] at heq
    obtain rfl := eq_of_place_targetPath heq
    exact hof.text.unique hof'.text

/-! ## Reports -/

/-- **An entry of a report tells the truth about its header**: the header holds the text of its target,
with the permission bits from before, and the entry is unchanged when the text was there already. -/
structure Delivered (config : RunConfig) (t t' : FileTree) (target : Target) (text : String)
    (entry : TargetReport) : Prop where
  path : entry.path = config.targetPath target
  target : entry.target = target
  digest : entry.digest = Digest.sha256Hex text
  diff : entry.diff = none
  status : entry.status = .written ∨ entry.status = .unchanged
  read : t'.read entry.path = .ok text.toUTF8
  file : t'.file? (entry.path.place t.workdir) =
    some (t.modeAt (entry.path.place t.workdir), text.toUTF8)
  unchanged : entry.status = .unchanged ↔ t.read entry.path = .ok text.toUTF8
  untouched : entry.status = .unchanged →
    t'.file? (entry.path.place t.workdir) = t.file? (entry.path.place t.workdir)

/-- **A report tells the truth about a run** from `t` to `t'`: its entries are about the configured
targets in order, other files are what they were, and new directories are missing ones above written
headers. -/
structure WrittenAsReported (outside : Outside) (config : RunConfig) (inputs : Inputs)
    (result : ByteArray → Except Fault Finished × ByteArray) (t t' : FileTree) (report : Report) :
    Prop where
  mode : report.mode = .write
  entries : List.Forall₂
    (fun target entry => ∃ text, FormattedText outside config inputs result t target text ∧
      Delivered config t t' target text entry)
    config.targets report.targets
  others : ∀ l, (∀ entry ∈ report.targets, entry.path.place t.workdir ≠ l) →
    t'.file? l = t.file? l
  temps : ∀ l, StagedAt l ∨ BackupAt l → t'.file? l = t.file? l
  oldDirs : t.Within t'
  newDirs : ∀ l, t'.DirAt l → ¬ t.DirAt l →
    ∃ entry ∈ report.targets, entry.status = .written ∧
      ∃ dir ∈ entry.path.ancestors.tail, t.pathExists dir = false ∧ t'.locate dir = .ok l

/-- A run that writes and succeeds renders, stages and commits. -/
lemma generate_eq_ok_of_write (hmode : config.mode = .write)
    (h : generate outside config inputs t = (.ok report, t')) :
    ∃ headers tx u records, renderAll outside config inputs t = .ok headers ∧
      stageAll outside.programs (.start config.formatter false) t headers = (.ok tx, u) ∧
      tx.commit u = (.ok records, t') ∧
      report = Report.ofRecords .write config.targets records := by
  unfold generate at h
  rcases hvalid : config.validate t with failure | checked
  · simp [hvalid, bind, Except.bind] at h
  rcases hrender : renderAll outside config inputs t with failure | headers
  · simp [hvalid, hrender, bind, Except.bind] at h
  simp only [hvalid, hrender, bind, Except.bind, hmode, conclude] at h
  rcases hstage : stageAll outside.programs (.start config.formatter (RunMode.write == .check)) t
    headers with ⟨failure | tx, u⟩
  · simp [hstage] at h
  rcases hcommit : tx.commit u with ⟨failure | records, v⟩
  · simp [hstage, hcommit] at h
  simp only [hstage, hcommit, Prod.mk.injEq, Except.ok.injEq] at h
  obtain ⟨rfl, rfl⟩ := h
  exact ⟨headers, tx, u, records, rfl, hstage, hcommit, rfl⟩

/-- **What stands at the place of an unchanged header stays**: it is not written under another entry, which would
be unchanged too. -/
lemma HeaderOf.file?_of_unchanged (hall :
      List.Forall₂ (HeaderOf outside config inputs result t) config.targets staged)
    (hc : Committed t t' staged) (hof : HeaderOf outside config inputs result t target header)
    (hun : header.record.unchanged = true) :
    t'.file? (header.record.target.place t.workdir) =
      t.file? (header.record.target.place t.workdir) := by
  refine hc.others _ ?_
  rintro ⟨other, ho, hch, heq⟩
  obtain ⟨target', -, hof'⟩ := exists_of_forall₂ hall ho
  rw [hof.path, hof'.path] at heq
  obtain rfl := eq_of_place_targetPath heq
  have hun' := hof'.unchanged.2 (hof'.text.unique hof.text ▸ hof.unchanged.1 hun)
  rw [hch] at hun'
  simp at hun'

/-- The entry of a header that is the one of a target.

**Proof sketch.** By whether the header is unchanged. If it is, its file is left as it was read;
otherwise the commit wrote it with the bits that were there. -/
lemma HeaderOf.delivered (hall :
      List.Forall₂ (HeaderOf outside config inputs result t) config.targets staged)
    (hc : Committed t t' staged) (hh : header ∈ staged)
    (hof : HeaderOf outside config inputs result t target header) :
    Delivered config t t' target header.record.content
      (TargetReport.ofRecord .write target header.record) := by
  have hstatus : TargetStatus.of .write header.record.unchanged = .unchanged ↔
      header.record.unchanged = true := by
    cases header.record.unchanged <;> simp [TargetStatus.of]
  have hfile : t'.Reaches header.record.target ∧
      t'.file? (header.record.target.place t.workdir) =
        some (t.modeAt (header.record.target.place t.workdir), header.record.content.toUTF8) := by
    rcases hun : header.record.unchanged
    · exact hc.written header hh hun
    · obtain ⟨l, mode, hl, hheld⟩ := read_eq_ok_iff.1 (hof.unchanged.1 hun)
      rw [← hof.path] at hl
      obtain ⟨hreach, rfl⟩ := locate_eq_ok_iff.1 hl
      refine ⟨hreach.mono hc.within, ?_⟩
      rw [hof.file?_of_unchanged hall hc hun, modeAt, hheld]
  refine ⟨hof.path, rfl, rfl, by simp [TargetReport.ofRecord], ?_, ?_, hfile.2, ?_, ?_⟩
  · rcases hun : header.record.unchanged <;> simp [TargetReport.ofRecord, TargetStatus.of, hun]
  · refine read_eq_ok_iff.2 ⟨header.record.target.place t.workdir, _, ?_, hfile.2⟩
    rw [← hc.within.workdir]
    exact hfile.1
  · rw [TargetReport.ofRecord, hstatus, hof.unchanged, hof.path]
  · exact fun hun => hof.file?_of_unchanged hall hc (hstatus.1 hun)

/-- The entries of a report are those of the headers. -/
lemma forall₂_ofRecord {P : Target → TargetReport → Prop} {targets : List Target}
    (h : List.Forall₂
      (fun target header => P target (TargetReport.ofRecord .write target header.record))
      targets staged) :
    List.Forall₂ P targets
      (Report.ofRecords .write targets (staged.map StagedHeader.record)).targets := by
  unfold Report.ofRecords
  induction h with
  | nil => exact .nil
  | cons hr _ ih => exact .cons hr ih

/-- Every staged header has an entry. -/
lemma mem_ofRecords {R : Target → StagedHeader → Prop} {targets : List Target}
    (h : List.Forall₂ R targets staged) (hh : header ∈ staged) :
    ∃ target, TargetReport.ofRecord .write target header.record ∈
      (Report.ofRecords .write targets (staged.map StagedHeader.record)).targets := by
  unfold Report.ofRecords
  induction h with
  | nil => simp at hh
  | cons _ _ ih =>
    rcases List.mem_cons.1 hh with rfl | hh
    · exact ⟨_, List.mem_cons_self⟩
    · obtain ⟨target, ht⟩ := ih hh
      exact ⟨target, List.mem_cons_of_mem _ ht⟩

/-- **A run that writes does what its report says.** Whatever the tree, the tables and the settings are,
if a formatter only rewrites the file that it is given and the run succeeds, then every entry of the
report tells the truth about its header, and nothing else in the tree is touched.

**Proof sketch.** Staging makes a temporary file for each configured target, apart from everything
else. The commit writes those that were not unchanged. Headers of one place are of one target, so they
have one text, and they are unchanged together. -/
theorem generate_write (hmode : config.mode = .write)
    (hf : ∀ command ∈ config.formatter, command.Rewrites outside.programs result)
    (h : generate outside config inputs t = (.ok report, t')) :
    WrittenAsReported outside config inputs result t t' report := by
  obtain ⟨headers, tx, u, records, hrender, hstage, hcommit, rfl⟩ := generate_eq_ok_of_write hmode h
  obtain ⟨staged, htx, hready, hfor⟩ := ready_stageAll hf (.nil t) hstage
  obtain rfl : tx = ⟨config.formatter, false, staged⟩ := by simpa [Transaction.start] using htx
  have hall := headersOf hrender hfor
  have htidy := tidy_of_staged hall t.workdir
  obtain ⟨rfl, hc⟩ := committed_of_commit hready htidy hcommit
  have hothers : ∀ l,
      (∀ entry ∈ (Report.ofRecords .write config.targets (staged.map StagedHeader.record)).targets,
        entry.path.place t.workdir ≠ l) → t'.file? l = t.file? l := by
    intro l hl
    refine hc.others l ?_
    rintro ⟨header, hh, -, rfl⟩
    obtain ⟨target, hmem⟩ := mem_ofRecords hall hh
    exact hl _ hmem rfl
  refine ⟨rfl, forall₂_ofRecord ?_, hothers, fun l hl => hc.others l ?_, hc.within,
    fun l hl hn => ?_⟩
  · obtain ⟨hlength, hzip⟩ := List.forall₂_iff_zip.1 hall
    refine List.forall₂_iff_zip.2 ⟨hlength, fun hmem => ?_⟩
    have hof := hzip hmem
    exact ⟨_, hof.text, hof.delivered hall hc (List.of_mem_zip hmem).2⟩
  · rintro ⟨header, hh, -, rfl⟩
    obtain ⟨hstaged, hbackup⟩ := htidy.apart header hh
    exact hl.elim hstaged hbackup
  · obtain ⟨header, hh, hch, dir, hdir, hx, hloc⟩ := hc.newDirs l hl hn
    obtain ⟨target, hmem⟩ := mem_ofRecords hall hh
    exact ⟨_, hmem, by simp [TargetReport.ofRecord, TargetStatus.of, hch], dir, hdir, hx, hloc⟩

/-! ## A formatter that leaves a pragma -/

/-- What the formatter leaves. -/
def pragma : ByteArray := "#pragma once\n".toUTF8

/-- What the formatter leaves, and how it ends. -/
def pragmaLeft (_content : ByteArray) : Except Fault Finished × ByteArray :=
  (.ok ⟨.ofCode 0, .empty, .empty⟩, pragma)

/-- A system on which every program replaces the content of the file that it is given last. -/
def pragmaPrograms : Programs := fun t _ args =>
  match t.write ⟨args.getLastD ""⟩ pragma with
  | .ok u => (.ok ⟨.ofCode 0, .empty, .empty⟩, u)
  | .error _ => (.ok ⟨.ofCode 1, .empty, .empty⟩, t)

/-- Such a program only rewrites the file. -/
lemma rewrites_pragmaPrograms (command : FormatterCommand) :
    command.Rewrites pragmaPrograms pragmaLeft := by
  intro t p l mode content hl hfile
  have hwrite : t.write p pragma = .ok (t.put l (.file mode pragma)) :=
    writeWithMode_of_file? hl hfile
  have hrun : pragmaPrograms t command.program (command.args ++ [p.text]) =
      (.ok ⟨.ofCode 0, .empty, .empty⟩, t.put l (.file mode pragma)) := by
    simp [pragmaPrograms, hwrite]
  rw [hrun]
  exact ⟨rfl, .put_file (not_dirAt_of_file? hfile) _ _, fun m =>
    file?_put_file (ne_nil_of_file? hfile)⟩

/-- The system and a network that is not asked. -/
def pragmaOutside : Outside := ⟨pragmaPrograms, fun _ _ => .error ""⟩

/-- A run that makes one header twice. -/
def pragmaConfig : RunConfig where
  outputRoot := "include"
  targets := [.attributes, .attributes]
  formatter := some ⟨"sh", ["-c", "echo '#pragma once' > $0"]⟩

/-- One attribute. -/
def pragmaInputs : Inputs := ⟨[{ name := "NodeId", valueType := "NodeId" }], Exclusions.builtin⟩

/-- **A run that makes one header twice** succeeds in an empty tree, and its report tells the truth. -/
theorem generate_write_pragma :
    ∃ report t', generate pragmaOutside pragmaConfig pragmaInputs .empty = (.ok report, t') ∧
      WrittenAsReported pragmaOutside pragmaConfig pragmaInputs pragmaLeft .empty t' report := by
  have hok : (generate pragmaOutside pragmaConfig pragmaInputs .empty).1.isOk = true := by
    decide +kernel
  rcases hrun : generate pragmaOutside pragmaConfig pragmaInputs .empty with ⟨failure | report, t'⟩
  · rw [hrun] at hok
    simp [Except.isOk, Except.toBool] at hok
  · exact ⟨report, t', rfl,
      generate_write rfl (fun command _ => rewrites_pragmaPrograms command) hrun⟩

end UaHeaders
