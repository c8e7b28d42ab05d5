import UaHeaders.Proofs.Run.Blame
import UaHeaders.Proofs.Run.InputFiles
import UaHeaders.Proofs.Run.Room
import UaHeaders.Proofs.Run.Written

/-!
# Settled trees

A tree is settled for a run when the settings pass and every header holds its text already. A run on a
settled tree finds every header as it should be: it changes nothing, in either mode, and where there is room
to stage it succeeds. A run that writes leaves a settled tree, unless it writes over its own input.

## Main definitions

* `UaHeaders.Settled` — every header holds its text.
* `UaHeaders.RunConfig.Roomy` — there is room to stage all headers.
* `UaHeaders.Report.found` — the report of a run that finds what another one has written.

## Main results

* `UaHeaders.Settled.generate_cases` — a run on a settled tree.
* `UaHeaders.settled_of_generate` — a run that writes leaves a settled tree.
* `UaHeaders.ofRecords_found` — the report on a settled tree is the one of the run that wrote.
-/

set_option autoImplicit false

namespace UaHeaders

open FileTree Transaction FormatterCommand

variable {outside : Outside} {config : RunConfig} {inputs : Inputs} {t t' u : FileTree}
  {result : ByteArray → Except Fault Finished × ByteArray} {report : Report} {tx : Transaction}
  {target : Target} {staged again : List StagedHeader} {headers : List StagedHeader}
  {texts : List (Path × String)} {text : String} {mode : RunMode}

/-! ## Headers that are unchanged -/

/-- A commit of unchanged headers clears away their temporary files. -/
lemma Commit.run_unchanged (s : Commit) (h : ∀ header ∈ headers, header.record.unchanged = true) :
    s.run headers = (.ok (), Commit.close { s with tree := dropTemps s.tree headers }) := by
  induction headers generalizing s with
  | nil => rfl
  | cons header rest ih =>
    obtain ⟨hfirst, hrest⟩ := List.forall_mem_cons.1 h
    rw [run, if_pos hfirst, ih _ hrest]
    rfl

/-- **A run that ends with unchanged headers** clears away their temporary files, in either mode. -/
lemma conclude_of_unchanged (hdry : tx.dryRun = (mode == .check))
    (h : ∀ header ∈ tx.staged, header.record.unchanged = true) :
    conclude mode tx u = (.ok tx.records, dropTemps u tx.staged) := by
  cases mode with
  | check => rfl
  | write =>
    rw [conclude, commit, hdry, Commit.run_unchanged _ h]
    rfl

/-! ## Runs on settled trees -/

/-- **A tree is settled for a run**: the settings pass, and every configured header holds its text, which the
formatter accepts. -/
structure Settled (outside : Outside) (config : RunConfig) (inputs : Inputs)
    (result : ByteArray → Except Fault Finished × ByteArray) (t : FileTree) : Prop where
  valid : config.validate t = .ok ()
  held : ∀ target ∈ config.targets, ∃ text,
    FormattedText outside config inputs result t target text ∧
      t.read (config.targetPath target) = .ok text.toUTF8
  accepted : ∀ target ∈ config.targets, ∀ assembled,
    renderTarget outside config inputs t target = .ok assembled →
    Accepts config.formatter result assembled.toUTF8

/-- **There is room to stage all headers of a run**: beside each there are as many free temporary names as
there are headers. -/
def RunConfig.Roomy (config : RunConfig) (t : FileTree) : Prop :=
  ∀ target ∈ config.targets, t.RoomFor (config.targetPath target) config.targets.length

namespace Settled

/-- The headers of a run on a settled tree are rendered. -/
lemma exists_texts (h : Settled outside config inputs result t) :
    ∃ texts, prepare outside config inputs t = .ok texts ∧
      renderAll outside config inputs t = .ok texts := by
  obtain ⟨texts, htexts⟩ : ∃ texts, renderAll outside config inputs t = .ok texts := by
    refine exists_mapM fun target htarget => ?_
    obtain ⟨text, ⟨assembled, hrender, -⟩, -⟩ := h.held target htarget
    exact ⟨(config.targetPath target, assembled), by rw [hrender]; rfl⟩
  exact ⟨texts, by rw [prepare, h.valid]; exact htexts, htexts⟩

/-- The headers of a settled tree can be staged. -/
lemma stageable (h : Settled outside config inputs result t)
    (hrender : renderAll outside config inputs t = .ok texts) :
    ∀ item ∈ texts, Stageable config.formatter result t item.1 item.2 := by
  intro item hitem
  obtain ⟨target, htarget, hpath, hassembled⟩ := exists_of_forall₂ (forall₂_of_renderAll hrender) hitem
  obtain ⟨text, ⟨assembled, hassembled', hformatted⟩, hread⟩ := h.held target htarget
  obtain rfl : item.2 = assembled := by simpa [hassembled] using hassembled'
  rw [hpath]
  exact ⟨h.accepted target htarget _ hassembled, ⟨text, hformatted⟩, ⟨text, hread⟩,
    not_stagedAt_targetPath config target _⟩

/-- The headers that are staged on a settled tree are unchanged. -/
lemma unchanged (h : Settled outside config inputs result t)
    (hall : List.Forall₂ (HeaderOf outside config inputs result t) config.targets staged) :
    ∀ header ∈ staged, header.record.unchanged = true := by
  intro header hheader
  obtain ⟨target, htarget, hof⟩ := exists_of_forall₂ hall hheader
  obtain ⟨text, hformatted, hread⟩ := h.held target htarget
  rw [hof.unchanged, hof.text.unique hformatted, hread]

/-- **A run on a settled tree** changes nothing, in either mode. It fails only where there is no room; else
it reports its headers, which are all unchanged.

**Proof sketch.** The headers are rendered since they hold their texts. Where there is room they are staged,
and unchanged headers are only cleared away. -/
lemma generate_cases (h : Settled outside config inputs result t)
    (hf : ∀ command ∈ config.formatter, command.Rewrites outside.programs result) :
    (∃ failure u, generate outside config inputs t = (.error failure, u) ∧ t.Same u ∧
      ¬ config.Roomy t) ∨
    ∃ staged u, List.Forall₂ (HeaderOf outside config inputs result t) config.targets staged ∧
      (∀ header ∈ staged, header.record.unchanged = true) ∧
      generate outside config inputs t =
        (.ok (.ofRecords config.mode config.targets (staged.map StagedHeader.record)), u) ∧
      t.Same u := by
  obtain ⟨texts, hprepare, hrender⟩ := h.exists_texts
  rcases hstage : stageAll outside.programs (.start config.formatter (config.mode == .check)) t texts
    with ⟨failure | tx, u⟩
  · obtain ⟨hrun, hsame⟩ :=
      generate_of_stageAll_error (fun command hc => (hf command hc).confined) hprepare hstage
    refine .inl ⟨failure, u, hrun, hsame, fun hroomy => ?_⟩
    have hlength := (forall₂_of_renderAll hrender).length_eq
    have hroom : ∀ item ∈ texts, t.RoomFor item.1 texts.length := by
      intro item hitem
      obtain ⟨target, htarget, hpath, -⟩ := exists_of_forall₂ (forall₂_of_renderAll hrender) hitem
      rw [hpath, ← hlength]
      exact hroomy target htarget
    obtain ⟨tx, v, hok⟩ : ∃ tx v, stageAll outside.programs
        (.start config.formatter (config.mode == .check)) t texts = (.ok tx, v) :=
      exists_stageAll hf fun item hitem => ⟨hroom item hitem, h.stageable hrender item hitem⟩
    rw [hstage] at hok
    simp at hok
  · obtain ⟨staged, htx, hready, hfor⟩ := ready_stageAll hf (.nil t) hstage
    obtain rfl : tx = ⟨config.formatter, config.mode == .check, staged⟩ := by
      simpa [Transaction.start] using htx
    have hall := headersOf hrender hfor
    have hunchanged := h.unchanged hall
    refine .inr ⟨staged, dropTemps u staged, hall, hunchanged, ?_, hready.same_dropTemps⟩
    have hend : conclude config.mode ⟨config.formatter, config.mode == .check, staged⟩ u =
        (.ok (staged.map StagedHeader.record), dropTemps u staged) :=
      conclude_of_unchanged rfl hunchanged
    rw [generate_of_stageAll_ok hprepare hstage, hend]
    rfl

end Settled

/-! ## Reports on settled trees -/

/-- **The report of a run that finds** what another one has written: the same headers with the same digests,
none of which is out of date. -/
def Report.found (report : Report) (mode : RunMode) : Report :=
  ⟨mode, report.targets.map fun entry => { entry with status := .of mode true }⟩

/-- No header is out of date in a report of what was found. -/
lemma Report.stale_found (report : Report) (mode : RunMode) : (report.found mode).stale = [] := by
  rw [stale, List.filter_eq_nil_iff, found, List.forall_mem_map]
  intro entry _
  cases mode <;> simp [TargetStatus.of]

/-- The entry of an unchanged header is the one of the header that was written before. -/
lemma ofRecord_of_unchanged {record written : HeaderRecord} (htarget : record.target = written.target)
    (hcontent : record.content = written.content) (hunchanged : record.unchanged = true) :
    TargetReport.ofRecord mode target record =
      { TargetReport.ofRecord .write target written with status := .of mode true } := by
  simp [TargetReport.ofRecord, HeaderRecord.digest, htarget, hcontent, hunchanged]

/-- **The report of unchanged headers** is the report of those that were written before. -/
lemma ofRecords_found {targets : List Target}
    (hall : List.Forall₂ (HeaderOf outside config inputs result t) targets staged)
    (hagain : List.Forall₂ (HeaderOf outside config inputs result t') targets again)
    (hrender : ∀ target ∈ targets, ∀ text,
      FormattedText outside config inputs result t target text →
      FormattedText outside config inputs result t' target text)
    (hunchanged : ∀ header ∈ again, header.record.unchanged = true) :
    Report.ofRecords mode targets (again.map StagedHeader.record) =
      (Report.ofRecords .write targets (staged.map StagedHeader.record)).found mode := by
  simp only [Report.ofRecords, Report.found, Report.mk.injEq, true_and]
  induction hall generalizing again with
  | nil =>
    cases hagain
    rfl
  | cons hof _ ih =>
    cases hagain with
    | cons hof' hrest =>
      obtain ⟨hfirst, hunchanged'⟩ := List.forall_mem_cons.1 hunchanged
      obtain ⟨hsame, hrender'⟩ := List.forall_mem_cons.1 hrender
      rw [List.map_cons, List.map_cons, List.zipWith_cons_cons, List.zipWith_cons_cons, List.map_cons,
        ih hrest hrender' hunchanged',
        ofRecord_of_unchanged (hof'.path.trans hof.path.symm)
          (hof'.text.unique (hsame _ hof.text)) hfirst]

/-! ## Runs that write -/

/-- What a run that wrote has not written is read as before. -/
lemma Transaction.Committed.readText_of_ne {file : Path} (hc : Committed t t' staged)
    (hne : ∀ header ∈ staged, file.place t.workdir ≠ header.record.target.place t.workdir)
    (h : t.readText file = .ok text) : t'.readText file = .ok text := by
  rw [readText_eq_ok_iff, FileTree.read_eq_ok_iff] at h ⊢
  obtain ⟨l, mode, hl, hfile⟩ := h
  refine ⟨l, mode, locate_mono hc.within hl, ?_⟩
  rw [hc.others, hfile]
  rintro ⟨header, hheader, -, heq⟩
  rw [eq_place_of_locate hl] at heq
  exact hne header hheader heq

/-- **A header is rendered alike after a run that wrote** no input file. -/
lemma Transaction.Committed.renderTarget_eq_ok (hc : Committed t t' staged)
    (hall : List.Forall₂ (HeaderOf outside config inputs result t) config.targets staged)
    (hapart : config.InputsApart t.workdir) (htarget : target ∈ config.targets)
    (h : renderTarget outside config inputs t target = .ok text) :
    renderTarget outside config inputs t' target = .ok text := by
  refine renderTarget_of_readText h fun file hfile text hread => hc.readText_of_ne ?_ hread
  intro header hheader
  obtain ⟨other, hother, hof⟩ := exists_of_forall₂ hall hheader
  rw [hof.path]
  exact hapart target htarget file hfile other hother

/-- A run that succeeds has passed the check of its settings. -/
lemma validate_of_generate (h : generate outside config inputs t = (.ok report, t')) :
    config.validate t = .ok () := by
  rcases hvalid : config.validate t with failure | checked
  · have hprepare : prepare outside config inputs t = .error failure := by rw [prepare, hvalid]; rfl
    simp [generate_of_prepare_error hprepare] at h
  · rfl

/-- **A run that writes leaves a settled tree**, unless it writes over its own input.

**Proof sketch.** Every header holds its text. Input files are no headers, so they are read as before, and
the same texts are rendered. The output root is no file, since headers are reached below it. -/
lemma settled_of_generate (hmode : config.mode = .write)
    (hf : ∀ command ∈ config.formatter, command.Rewrites outside.programs result)
    (hapart : config.InputsApart t.workdir)
    (h : generate outside config inputs t = (.ok report, t')) :
    Settled outside config inputs result t' ∧
      (∀ target ∈ config.targets, ∀ text,
        FormattedText outside config inputs result t target text →
        FormattedText outside config inputs result t' target text) ∧
      ∃ staged, List.Forall₂ (HeaderOf outside config inputs result t) config.targets staged ∧
        report = .ofRecords .write config.targets (staged.map StagedHeader.record) := by
  obtain ⟨texts, tx, u, records, hrender, hstage, hcommit, rfl⟩ := generate_eq_ok_of_write hmode h
  obtain ⟨staged, htx, hready, hfor⟩ := ready_stageAll hf (.nil t) hstage
  obtain rfl : tx = ⟨config.formatter, false, staged⟩ := by simpa [Transaction.start] using htx
  have hall := headersOf hrender hfor
  obtain ⟨rfl, hc⟩ := committed_of_commit hready (tidy_of_staged hall t.workdir) hcommit
  have hformatted : ∀ target ∈ config.targets, ∀ text,
      FormattedText outside config inputs result t target text →
      FormattedText outside config inputs result t' target text := by
    rintro target htarget text ⟨assembled, hassembled, heq⟩
    exact ⟨assembled, hc.renderTarget_eq_ok hall hapart htarget hassembled, heq⟩
  -- every configured target has a header
  have hpartner : ∀ target ∈ config.targets, ∃ header ∈ staged,
      HeaderOf outside config inputs result t target header :=
    fun target htarget => exists_of_forall₂ hall.flip htarget
  have hheld : ∀ target ∈ config.targets, ∃ text,
      FormattedText outside config inputs result t' target text ∧
        t'.read (config.targetPath target) = .ok text.toUTF8 := by
    intro target htarget
    obtain ⟨header, hheader, hof⟩ := hpartner target htarget
    have hread := (hof.delivered hall hc hheader).read
    rw [(hof.delivered hall hc hheader).path] at hread
    exact ⟨header.record.content, hformatted target htarget _ hof.text, hread⟩
  refine ⟨⟨?_, hheld, fun target htarget assembled hassembled => ?_⟩, hformatted, staged, hall, rfl⟩
  · have hvalid := validate_of_generate h
    obtain ⟨target, htarget⟩ := RunConfig.exists_target hvalid
    obtain ⟨text, -, hread⟩ := hheld target htarget
    obtain ⟨l, -, hl, -⟩ := read_eq_ok_iff.1 hread
    exact RunConfig.validate_of_reaches hvalid (.of_locate hl)
  · obtain ⟨header, -, hof⟩ := hpartner target htarget
    obtain ⟨before, hbefore, -⟩ := hof.text
    obtain rfl : before = assembled := by
      simpa [hc.renderTarget_eq_ok hall hapart htarget hbefore] using hassembled
    exact hof.accepted before hbefore

end UaHeaders
