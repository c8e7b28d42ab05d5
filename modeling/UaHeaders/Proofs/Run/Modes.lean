import UaHeaders.Proofs.Run.Settled

/-!
# One run in two modes

A run does the same in both modes until its headers are staged. Then a run that writes commits them, and one
that checks discards them. So a check leaves the tree as it was, and it foretells what a run that writes
would do.

## Main definitions

* `UaHeaders.RunConfig.inMode` — the settings of a run in a mode.
* `UaHeaders.Foretells` — an entry of a check foretells an entry of a run that writes.

## Main results

* `UaHeaders.stageAll_withDryRun` — whether a transaction is a dry run makes no difference to staging.
* `UaHeaders.same_generate_check` — a check leaves the tree as it was.
* `UaHeaders.foretells_of_generate` — a check foretells a run that writes.
* `UaHeaders.generate_after` — a run on the tree that another one has written.
-/

set_option autoImplicit false

namespace UaHeaders

open FileTree Transaction FormatterCommand

variable {outside : Outside} {config : RunConfig} {inputs : Inputs} {t t' u : FileTree}
  {result : ByteArray → Except Fault Finished × ByteArray} {report : Report} {tx : Transaction}
  {target : Target} {staged : List StagedHeader} {text : String}

/-- **The settings of a run in a mode.** -/
def RunConfig.inMode (config : RunConfig) (mode : RunMode) : RunConfig := { config with mode := mode }

/-! ## Staging in both modes -/

/-- A transaction that is a dry run, or is none. -/
def Transaction.withDryRun (tx : Transaction) (dryRun : Bool) : Transaction :=
  { tx with dryRun := dryRun }

/-- One stage of a dry run is one stage. -/
lemma Transaction.stage_withDryRun (tx : Transaction) (dryRun : Bool) (programs : Programs)
    (t : FileTree) (target : Path) (text : String) :
    (tx.withDryRun dryRun).stage programs t target text =
      ((tx.stage programs t target text).1.map fun tx => tx.withDryRun dryRun,
        (tx.stage programs t target text).2) := by
  have hfill : ∀ u temp, (tx.withDryRun dryRun).fill programs u target temp text =
      tx.fill programs u target temp text := fun _ _ => rfl
  simp only [stage]
  rcases t.createTemp (t.stagingDir target) stagedName (tempEnding target)
    with cause | ⟨temp, made⟩
  · rfl
  · simp only [hfill]
    rcases tx.fill programs made target temp text with ⟨failure | record, u⟩ <;> rfl

/-- **All stages of a dry run** are those of a transaction that is none. -/
lemma stageAll_withDryRun (programs : Programs) (tx : Transaction) (dryRun : Bool) (t : FileTree)
    (texts : List (Path × String)) :
    stageAll programs (tx.withDryRun dryRun) t texts =
      ((stageAll programs tx t texts).1.map fun tx => tx.withDryRun dryRun,
        (stageAll programs tx t texts).2) := by
  induction texts generalizing tx t with
  | nil => rfl
  | cons first rest ih =>
    obtain ⟨target, text⟩ := first
    rw [stageAll, stageAll, stage_withDryRun]
    rcases tx.stage programs t target text with ⟨failure | next, u⟩
    · rfl
    · exact ih next u

/-! ## Checks -/

/-- **A check leaves the tree as it was**, whether or not it succeeds. -/
lemma same_generate_check
    (hf : ∀ command ∈ config.formatter, command.Rewrites outside.programs result)
    (hmode : config.mode = .check) : t.Same (generate outside config inputs t).2 := by
  rcases hprepare : prepare outside config inputs t with failure | texts
  · rw [generate_of_prepare_error hprepare]
    exact .refl t
  rcases hstage : stageAll outside.programs (.start config.formatter (config.mode == .check)) t texts
    with ⟨failure | tx, u⟩
  · obtain ⟨hrun, hsame⟩ :=
      generate_of_stageAll_error (fun command hc => (hf command hc).confined) hprepare hstage
    rw [hrun]
    exact hsame
  · obtain ⟨staged, -, hready, -⟩ := ready_stageAll hf (.nil t) hstage
    rw [generate_of_stageAll_ok hprepare hstage, hmode]
    exact hready.same_dropTemps

/-- **An entry of a check foretells an entry of a run that writes**: it is about the same header with the same
digest, and out of date exactly when the header is written. -/
structure Foretells (checked written : TargetReport) : Prop where
  target : checked.target = written.target
  path : checked.path = written.path
  digest : checked.digest = written.digest
  stale : checked.status = .stale ↔ written.status = .written
  upToDate : checked.status = .upToDate ↔ written.status = .unchanged

/-- The entry of a header in a check foretells its entry in a run that writes. -/
lemma foretells_ofRecord (target : Target) (record : HeaderRecord) :
    Foretells (.ofRecord .check target record) (.ofRecord .write target record) := by
  refine ⟨rfl, rfl, rfl, ?_, ?_⟩ <;>
    cases h : record.unchanged <;> simp [TargetReport.ofRecord, TargetStatus.of, h]

/-- The report of a check foretells the one of a run that writes. -/
lemma forall₂_foretells (targets : List Target) (records : List HeaderRecord) :
    List.Forall₂ Foretells (Report.ofRecords .check targets records).targets
      (Report.ofRecords .write targets records).targets := by
  simp only [Report.ofRecords]
  induction targets generalizing records with
  | nil => exact .nil
  | cons target rest ih =>
    cases records with
    | nil => exact .nil
    | cons record records => exact .cons (foretells_ofRecord target record) (ih records)

/-- **A check foretells a run that writes**: if the run succeeds then so does the check, and their entries
belong together.

**Proof sketch.** Both stage the same headers, and a check succeeds once they are staged. -/
lemma foretells_of_generate (h : generate outside (config.inMode .write) inputs t = (.ok report, t')) :
    ∃ checked, (generate outside (config.inMode .check) inputs t).1 = .ok checked ∧
      checked.mode = .check ∧ List.Forall₂ Foretells checked.targets report.targets := by
  obtain ⟨texts, tx, u, records, hrender, hstage, hcommit, rfl⟩ := generate_eq_ok_of_write rfl h
  obtain ⟨rfl, -⟩ := commit_eq_ok hcommit
  have hvalid : (config.inMode .write).validate t = .ok () := validate_of_generate h
  have hprepare : prepare outside (config.inMode .check) inputs t = .ok texts := by
    rw [prepare, show (config.inMode .check).validate t = .ok () from hvalid]
    exact hrender
  have hdry : stageAll outside.programs (.start config.formatter true) t texts =
      (.ok (tx.withDryRun true), u) := by
    have hboth := stageAll_withDryRun outside.programs (.start config.formatter false) true t texts
    rw [show stageAll outside.programs (.start config.formatter false) t texts = (.ok tx, u) from
      hstage] at hboth
    exact hboth
  refine ⟨.ofRecords .check config.targets tx.records, ?_, rfl, forall₂_foretells _ _⟩
  rw [generate_of_stageAll_ok hprepare hdry]
  rfl

/-! ## A run after a run that writes -/

/-- A header is rendered alike in both modes. -/
lemma renderTarget_inMode (mode : RunMode) :
    renderTarget outside (config.inMode mode) inputs t target =
      renderTarget outside config inputs t target := by
  cases target <;> rfl

/-- A target has the same texts in both modes. -/
lemma formattedText_inMode (mode : RunMode) :
    FormattedText outside (config.inMode mode) inputs result t target text ↔
      FormattedText outside config inputs result t target text := by
  unfold FormattedText
  rw [renderTarget_inMode]
  rfl

/-- A tree that is settled for a run is settled for it in both modes. -/
lemma Settled.inMode (h : Settled outside config inputs result t) (mode : RunMode) :
    Settled outside (config.inMode mode) inputs result t where
  valid := h.valid
  held target htarget := by
    simp only [formattedText_inMode]
    exact h.held target htarget
  accepted target htarget assembled hassembled := by
    rw [renderTarget_inMode] at hassembled
    exact h.accepted target htarget assembled hassembled

/-- A staged header is the one of a target in both modes. -/
lemma HeaderOf.of_inMode {header : StagedHeader} {mode : RunMode}
    (h : HeaderOf outside (config.inMode mode) inputs result t target header) :
    HeaderOf outside config inputs result t target header where
  path := h.path
  text := (formattedText_inMode mode).1 h.text
  accepted assembled hassembled := h.accepted assembled (by rwa [renderTarget_inMode])
  unchanged := h.unchanged

/-- **A run on the tree that another one has written**, in either mode and with the same settings and tables:
it leaves the tree as it is, it reports nothing but what it finds, and where there is room it succeeds.

**Proof sketch.** The tree is settled. So the headers that are staged are unchanged, and they are those of the
first run, since a target has one text. -/
lemma generate_after (hmode : config.mode = .write)
    (hf : ∀ command ∈ config.formatter, command.Rewrites outside.programs result)
    (hapart : config.InputsApart t.workdir)
    (h : generate outside config inputs t = (.ok report, t')) (mode : RunMode) :
    t'.Same (generate outside (config.inMode mode) inputs t').2 ∧
      (∀ again, (generate outside (config.inMode mode) inputs t').1 = .ok again →
        again = report.found mode) ∧
      (config.Roomy t' →
        (generate outside (config.inMode mode) inputs t').1 = .ok (report.found mode)) := by
  obtain ⟨hsettled, hformatted, staged, hall, rfl⟩ := settled_of_generate hmode hf hapart h
  have hrun := (hsettled.inMode mode).generate_cases hf
  obtain ⟨failure, u, hfail, hsame, hroom⟩ | ⟨again, u, hagain, hunchanged, hok, hsame⟩ := hrun
  · rw [hfail]
    exact ⟨hsame, by simp, fun hroomy => absurd hroomy hroom⟩
  · have hreport : Report.ofRecords mode config.targets (again.map StagedHeader.record) =
        (Report.ofRecords .write config.targets (staged.map StagedHeader.record)).found mode :=
      ofRecords_found hall (hagain.imp fun _ _ hof => hof.of_inMode) hformatted hunchanged
    have hfst : (generate outside (config.inMode mode) inputs t').1 = .ok
        ((Report.ofRecords .write config.targets (staged.map StagedHeader.record)).found mode) := by
      rw [hok, ← hreport]
      rfl
    rw [hfst, hok]
    refine ⟨hsame, fun report hreport => ?_, fun _ => rfl⟩
    exact (Except.ok.inj hreport).symm

end UaHeaders
