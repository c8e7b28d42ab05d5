import UaHeaders.Proofs.Files.Under
import UaHeaders.Proofs.Run.Asides
import UaHeaders.Proofs.Run.Settled

/-!
# Runs that write the same headers

Two runs that write the same headers, in whatever order and however often, leave the same tree and say the
same of each header: what is written is told by the header and by the tree from before, and the directories
are those above the headers.

## Main definitions

* `UaHeaders.RunConfig.withTargets` — the settings of a run with other targets.
* `UaHeaders.Ran` — the stages of a run that wrote.
* `UaHeaders.HasText`, `UaHeaders.dueTargets` — targets that hold their text already, and the others.
* `UaHeaders.duePlaces` — where these others are.
* `UaHeaders.Covers` — headers that are all written by other ones too.

## Main results

* `UaHeaders.renderAll_withTargets` — the same headers are rendered.
* `UaHeaders.Covers.same` — headers that cover each other leave the same tree.
* `UaHeaders.Ran.same`, `UaHeaders.Ran.entry_eq` — runs with the same targets, when both succeed.
-/

set_option autoImplicit false

namespace UaHeaders

open FileTree Commit Transaction FormatterCommand

variable {outside : Outside} {config : RunConfig} {inputs : Inputs} {t t' t'' u u' : FileTree}
  {result : ByteArray → Except Fault Finished × ByteArray} {report report' : Report}
  {target other : Target} {targets others : List Target} {staged staged' : List StagedHeader}
  {header : StagedHeader} {texts : List (Path × String)} {s : Commit}

/-! ## The settings with other targets -/

/-- **The settings of a run with other targets.** -/
def RunConfig.withTargets (config : RunConfig) (others : List Target) : RunConfig :=
  { config with targets := others }

/-- The text of a header does not depend on which others are made. -/
lemma renderTarget_withTargets (target : Target) :
    renderTarget outside (config.withTargets others) inputs t target =
      renderTarget outside config inputs t target := rfl

/-- Settings that pass the check pass it with the same targets.

**Proof sketch.** The check asks of the targets whether there are any and which lists of schemas they
need, and both depend on their set only. -/
lemma RunConfig.validate_withTargets (hmem : ∀ target, target ∈ others ↔ target ∈ config.targets)
    (h : config.validate t = .ok ()) : (config.withTargets others).validate t = .ok () := by
  have hempty : others.isEmpty = config.targets.isEmpty := by
    rw [Bool.eq_iff_iff, List.isEmpty_iff, List.isEmpty_iff, List.eq_nil_iff_forall_not_mem,
      List.eq_nil_iff_forall_not_mem]
    exact forall_congr' fun target => not_congr (hmem target)
  have hschemas : ∀ target, (config.withTargets others).validateSchemas target =
      config.validateSchemas target := by
    intro target
    have hcontains : others.contains target = config.targets.contains target := by
      rw [Bool.eq_iff_iff, List.contains_iff_mem, List.contains_iff_mem, hmem]
    unfold validateSchemas
    rw [show (config.withTargets others).targets = others from rfl, hcontains]
    rfl
  unfold validate at h ⊢
  rw [show (config.withTargets others).targets = others from rfl, hempty, hschemas, hschemas]
  exact h

/-- The place and the text of a header; one that cannot be rendered is left empty. -/
def headerText (outside : Outside) (config : RunConfig) (inputs : Inputs) (t : FileTree)
    (target : Target) : Path × String :=
  (config.targetPath target,
    match renderTarget outside config inputs t target with
    | .ok text => text
    | .error _ => "")

/-- The texts that were rendered are those of the configured targets. -/
lemma eq_map_of_renderAll (h : renderAll outside config inputs t = .ok texts) :
    texts = config.targets.map (headerText outside config inputs t) := by
  have hall := forall₂_of_renderAll h
  clear h
  generalize config.targets = targets at hall ⊢
  induction hall with
  | nil => rfl
  | @cons target item targets texts hitem _ ih =>
    obtain ⟨hpath, htext⟩ := hitem
    rw [List.map_cons, ← ih, headerText, ← hpath]
    simp only [htext]

/-- **The same headers are rendered** in whatever order and however often. -/
lemma renderAll_withTargets (hmem : ∀ target ∈ others, target ∈ config.targets)
    (h : renderAll outside config inputs t = .ok texts) :
    renderAll outside (config.withTargets others) inputs t =
      .ok (others.map (headerText outside config inputs t)) := by
  obtain ⟨texts', htexts'⟩ : ∃ texts', renderAll outside (config.withTargets others) inputs t =
      .ok texts' := by
    refine exists_mapM fun target htarget => ?_
    obtain ⟨item, -, -, htext⟩ := exists_of_forall₂ (forall₂_of_renderAll h).flip (hmem target htarget)
    exact ⟨(config.targetPath target, item.2), by rw [renderTarget_withTargets, htext]; rfl⟩
  rw [htexts', eq_map_of_renderAll htexts']
  rfl

/-! ## Runs that wrote -/

/-- **The stages of a run that wrote**: its headers were rendered, staged and committed. -/
structure Ran (outside : Outside) (config : RunConfig) (inputs : Inputs)
    (result : ByteArray → Except Fault Finished × ByteArray) (t t' : FileTree) (report : Report)
    (texts : List (Path × String)) (staged : List StagedHeader) (u : FileTree) (s : Commit) : Prop where
  valid : config.validate t = .ok ()
  rendered : renderAll outside config inputs t = .ok texts
  stagedAll : stageAll outside.programs (.start config.formatter false) t texts =
    (.ok ⟨config.formatter, false, staged⟩, u)
  ready : Ready t u staged
  headers : List.Forall₂ (HeaderOf outside config inputs result t) config.targets staged
  passes : Passes (.start u) staged s
  closed : t' = s.close
  committed : Committed t t' staged
  report : report = .ofRecords .write config.targets (staged.map StagedHeader.record)

/-- A run that wrote has gone through its stages. -/
lemma exists_ran (hmode : config.mode = .write)
    (hf : ∀ command ∈ config.formatter, command.Rewrites outside.programs result)
    (h : generate outside config inputs t = (.ok report, t')) :
    ∃ texts staged u s, Ran outside config inputs result t t' report texts staged u s := by
  obtain ⟨texts, tx, u, records, hrender, hstage, hcommit, rfl⟩ := generate_eq_ok_of_write hmode h
  obtain ⟨staged, htx, hready, hfor⟩ := ready_stageAll hf (.nil t) hstage
  obtain rfl : tx = ⟨config.formatter, false, staged⟩ := by simpa [Transaction.start] using htx
  have hall := headersOf hrender hfor
  obtain ⟨rfl, hc⟩ := committed_of_commit hready (tidy_of_staged hall t.workdir) hcommit
  obtain ⟨-, s, hpass, hclose⟩ := commit_eq_ok hcommit
  exact ⟨texts, staged, u, s, validate_of_generate h, hrender, hstage, hready, hall, hpass, hclose, hc, rfl⟩

/-- A run with other targets that wrote has gone through its stages too. -/
lemma exists_ran_withTargets (hmode : config.mode = .write)
    (hf : ∀ command ∈ config.formatter, command.Rewrites outside.programs result)
    (h : generate outside (config.withTargets others) inputs t = (.ok report, t')) :
    ∃ texts staged u s,
      Ran outside (config.withTargets others) inputs result t t' report texts staged u s :=
  exists_ran hmode hf h

/-- Headers of targets belong to a run. -/
lemma configured_of_headers
    (h : List.Forall₂ (HeaderOf outside config inputs result t) targets staged) :
    Configured config staged := by
  intro header hheader
  obtain ⟨target, -, hof⟩ := exists_of_forall₂ h hheader
  exact ⟨target, hof.path⟩

/-- **A target holds its text already.** -/
def HasText (outside : Outside) (config : RunConfig) (inputs : Inputs)
    (result : ByteArray → Except Fault Finished × ByteArray) (t : FileTree) (target : Target) : Prop :=
  ∃ text, FormattedText outside config inputs result t target text ∧
    t.read (config.targetPath target) = .ok text.toUTF8

/-- A header is unchanged when its target holds its text already. -/
lemma HeaderOf.unchanged_iff (h : HeaderOf outside config inputs result t target header) :
    header.record.unchanged = true ↔ HasText outside config inputs result t target := by
  rw [h.unchanged]
  constructor
  · exact fun hread => ⟨_, h.text, hread⟩
  · rintro ⟨text, htext, hread⟩
    rwa [h.text.unique htext]

open Classical in
/-- **The targets that are due**: those that do not hold their text. -/
noncomputable def dueTargets (outside : Outside) (config : RunConfig) (inputs : Inputs)
    (result : ByteArray → Except Fault Finished × ByteArray) (t : FileTree) (targets : List Target) :
    List Target :=
  targets.filter fun target => ¬ HasText outside config inputs result t target

/-- A target is due when it does not hold its text. -/
lemma mem_dueTargets : target ∈ dueTargets outside config inputs result t targets ↔
    target ∈ targets ∧ ¬ HasText outside config inputs result t target := by
  simp [dueTargets]

/-- The places of the targets that are due, in order. -/
noncomputable def duePlaces (outside : Outside) (config : RunConfig) (inputs : Inputs)
    (result : ByteArray → Except Fault Finished × ByteArray) (t : FileTree) (targets : List Target) :
    List Location :=
  (dueTargets outside config inputs result t targets).map fun target =>
    (config.targetPath target).place t.workdir

/-- **The places that are written** are those of the targets that are due. -/
lemma writtenPlaces_eq (h : List.Forall₂ (HeaderOf outside config inputs result t) targets staged) :
    writtenPlaces t.workdir staged = duePlaces outside config inputs result t targets := by
  unfold duePlaces
  induction h with
  | nil => rfl
  | @cons target header targets staged hof _ ih =>
    by_cases hun : header.record.unchanged = true
    · rw [dueTargets, List.filter_cons_of_neg (by simpa using hof.unchanged_iff.1 hun), ← dueTargets,
        ← ih, writtenPlaces, List.filter_cons_of_neg (by simpa using hun)]
      rfl
    · rw [dueTargets, List.filter_cons_of_pos (by simpa using fun h => hun (hof.unchanged_iff.2 h)),
        ← dueTargets, List.map_cons, ← ih, writtenPlaces, List.filter_cons_of_pos (by simpa using hun),
        List.map_cons, hof.path]
      rfl

/-! ## The same headers in one tree -/

/-- **Every header that one list writes the other writes too**, with the same content. -/
def Covers (headers others : List StagedHeader) : Prop :=
  ∀ header ∈ headers, header.record.unchanged = false → ∃ other ∈ others,
    other.record.unchanged = false ∧ other.record.target = header.record.target ∧
      other.record.content = header.record.content

/-- Headers of more targets cover those of fewer. -/
lemma covers_of_headers (h : List.Forall₂ (HeaderOf outside config inputs result t) targets staged)
    (h' : List.Forall₂ (HeaderOf outside config inputs result t) others staged')
    (hmem : ∀ target ∈ targets, target ∈ others) : Covers staged staged' := by
  intro header hheader hch
  obtain ⟨target, htarget, hof⟩ := exists_of_forall₂ h hheader
  obtain ⟨other, hother, hof'⟩ := exists_of_forall₂ h'.flip (hmem target htarget)
  refine ⟨other, hother, ?_, hof'.path.trans hof.path.symm, hof'.text.unique hof.text⟩
  rw [← Bool.not_eq_true, hof'.unchanged_iff, ← hof.unchanged_iff, Bool.not_eq_true]
  exact hch

/-- Covered headers have their directories in the other tree. -/
lemma Covers.within (h : Covers staged staged') (hconf : Configured config staged)
    (hc : Committed t t' staged) (hc' : Committed t t'' staged') : t'.Within t'' := by
  refine ⟨hc'.within.workdir.trans hc.within.workdir.symm, fun l hl => ?_⟩
  by_cases hold : t.DirAt l
  · exact hc'.within.dirAt l hold
  obtain ⟨header, hheader, hch, dir, hdir, -, hlocate⟩ := hc.newDirs l hl hold
  obtain ⟨other, hother, hch', htarget, -⟩ := h header hheader hch
  obtain ⟨target, hpath⟩ := hconf header hheader
  have hreach := (hc'.written other hother hch').1
  rw [htarget, hpath] at hreach
  rw [hpath] at hdir
  obtain ⟨m, hm, hd⟩ := isDir_iff.1 (isDir_of_mem_ancestors (trimmed_targetPath config target) hreach hdir
    (Reaches.of_locate hlocate).usable.nonempty)
  rw [eq_place_of_locate hlocate, hc.within.workdir, ← hc'.within.workdir, ← eq_place_of_locate hm]
  exact hd

/-- **Headers that cover each other leave the same tree.** -/
lemma Covers.same (h : Covers staged staged') (h' : Covers staged' staged)
    (hconf : Configured config staged) (hconf' : Configured config staged')
    (hc : Committed t t' staged) (hc' : Committed t t'' staged') : t'.Same t'' := by
  have hwithin := h.within hconf hc hc'
  have hwithin' := h'.within hconf' hc' hc
  refine ⟨⟨hwithin.workdir, fun l => ⟨hwithin'.dirAt l, hwithin.dirAt l⟩⟩, fun l => ?_⟩
  by_cases hw : Writes t.workdir staged l
  · obtain ⟨header, hheader, hch, rfl⟩ := hw
    obtain ⟨other, hother, hch', htarget, hcontent⟩ := h header hheader hch
    have hfile := (hc'.written other hother hch').2
    rw [htarget, hcontent] at hfile
    rw [hfile, (hc.written header hheader hch).2]
  · rw [hc.others l hw, hc'.others]
    rintro ⟨other, hother, hch, rfl⟩
    obtain ⟨header, hheader, hch', htarget, -⟩ := h' other hother hch
    exact hw ⟨header, hheader, hch', by rw [htarget]⟩

namespace Ran

/-- The headers of a run with other targets. -/
lemma headers_of_withTargets {texts' : List (Path × String)}
    (h : Ran outside (config.withTargets others) inputs result t t' report texts' staged u s) :
    List.Forall₂ (HeaderOf outside config inputs result t) others staged :=
  List.Forall₂.imp (fun _ _ hof => ⟨hof.path, hof.text, hof.accepted, hof.unchanged⟩) h.headers

/-- What is written is apart from temporary files. -/
lemma tidy (h : Ran outside config inputs result t t' report texts staged u s) :
    Tidy t.workdir staged := tidy_of_staged h.headers t.workdir

/-- An entry of a report is the one of a header. -/
lemma exists_header (h : Ran outside config inputs result t t' report texts staged u s)
    {entry : TargetReport} (hentry : entry ∈ report.targets) : ∃ target header, header ∈ staged ∧
      HeaderOf outside config inputs result t target header ∧
      entry = .ofRecord .write target header.record := by
  have hall : List.Forall₂ (fun target entry => ∃ header ∈ staged,
      HeaderOf outside config inputs result t target header ∧
        entry = TargetReport.ofRecord .write target header.record) config.targets report.targets := by
    rw [h.report]
    refine forall₂_ofRecord ?_
    obtain ⟨hlength, hzip⟩ := List.forall₂_iff_zip.1 h.headers
    exact List.forall₂_iff_zip.2 ⟨hlength, fun hmem =>
      ⟨_, (List.of_mem_zip hmem).2, hzip hmem, rfl⟩⟩
  obtain ⟨target, -, header, hheader, hof, rfl⟩ := exists_of_forall₂ hall hentry
  exact ⟨target, header, hheader, hof, rfl⟩

/-- The entries of a report are about the configured targets, in order. -/
lemma map_target (h : Ran outside config inputs result t t' report texts staged u s) :
    report.targets.map TargetReport.target = config.targets := by
  have hall : List.Forall₂ (fun target entry => entry.target = target) config.targets report.targets := by
    rw [h.report]
    exact forall₂_ofRecord (h.headers.imp fun _ _ _ => rfl)
  clear h
  generalize config.targets = targets at hall ⊢
  generalize report.targets = entries at hall ⊢
  induction hall with
  | nil => rfl
  | cons htarget _ ih => rw [List.map_cons, htarget, ih]

/-- **Runs with the same targets leave the same tree.** -/
lemma same {texts' : List (Path × String)} {s' : Commit}
    (h : Ran outside config inputs result t t' report texts staged u s)
    (h' : Ran outside (config.withTargets others) inputs result t t'' report' texts' staged' u' s')
    (hmem : ∀ target, target ∈ others ↔ target ∈ config.targets) : t'.Same t'' :=
  (covers_of_headers h.headers h'.headers_of_withTargets fun target => (hmem target).2).same
    (covers_of_headers h'.headers_of_withTargets h.headers fun target => (hmem target).1)
    (configured_of_headers h.headers) (configured_of_headers h'.headers_of_withTargets) h.committed
    h'.committed

/-- **Runs with the same targets say the same of each.** -/
lemma entry_eq {texts' : List (Path × String)} {s' : Commit} {entry entry' : TargetReport}
    (h : Ran outside config inputs result t t' report texts staged u s)
    (h' : Ran outside (config.withTargets others) inputs result t t'' report' texts' staged' u' s')
    (hentry : entry ∈ report.targets) (hentry' : entry' ∈ report'.targets)
    (htarget : entry.target = entry'.target) : entry = entry' := by
  obtain ⟨target, header, -, hof, rfl⟩ := h.exists_header hentry
  obtain ⟨other, header', -, hof', rfl⟩ := h'.exists_header hentry'
  obtain rfl : target = other := htarget
  have hpath : header.record.target = header'.record.target := hof.path.trans hof'.path.symm
  have hcontent : header.record.content = header'.record.content := hof.text.unique hof'.text
  have hunchanged : header.record.unchanged = header'.record.unchanged := by
    rw [Bool.eq_iff_iff, hof.unchanged, hof'.unchanged, hcontent]
    rfl
  simp [TargetReport.ofRecord, HeaderRecord.digest, hpath, hcontent, hunchanged]

end Ran

end UaHeaders
