import UaHeaders.Proofs.Run.Modes

/-!
# Settings that are blamed before a run or never

The settings of a run are checked before anything else is done. What comes later can fail for many reasons,
but not through the settings: guards are looked at again when schema files are loaded, by the path at which
they are found, and a commit looks again at whether it may write.

## Main definitions

* `UaHeaders.Unblamed` — results that do not blame the settings.

## Main results

* `UaHeaders.RunConfig.validate_of_mem_schemasFor` — the guards of the selected headers are checked.
* `UaHeaders.unblamed_renderTarget`, `UaHeaders.unblamed_stageAll`, `UaHeaders.unblamed_conclude` — the steps
  behind the check.
* `UaHeaders.generate_configuration_iff` — a run blames the settings exactly if its check does.

## Design

Each step has one lemma, which says under what condition it leaves the settings out; a run is put together
from these. No step is followed into what it does to the tree, so nothing is asked of the programs that are
started.
-/

set_option autoImplicit false

namespace UaHeaders

open FileTree Transaction

variable {α β : Type} {outside : Outside} {config : RunConfig} {inputs : Inputs} {t u v : FileTree}
  {programs : Programs} {tx tx' : Transaction} {target : Target} {source : SchemaSource}
  {table : DescriptorTable}

/-! ## Results -/

/-- **A result that does not blame the settings**, though it may be a failure for another reason. -/
def Unblamed (result : Except Failure α) : Prop :=
  ∀ cause, result ≠ .error (.configuration cause)

/-- What succeeds blames nothing. -/
lemma unblamed_ok (a : α) : Unblamed (.ok a : Except Failure α) := by
  intro cause h
  cases h

/-- A failure that has to do with a path does not blame the settings. -/
lemma unblamed_io (path : Path) (cause : Fault) : Unblamed (.error (.io path cause) : Except Failure α) := by
  intro cause' h
  cases h

/-- A failure that is passed on is the same failure. -/
lemma Unblamed.failed {x : Except Failure α} {failure : Failure} (h : Unblamed x)
    (hx : x = .error failure) : Unblamed (.error failure : Except Failure β) := by
  rintro cause ⟨⟩
  exact h cause hx

/-- Two steps do not blame the settings if neither does. -/
lemma Unblamed.bind {x : Except Failure α} {f : α → Except Failure β} (hx : Unblamed x)
    (hf : ∀ a, x = .ok a → Unblamed (f a)) : Unblamed (x >>= f) := by
  rcases x with failure | a
  · exact hx.failed rfl
  · exact hf a rfl

/-- A traversal does not blame the settings if none of its steps does. -/
lemma unblamed_mapM {f : α → Except Failure β} {xs : List α} (h : ∀ x ∈ xs, Unblamed (f x)) :
    Unblamed (xs.mapM f) := by
  induction xs with
  | nil => exact unblamed_ok []
  | cons x xs ih =>
    rw [List.forall_mem_cons] at h
    rw [List.mapM_cons]
    exact h.1.bind fun y _ => (ih h.2).bind fun ys _ => unblamed_ok (y :: ys)

/-! ## The check -/

/-- Settings that pass the check pass it for both registry headers. -/
lemma RunConfig.validateSchemas_of_validate (h : config.validate t = .ok ()) :
    config.validateSchemas .typeRegistry = .ok () ∧ config.validateSchemas .typeConverter = .ok () := by
  unfold validate at h
  split_ifs at h
  · cases h
  · cases h
  · cases h
  · obtain ⟨⟨⟩, hregistry, h⟩ := exists_of_bind_eq_ok h
    obtain ⟨⟨⟩, hconverter, -⟩ := exists_of_bind_eq_ok h
    exact ⟨hregistry, hconverter⟩

/-- **The guards of the selected headers are checked.** -/
lemma RunConfig.validate_of_mem_schemasFor (h : config.validate t = .ok ())
    (htarget : target ∈ config.targets) (hsource : source ∈ config.schemasFor target) :
    source.validate = .ok () := by
  have hchecked : ∀ target, target ∈ config.targets → source ∈ config.schemasFor target →
      config.validateSchemas target = .ok () → source.validate = .ok () := by
    intro target htarget hsource hschemas
    rw [validateSchemas, if_pos (List.contains_iff_mem.2 htarget)] at hschemas
    simp only at hschemas
    split_ifs at hschemas
    exact forM_eq_ok_iff.1 hschemas source hsource
  obtain ⟨hregistry, hconverter⟩ := validateSchemas_of_validate h
  cases target with
  | typeRegistry => exact hchecked _ htarget hsource hregistry
  | typeConverter => exact hchecked _ htarget hsource hconverter
  | attributes => cases hsource
  | nodeIds => cases hsource

/-! ## Rendering -/

/-- A guard that was checked is as good where the file is found. -/
lemma SchemaSource.validate_resolve (h : source.validate = .ok ()) (dir : Path) :
    (source.resolve dir).validate = .ok () := by
  rcases hguard : source.guard with _ | guard
  · rw [validate, show (source.resolve dir).guard = none from hguard]
  · rw [validate, hguard] at h
    rw [validate, show (source.resolve dir).guard = some guard from hguard]
    simp only at h ⊢
    split_ifs at h with hsymbol
    rw [if_pos hsymbol]

/-- **Loading a file with a checked guard** fails only if it cannot be read. -/
lemma SchemaSource.unblamed_load (h : source.validate = .ok ()) (t : FileTree) :
    Unblamed (source.load t) := by
  rw [load, h]
  rcases t.readText source.file with cause | content
  · rintro cause' ⟨⟩
  · exact unblamed_ok _

/-- A registry header with checked guards. -/
lemma unblamed_registryPlan {sources : List SchemaSource}
    (h : ∀ source ∈ sources, source.validate = .ok ()) (exclusions : Exclusions) (t : FileTree) :
    Unblamed (registryPlan config exclusions sources t) := by
  have hload : Unblamed (SchemaSource.loadAll
      (sources.map fun source => source.resolve config.schemaDir) t) := by
    refine unblamed_mapM fun source hsource => ?_
    obtain ⟨given, hgiven, rfl⟩ := List.mem_map.1 hsource
    exact SchemaSource.unblamed_load (SchemaSource.validate_resolve (h given hgiven) _) t
  exact hload.bind fun files _ => unblamed_ok _

/-- A node id table that cannot be had. -/
lemma NodeIdSource.unblamed_content (source : NodeIdSource)
    (fetch : String → String → Except String String) (t : FileTree) :
    Unblamed (source.content fetch t) := by
  cases source with
  | url address userAgent =>
    rw [content]
    rcases fetch address userAgent with reason | text
    · rintro cause ⟨⟩
    · exact unblamed_ok text
  | file path =>
    rw [content]
    rcases t.readText path with reason | text
    · rintro cause ⟨⟩
    · exact unblamed_ok text

/-- A line that is no row of a node id table. -/
lemma NodeIdTable.unblamed_parseRow (row : Nat) (line : String) : Unblamed (parseRow row line) := by
  unfold parseRow
  split
  · split
    · exact unblamed_ok _
    · rintro cause ⟨⟩
  · rintro cause ⟨⟩

/-- A text that is no node id table. -/
lemma NodeIdTable.unblamed_parse (content : String) : Unblamed (parse content) := by
  have hrows : ∀ table row lines, Unblamed (readRows table row lines) := by
    intro table row lines
    induction lines generalizing table row with
    | nil => exact unblamed_ok table
    | cons line lines ih =>
      exact (unblamed_parseRow row line).bind fun record _ => ih (table.push record) (row + 1)
  exact hrows empty 1 _

/-- **Rendering a selected header** does not blame settings that were checked, if the table of descriptors
was accepted. -/
lemma unblamed_renderTarget (hvalid : config.validate t = .ok ())
    (htable : DescriptorTable.ofList inputs.descriptors = .ok table)
    (htarget : target ∈ config.targets) (u : FileTree) :
    Unblamed (renderTarget outside config inputs u target) := by
  have hguards : ∀ source ∈ config.schemasFor target, source.validate = .ok () := fun _ hsource =>
    RunConfig.validate_of_mem_schemasFor hvalid htarget hsource
  have hfragments : Unblamed (targetFragments outside config inputs u target) := by
    cases target with
    | attributes =>
      rw [targetFragments, htable]
      exact unblamed_ok _
    | typeRegistry => exact (unblamed_registryPlan hguards _ u).bind fun _ _ => unblamed_ok _
    | typeConverter => exact (unblamed_registryPlan hguards _ u).bind fun _ _ => unblamed_ok _
    | nodeIds =>
      refine (NodeIdSource.unblamed_content _ _ u).bind fun content _ => ?_
      exact (NodeIdTable.unblamed_parse content).bind fun _ _ => unblamed_ok _
  exact hfragments.bind fun _ _ => unblamed_ok _

/-! ## Staging -/

/-- A formatter that fails is blamed itself. -/
lemma FormatterCommand.unblamed_run (command : FormatterCommand) (programs : Programs) (t : FileTree)
    (path : Path) : Unblamed (command.run programs t path).1 := by
  unfold run
  split
  · rintro cause ⟨⟩
  · split
    · exact unblamed_ok ()
    · rintro cause ⟨⟩

/-- A record is made of two files that are read. -/
lemma Transaction.unblamed_recordOf (t : FileTree) (path temp : Path) :
    Unblamed (recordOf t path temp) := by
  unfold recordOf
  split
  · exact unblamed_io _ _
  · have hprevious : Unblamed (previousContent t path) := by
      unfold previousContent
      split
      · exact unblamed_ok _
      · exact unblamed_ok _
      · exact unblamed_io _ _
    exact hprevious.bind fun _ _ => unblamed_ok _

/-- Filling a temporary file fails through the tree or the formatter. -/
lemma Transaction.unblamed_fill (tx : Transaction) (programs : Programs) (t : FileTree)
    (path temp : Path) (text : String) : Unblamed (tx.fill programs t path temp text).1 := by
  have hformat : ∀ u, Unblamed (tx.format programs u temp).1 := by
    intro u
    unfold format
    split
    · exact FormatterCommand.unblamed_run _ _ _ _
    · exact unblamed_ok ()
  unfold fill
  split
  · exact unblamed_io _ _
  · next u _ =>
    split
    · next failure v hfailed => exact (hformat u).failed (by rw [hfailed])
    · exact unblamed_recordOf _ _ _

/-- Staging a header fails through the tree or the formatter. -/
lemma Transaction.unblamed_stage (tx : Transaction) (programs : Programs) (t : FileTree) (path : Path)
    (text : String) : Unblamed (tx.stage programs t path text).1 := by
  unfold stage
  simp only
  split
  · exact unblamed_io _ _
  · next temp u _ =>
    have hfill := tx.unblamed_fill programs u path temp text
    split
    · next failure v hfailed => exact hfill.failed (by rw [hfailed])
    · exact unblamed_ok _

/-- **Staging headers** does not blame the settings. -/
lemma unblamed_stageAll (programs : Programs) (tx : Transaction) (t : FileTree)
    (headers : List (Path × String)) : Unblamed (stageAll programs tx t headers).1 := by
  induction headers generalizing tx t with
  | nil => exact unblamed_ok tx
  | cons header rest ih =>
    obtain ⟨path, text⟩ := header
    have hstage := tx.unblamed_stage programs t path text
    rw [stageAll]
    rcases htx : tx.stage programs t path text with ⟨failure | next, u⟩
    · exact hstage.failed (by rw [htx])
    · exact ih next u

/-- A transaction that was started to write still writes once its headers are staged. -/
lemma dryRun_of_stageAll {headers : List (Path × String)}
    (h : stageAll programs tx t headers = (.ok tx', u)) : tx'.dryRun = tx.dryRun := by
  have hstage := stageAll_withDryRun programs tx tx.dryRun t headers
  rw [show tx.withDryRun tx.dryRun = tx from rfl, h] at hstage
  obtain ⟨htx, -⟩ := Prod.mk.inj hstage
  rw [Except.ok.inj htx]
  rfl

/-! ## Committing -/

namespace Commit

/-- One step of a commit after another. -/
lemma unblamed_andThen {result : Except Failure Unit × Commit}
    {next : Commit → Except Failure Unit × Commit} (h : Unblamed result.1)
    (hnext : ∀ s, Unblamed (next s).1) : Unblamed (andThen result next).1 := by
  rcases result with ⟨failure | _, s⟩
  · exact h
  · exact hnext s

/-- Making the directories above a target fails through the tree. -/
lemma unblamed_makeParent (s : Commit) (path : Path) : Unblamed (s.makeParent path).1 := by
  unfold makeParent
  split
  · exact unblamed_ok ()
  · split
    · exact unblamed_ok ()
    · simp only
      split
      · exact unblamed_ok ()
      · exact unblamed_io _ _

/-- Copying the permission bits of a target fails through the tree. -/
lemma unblamed_copyMode (s : Commit) (path temp : Path) : Unblamed (s.copyMode path temp).1 := by
  unfold copyMode
  simp only
  split
  · exact unblamed_ok ()
  · exact unblamed_io _ _

/-- Moving aside what a target holds fails through the tree. -/
lemma unblamed_setAside (s : Commit) (path : Path) : Unblamed (s.setAside path).1 := by
  unfold setAside
  split
  · simp only
    split
    · exact unblamed_io _ _
    · split
      · exact unblamed_ok ()
      · exact unblamed_io _ _
  · exact unblamed_ok ()

/-- Moving the new file in fails through the tree. -/
lemma unblamed_moveIn (s : Commit) (path temp : Path) : Unblamed (s.moveIn path temp).1 := by
  unfold moveIn
  split
  · exact unblamed_ok ()
  · exact unblamed_io _ _

/-- **Replacing a target** fails through the tree. -/
lemma unblamed_replace (s : Commit) (path temp : Path) : Unblamed (s.replace path temp).1 := by
  have hsteps := unblamed_andThen (s.unblamed_makeParent path) fun s =>
    unblamed_andThen (s.unblamed_copyMode path temp) fun s =>
      unblamed_andThen (s.unblamed_setAside path) fun s => s.unblamed_moveIn path temp
  unfold replace
  simp only
  split
  · exact unblamed_ok ()
  · next failure s' hfailed => exact hsteps.failed (by rw [hfailed])

/-- Going through staged headers fails through the tree. -/
lemma unblamed_run (s : Commit) (headers : List StagedHeader) : Unblamed (s.run headers).1 := by
  induction headers generalizing s with
  | nil => exact unblamed_ok ()
  | cons header rest ih =>
    have hreplace := s.unblamed_replace header.record.target header.temp
    rw [run]
    split_ifs
    · exact ih _
    · split
      · exact ih _
      · next failure s' hfailed => exact hreplace.failed (by rw [hfailed])

end Commit

/-- **The end of a run** does not blame the settings, if the transaction may write where it has to. -/
lemma unblamed_conclude {mode : RunMode} (h : tx.dryRun = (mode == .check)) (t : FileTree) :
    Unblamed (conclude mode tx t).1 := by
  cases mode with
  | check => exact unblamed_ok _
  | write =>
    have hrun := (Commit.start t).unblamed_run tx.staged
    rw [conclude, Transaction.commit, if_neg (by rw [h]; decide)]
    split
    · exact unblamed_ok _
    · next failure u hfailed => exact hrun.failed (by rw [hfailed])

/-! ## Runs -/

/-- A run whose settings were checked does not blame them.

**Proof sketch.** By the step at which the run fails. The settings were checked first, and no step behind
has a failure of them. -/
lemma unblamed_generate (hvalid : config.validate t = .ok ())
    (htable : DescriptorTable.ofList inputs.descriptors = .ok table) :
    Unblamed (generate outside config inputs t).1 := by
  have hrender : Unblamed (renderAll outside config inputs t) := unblamed_mapM fun target htarget =>
    (unblamed_renderTarget hvalid htable htarget t).bind fun _ _ => unblamed_ok _
  rcases hprepare : prepare outside config inputs t with failure | headers
  · rw [generate_of_prepare_error hprepare]
    rw [prepare, hvalid] at hprepare
    exact hrender.failed hprepare
  · rcases hstage : stageAll outside.programs (start config.formatter (config.mode == .check)) t
      headers with ⟨failure | tx, u⟩
    · have hfailure := unblamed_stageAll outside.programs
        (start config.formatter (config.mode == .check)) t headers
      rw [generate_of_stageAll_failed hprepare hstage]
      exact hfailure.failed (by rw [hstage])
    · have hconclude := unblamed_conclude (dryRun_of_stageAll hstage) u
      rw [generate_of_stageAll_ok hprepare hstage]
      rcases hend : (conclude config.mode tx u).1 with failure | records
      · exact hconclude.failed hend
      · exact unblamed_ok _

/-- **A run blames the settings exactly if its check does**, before anything else is done, once the table of
descriptors was accepted. If the check finds nothing, neither does what comes later: not the loading of a
schema file by the path at which it is found, in whatever tree, not the rendering of a header, and not the end
of a run, whatever was staged and whether it writes or only looks.

**Proof sketch.** The check goes through the guards of all selected headers, and to look for a file in the
directory of schemas does not change its guard. A transaction stays a dry run, or none, while headers are
staged, so a run that commits has not forbidden itself to write. All other failures name a file, a program or
a line. -/
theorem generate_configuration_iff (htable : DescriptorTable.ofList inputs.descriptors = .ok table) :
    (∀ cause, (generate outside config inputs t).1 = .error (.configuration cause) ↔
      config.validate t = .error (.configuration cause)) ∧
    (config.validate t = .ok () →
      Unblamed (generate outside config inputs t).1 ∧
      (∀ target ∈ config.targets, ∀ source ∈ config.schemasFor target, ∀ u,
        Unblamed ((source.resolve config.schemaDir).load u)) ∧
      (∀ target ∈ config.targets, ∀ u, Unblamed (renderTarget outside config inputs u target)) ∧
      ∀ headers tx u v,
        stageAll outside.programs (start config.formatter (config.mode == .check)) u headers =
          (.ok tx, v) → Unblamed (conclude config.mode tx v).1) := by
  constructor
  · intro cause
    rcases hvalid : config.validate t with failure | ⟨⟩
    · have hprepare : prepare outside config inputs t = .error failure := by
        rw [prepare, hvalid]
        rfl
      rw [generate_of_prepare_error hprepare, Except.error.injEq, Except.error.injEq]
    · exact iff_of_false (unblamed_generate hvalid htable cause) (by simp)
  · intro hvalid
    refine ⟨unblamed_generate hvalid htable, fun target htarget source hsource u => ?_,
      fun target htarget u => unblamed_renderTarget hvalid htable htarget u,
      fun headers tx u v hstage => unblamed_conclude (dryRun_of_stageAll hstage) v⟩
    have hguard := RunConfig.validate_of_mem_schemasFor hvalid htarget hsource
    exact SchemaSource.unblamed_load (SchemaSource.validate_resolve hguard _) u

/-- A run that makes a registry header from a file with a guard. -/
def guardedConfig (guard : String) : RunConfig where
  outputRoot := "include"
  schemaDir := "schema"
  targets := [.attributes, .typeRegistry]
  nodeIds := .file "NodeIds.csv"
  typeRegistrySchemas := [{ file := "access.txt", guard := some guard }]

/-- **A guard that is a symbol and one that is none**: the one leads to a file that is missing, the other is
found before. -/
theorem generate_configuration_iff_guard :
    (∃ table, DescriptorTable.ofList oneAttribute.descriptors = .ok table) ∧
      (guardedConfig "UA_ENABLE_DA").validate .empty = .ok () ∧
      (generate bareOutside (guardedConfig "UA_ENABLE_DA") oneAttribute .empty).1 =
        .error (.schemaRead "schema/access.txt" .notFound) ∧
      Unblamed (generate bareOutside (guardedConfig "UA_ENABLE_DA") oneAttribute .empty).1 ∧
      (generate bareOutside (guardedConfig "UA-DA") oneAttribute .empty).1 =
        .error (.configuration (.guardSymbol "UA-DA" "access.txt")) := by
  have htable : DescriptorTable.ofList oneAttribute.descriptors = .ok ⟨oneAttribute.descriptors⟩ := by
    decide +kernel
  have hvalid : (guardedConfig "UA_ENABLE_DA").validate .empty = .ok () := by decide +kernel
  exact ⟨⟨_, htable⟩, hvalid, by decide +kernel, ((generate_configuration_iff htable).2 hvalid).1,
    ((generate_configuration_iff htable).1 _).2 (by decide +kernel)⟩

end UaHeaders
