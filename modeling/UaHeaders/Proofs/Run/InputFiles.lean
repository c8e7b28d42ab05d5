import UaHeaders.Proofs.Files.Joined
import UaHeaders.Run.Generate

/-!
# What a run reads before it stages

Rendering a header looks at the tree through its input files alone: the schema files of a registry header
and the file of a node id table. The check of the settings looks only at whether the output root is a file.
So a run prepares the same headers in every tree in which these are what they were.

## Main definitions

* `UaHeaders.RunConfig.inputFiles` — the files behind a header.
* `UaHeaders.RunConfig.InputsApart` — no input file lies at a place of a header.

## Main results

* `UaHeaders.renderTarget_of_readText` — a header that was rendered is rendered alike where its input files
  are read alike.
* `UaHeaders.RunConfig.validate_of_reaches` — settings that passed pass where a header is reached.
-/

set_option autoImplicit false

namespace UaHeaders

open FileTree

variable {outside : Outside} {config : RunConfig} {inputs : Inputs} {t u : FileTree}
  {target : Target} {text : String} {sources : List SchemaSource}

/-! ## Input files -/

namespace RunConfig

/-- The file of a node id table, if the table comes from one. -/
def nodeIdFiles (config : RunConfig) : List Path :=
  match config.nodeIds with
  | .file path => [path]
  | .url .. => []

/-- **The files behind a header**: the schema files of a registry header, and the file of a table of node
ids. -/
def inputFiles (config : RunConfig) (target : Target) : List Path :=
  (config.schemasFor target).map (fun source => (source.resolve config.schemaDir).file) ++
    if target = .nodeIds then config.nodeIdFiles else []

/-- **No input file lies at a place of a header.** -/
def InputsApart (config : RunConfig) (w : Location) : Prop :=
  ∀ target ∈ config.targets, ∀ file ∈ config.inputFiles target,
    ∀ other ∈ config.targets, file.place w ≠ (config.targetPath other).place w

end RunConfig

/-! ## Rendering -/

/-- A result is reached in the same way where each of its steps succeeds as before. -/
lemma bind_eq_ok_of {α β : Type} {x y : Except Failure α} {f g : α → Except Failure β} {b : β}
    (h : x >>= f = .ok b) (hxy : ∀ a, x = .ok a → y = .ok a)
    (hfg : ∀ a, f a = .ok b → g a = .ok b) : y >>= g = .ok b := by
  rcases x with failure | a
  · simp [bind, Except.bind] at h
  · rw [hxy a rfl]
    exact hfg a h

/-- A schema file that was loaded is loaded alike where it is read alike. -/
lemma SchemaSource.load_of_readText {source : SchemaSource} {schema : SchemaFile}
    (h : source.load t = .ok schema)
    (hread : ∀ text, t.readText source.file = .ok text → u.readText source.file = .ok text) :
    source.load u = .ok schema := by
  refine bind_eq_ok_of h (fun _ hvalid => hvalid) fun _ hload => ?_
  rcases hr : t.readText source.file with cause | text
  · simp [hr] at hload
  · rw [hr] at hload
    rw [hread text hr]
    exact hload

/-- Schema files that were loaded are loaded alike where they are read alike. -/
lemma SchemaSource.loadAll_of_readText {schemas : List SchemaFile}
    (h : loadAll sources t = .ok schemas)
    (hread : ∀ source ∈ sources, ∀ text, t.readText source.file = .ok text →
      u.readText source.file = .ok text) : loadAll sources u = .ok schemas := by
  unfold loadAll at h ⊢
  induction sources generalizing schemas with
  | nil => exact h
  | cons source rest ih =>
    obtain ⟨hsource, hrest⟩ := List.forall_mem_cons.1 hread
    rw [List.mapM_cons] at h ⊢
    refine bind_eq_ok_of h (fun _ hload => load_of_readText hload hsource) fun _ h' => ?_
    exact bind_eq_ok_of h' (fun _ hloads => ih hloads hrest) fun _ hdone => hdone

/-- The plan of a registry header is the same where its schema files are read alike. -/
lemma registryPlan_of_readText {exclusions : Exclusions} {plan : RegistryPlan}
    (h : registryPlan config exclusions sources t = .ok plan)
    (hread : ∀ source ∈ sources, ∀ text,
      t.readText (source.resolve config.schemaDir).file = .ok text →
      u.readText (source.resolve config.schemaDir).file = .ok text) :
    registryPlan config exclusions sources u = .ok plan :=
  bind_eq_ok_of h
    (fun _ hload => SchemaSource.loadAll_of_readText hload (List.forall_mem_map.2 hread))
    fun _ hplan => hplan

/-- The text of a node id table is the same where its file is read alike. -/
lemma NodeIdSource.content_of_readText {fetch : String → String → Except String String}
    (h : config.nodeIds.content fetch t = .ok text)
    (hread : ∀ file ∈ config.nodeIdFiles, ∀ text, t.readText file = .ok text →
      u.readText file = .ok text) : config.nodeIds.content fetch u = .ok text := by
  unfold RunConfig.nodeIdFiles at hread
  rcases hsource : config.nodeIds with ⟨address, agent⟩ | file
  · rw [hsource] at h
    exact h
  · simp only [hsource, content] at h hread ⊢
    rcases hr : t.readText file with cause | content
    · simp [hr] at h
    · rw [hr] at h
      rw [hread file (List.mem_singleton.2 rfl) content hr]
      exact h

/-- **A header that was rendered is rendered alike** where its input files are read alike.

**Proof sketch.** Target by target. Rendering reads nothing but the schema files of the target and the
table of node ids, and these are its input files. -/
lemma renderTarget_of_readText (h : renderTarget outside config inputs t target = .ok text)
    (hread : ∀ file ∈ config.inputFiles target, ∀ text, t.readText file = .ok text →
      u.readText file = .ok text) : renderTarget outside config inputs u target = .ok text := by
  have hschemas : ∀ source ∈ config.schemasFor target, ∀ text,
      t.readText (source.resolve config.schemaDir).file = .ok text →
      u.readText (source.resolve config.schemaDir).file = .ok text :=
    fun source hsource => hread _ (List.mem_append_left _ (List.mem_map_of_mem hsource))
  refine bind_eq_ok_of h (fun fragments hfragments => ?_) fun _ hassemble => hassemble
  cases target with
  | attributes => exact hfragments
  | typeRegistry | typeConverter =>
    exact bind_eq_ok_of hfragments (fun _ hplan => registryPlan_of_readText hplan hschemas)
      fun _ hdone => hdone
  | nodeIds =>
    have hfiles : ∀ file ∈ config.nodeIdFiles, ∀ text, t.readText file = .ok text →
        u.readText file = .ok text :=
      fun file hfile => hread file (List.mem_append_right _ (by rwa [if_pos rfl]))
    exact bind_eq_ok_of hfragments
      (fun _ hcontent => NodeIdSource.content_of_readText hcontent hfiles) fun _ hdone => hdone

/-! ## The check of the settings -/

/-- Where a path goes on from another one, that one is no file. -/
lemma FileTree.isFile_of_reaches_join {root rest : Path} (hrest : rest.isAbsolute = false)
    (h : t.Reaches (root.join rest)) : t.isFile root = false := by
  by_contra hfile
  obtain ⟨l, f, hl, hf⟩ := isFile_iff.1 (by simpa using hfile)
  obtain ⟨husable, hwalk⟩ := locate_eq_ok_iff_foldlM.1 hl
  have hjoin := (locate_eq_ok_iff_foldlM.1 h).2
  rw [foldlM_step_join husable.nonempty hrest hwalk] at hjoin
  -- the first step behind the path asks for a directory
  rcases hsegments : rest.segments with _ | ⟨c, cs⟩
  · simp [Path.segments] at hsegments
  rw [hsegments, List.foldlM_cons] at hjoin
  rcases hstep : t.step l c with cause | m
  · simp [hstep, bind, Except.bind] at hjoin
  · exact not_dirAt_of_file? hf (step_eq_ok_iff.1 hstep).1

/-- The path of a header starts at the output root. -/
lemma Target.isAbsolute_relativePath (target : Target) : target.relativePath.isAbsolute = false := by
  cases target <;> decide

/-- Settings that pass the check select a header. -/
lemma RunConfig.exists_target (h : config.validate t = .ok ()) : ∃ target, target ∈ config.targets := by
  refine List.exists_mem_of_ne_nil _ fun hnil => ?_
  simp [validate, hnil, bind, Except.bind, throw, throwThe, MonadExceptOf.throw] at h

/-- **Settings that passed the check pass it** where a header is reached: the output root is no file. -/
lemma RunConfig.validate_of_reaches (h : config.validate t = .ok ())
    (hr : u.Reaches (config.targetPath target)) : config.validate u = .ok () := by
  have hu : u.isFile config.outputRoot = false :=
    isFile_of_reaches_join target.isAbsolute_relativePath hr
  unfold validate at h ⊢
  rcases ht : t.isFile config.outputRoot
  · rwa [hu, ← ht]
  · by_cases hempty : config.targets.isEmpty = true <;>
      simp [hempty, ht, bind, Except.bind, throw, throwThe, MonadExceptOf.throw] at h

end UaHeaders
