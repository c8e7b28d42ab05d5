import UaHeaders.Proofs.Attribute.Accessors
import UaHeaders.Proofs.NodeIds.Picture
import UaHeaders.Proofs.Registry.Plans
import UaHeaders.Run.Generate

/-!
# What is rendered keeps the frame

Whatever stands in the tables that a header is rendered from, its frame stays whole: the names of a
schema file, the names in a node id table and the texts of descriptors come into lines that no line of a
frame looks like.

## Main definitions

* `UaHeaders.Rendered` — the fragments that may be rendered for a target.

## Main results

* `UaHeaders.RegistryPlan.forall_fragment` — the blocks of a plan cannot break a frame.
* `UaHeaders.Rendered.forall_fragment` — nor can anything that is rendered.
* `UaHeaders.rendered_of_targetFragments` — the fragments of a run are rendered.
* `UaHeaders.framed_of_rendered` — a header is its frame around what was rendered.

## Design

Names in schema files and in node id tables are any text of one line. Nothing has to be asked of them,
since reading a file by lines keeps line ends out of its names. The texts of descriptors do not come from
lines, so that it has to be asked of them.
-/

set_option autoImplicit false

namespace UaHeaders

open Text

variable {target : Target} {macroName : String} {fragments : List String} {block : RegistryBlock}
  {files : List SchemaFile} {exclusions : Exclusions}

/-! ## Registry blocks -/

/-- A conditional is no frame line. -/
lemma isFrameLine_conditional (rest : String) :
    isFrameLine ("#ifdef " ++ rest) = false ∧ isFrameLine ("#endif  // " ++ rest) = false := by
  constructor
  · simp [isFrameLine, hasPrefix, List.isPrefixOf]
  · simp [isFrameLine, hasPrefix, List.isPrefixOf]

/-- **No line of a block is a frame line.** -/
lemma RegistryBlock.Fit.isFrameLine_lines (h : block.Fit) (hreg : IsRegistryMacro macroName) :
    ∀ l ∈ block.lines macroName, isFrameLine l = false := by
  have hbody : ∀ l ∈ block.bodyLines macroName, isFrameLine l = false := by
    rw [RegistryBlock.bodyLines, List.forall_mem_flatMap]
    intro name _
    simp only [Registration.lines_ofIdentifier, List.forall_mem_cons]
    exact ⟨(isFrameLine_conditional _).1,
      isFrameLine_of_head (head?_registrationLine hreg name) (by decide), by decide, by simp⟩
  rw [RegistryBlock.lines_eq h]
  rcases block.guard with _ | guard
  · exact hbody
  · simp only [List.cons_append, List.forall_mem_cons, List.forall_mem_append]
    exact ⟨(isFrameLine_conditional guard).1, hbody, (isFrameLine_conditional guard).2, by simp⟩

/-- **The blocks of a plan cannot break a frame.** -/
lemma RegistryPlan.forall_fragment (hreg : IsRegistryMacro macroName)
    (hnames : ∀ file ∈ files, ∀ name ∈ file.identifiers, OneLine name)
    (hguards : ∀ file ∈ files, ∀ guard ∈ file.guard, isIdentifier guard = true) :
    ∀ part ∈ (RegistryPlan.build files exclusions).fragments macroName, Fragment part := by
  rw [RegistryPlan.fragments, List.forall_mem_map]
  intro block hblock
  have hfit := (fit_of_mem_build hnames hguards hblock).1
  obtain ⟨hparagraph, hlines, hbare⟩ := hfit.paragraph hreg
  rw [hparagraph.trimNewlines]
  refine ⟨hparagraph, fun l hl => ?_, fun l hl => ?_, ?_⟩
  · rw [hlines] at hl
    exact hbare l (List.mem_of_head? hl)
  · rw [hlines] at hl
    exact hbare l (List.mem_of_getLast? hl)
  · rw [hlines]
    exact hfit.isFrameLine_lines hreg

/-! ## What may be rendered -/

/-- **The fragments that may be rendered for a target**, from any tables that are accepted. -/
inductive Rendered : Target → List String → Prop
  /-- The accessors of descriptors whose texts are lines. -/
  | attributes {ds : List Descriptor} {table : DescriptorTable} :
      DescriptorTable.ofList ds = .ok table → (∀ d ∈ ds, d.Unbroken) →
      Rendered .attributes table.fragments
  /-- The blocks of schema files whose guards are symbols. -/
  | registry {target : Target} {macroName : String} (given : List (SchemaSource × String))
      (exclusions : Exclusions) :
      target.registryMacro? = some macroName →
      (∀ source ∈ given, source.1.validate = .ok ()) →
      Rendered target ((RegistryPlan.build (parsedFiles given) exclusions).fragments macroName)
  /-- The enumerations of a node id table. -/
  | nodeIds {content : String} {table : NodeIdTable} :
      NodeIdTable.parse content = .ok table → Rendered .nodeIds table.fragments

/-- **What is rendered cannot break a frame.** -/
lemma Rendered.forall_fragment (h : Rendered target fragments) :
    ∀ part ∈ fragments, Fragment part := by
  cases h with
  | attributes htable hds => exact DescriptorTable.fragment_of_ofList htable hds
  | registry given exclusions htarget hvalid =>
    refine RegistryPlan.forall_fragment (isRegistryMacro_of_target htarget) ?_ ?_
    · rw [parsedFiles, List.forall_mem_map]
      exact fun source _ name hname => (SchemaFile.oneLine_of_mem hname).1
    · rw [parsedFiles, List.forall_mem_map]
      exact fun source hsource guard hguard => isIdentifier_of_validate (hvalid source hsource) hguard
  | nodeIds htable => exact NodeIdTable.fragment_of_parse htable

/-- The frame lines of a header are different lines. -/
lemma nodup_frameLines (target : Target) :
    (target.skeleton.linesAbove ++ target.skeleton.linesBelow).Nodup := by
  cases target with
  | attributes => decide
  | typeRegistry => decide
  | typeConverter => decide
  | nodeIds => decide

/-- **What is rendered for a header keeps its frame.** Whatever the tables say, the lines of the header are
those of the frame and those of the fragments, with one empty line between; each frame line of the
skeleton is there once and the body has none; and the namespace and the fences enclose the body.

**Proof sketch.** The fragments of each target have no lines that begin like a frame line: the lines of
accessors and enumerations are those of their templates, and a registry has nothing but conditionals and
calls of its macro. So no fragment can break the frame. -/
theorem framed_of_rendered (h : Rendered target fragments) :
    Framed target.skeleton fragments (target.skeleton.assemble fragments) :=
  (Target.regular_skeleton target).framed (nodup_frameLines target) h.forall_fragment

/-- A table whose names look like frame lines. -/
def forgeries : NodeIdTable :=
  ⟨[("Object", [⟨"\x7d  // namespace opcua", 1, "Object"⟩]),
    ("Method", [⟨"// clang-format on", 2, "Method"⟩]),
    ("DataType", [⟨"#pragma once", 3, "DataType"⟩])], by decide⟩

/-- **Names that look like frame lines** forge none. -/
theorem framed_of_rendered_forgeries :
    Rendered .nodeIds forgeries.fragments ∧
    Framed Target.nodeIds.skeleton forgeries.fragments
      (Target.nodeIds.skeleton.assemble forgeries.fragments) := by
  have hparse : NodeIdTable.parse ("\x7d  // namespace opcua,1,Object\n" ++
      "// clang-format on,2,Method\n#pragma once,3,DataType\n") = .ok forgeries := by rfl
  exact ⟨.nodeIds hparse, framed_of_rendered (.nodeIds hparse)⟩

/-! ## Headers of runs -/

/-- Schema files that were read are files with some text, whose guards were checked. -/
lemma exists_given_of_loadAll {sources : List SchemaSource} {t : FileTree}
    (h : SchemaSource.loadAll sources t = .ok files) :
    ∃ given : List (SchemaSource × String), files = parsedFiles given ∧
      ∀ source ∈ given, source.1.validate = .ok () := by
  have hload : List.Forall₂ (fun source file => SchemaSource.load source t = .ok file) sources files :=
    forall₂_of_mapM h
  clear h
  induction hload with
  | nil => exact ⟨[], rfl, by simp⟩
  | @cons source file sources files hfile _ ih =>
    obtain ⟨given, rfl, hgiven⟩ := ih
    rw [SchemaSource.load] at hfile
    rcases hvalid : source.validate with failure | _
    · simp [hvalid, bind, Except.bind] at hfile
    rcases htext : t.readText source.file with cause | content
    · simp [hvalid, htext, bind, Except.bind] at hfile
    obtain rfl : SchemaFile.parse source content = file := by
      simpa [hvalid, htext, bind, Except.bind] using hfile
    refine ⟨(source, content) :: given, rfl, ?_⟩
    rw [List.forall_mem_cons]
    exact ⟨hvalid, hgiven⟩

/-- The blocks of a run are rendered. -/
lemma rendered_of_registryPlan {config : RunConfig} {sources : List SchemaSource} {t : FileTree}
    {plan : RegistryPlan} (htarget : target.registryMacro? = some macroName)
    (h : registryPlan config exclusions sources t = .ok plan) :
    Rendered target (plan.fragments macroName) := by
  rw [registryPlan] at h
  rcases hload : SchemaSource.loadAll (sources.map fun source => source.resolve config.schemaDir) t
    with failure | files
  · simp [hload, bind, Except.bind] at h
  obtain ⟨given, rfl, hvalid⟩ := exists_given_of_loadAll hload
  obtain rfl : RegistryPlan.build ((parsedFiles given).map exclusions.apply) exclusions = plan := by
    simpa [hload, bind, Except.bind, pure, Except.pure] using h
  rw [build_eq_build_iff.2 (Alike.map_apply exclusions (parsedFiles given))]
  exact .registry given exclusions htarget hvalid

/-- **The fragments of a run are rendered**, if the texts of its descriptors are lines.

**Proof sketch.** Target by target. If the fragments came out, every step before them did, and what the
steps read is what they are rendered of. -/
lemma rendered_of_targetFragments {outside : Outside} {config : RunConfig} {inputs : Inputs}
    {t : FileTree} (hds : ∀ d ∈ inputs.descriptors, d.Unbroken)
    (h : targetFragments outside config inputs t target = .ok fragments) :
    Rendered target fragments := by
  cases target with
  | attributes =>
    rcases htable : DescriptorTable.ofList inputs.descriptors with failure | table
    · simp [targetFragments, htable, bind, Except.bind] at h
    obtain rfl : table.fragments = fragments := by
      simpa [targetFragments, htable, bind, Except.bind, pure, Except.pure] using h
    exact .attributes htable hds
  | typeRegistry =>
    rcases hplan : registryPlan config inputs.exclusions config.typeRegistrySchemas t
      with failure | plan
    · simp [targetFragments, hplan, bind, Except.bind] at h
    obtain rfl : plan.fragments typeRegistryMacro = fragments := by
      simpa [targetFragments, hplan, bind, Except.bind, pure, Except.pure] using h
    exact rendered_of_registryPlan rfl hplan
  | typeConverter =>
    rcases hplan : registryPlan config inputs.exclusions config.typeConverterSchemas t
      with failure | plan
    · simp [targetFragments, hplan, bind, Except.bind] at h
    obtain rfl : plan.fragments typeConverterMacro = fragments := by
      simpa [targetFragments, hplan, bind, Except.bind, pure, Except.pure] using h
    exact rendered_of_registryPlan rfl hplan
  | nodeIds =>
    rcases hcontent : config.nodeIds.content outside.fetch t with failure | content
    · simp [targetFragments, hcontent, bind, Except.bind] at h
    rcases htable : NodeIdTable.parse content with failure | table
    · simp [targetFragments, hcontent, htable, bind, Except.bind] at h
    obtain rfl : table.fragments = fragments := by
      simpa [targetFragments, hcontent, htable, bind, Except.bind, pure, Except.pure] using h
    exact .nodeIds htable

/-- **A header that a run renders keeps its frame**, if the texts of the descriptors are lines. -/
theorem framed_of_renderTarget {outside : Outside} {config : RunConfig} {inputs : Inputs}
    {t : FileTree} {text : String} (hds : ∀ d ∈ inputs.descriptors, d.Unbroken)
    (h : renderTarget outside config inputs t target = .ok text) :
    ∃ fragments, targetFragments outside config inputs t target = .ok fragments ∧
      Framed target.skeleton fragments text := by
  rw [renderTarget] at h
  rcases hfragments : targetFragments outside config inputs t target with failure | fragments
  · simp [hfragments, bind, Except.bind] at h
  obtain rfl : target.skeleton.assemble fragments = text := by
    simpa [hfragments, bind, Except.bind, pure, Except.pure] using h
  exact ⟨fragments, rfl, (Target.regular_skeleton target).framed (nodup_frameLines target)
    (rendered_of_targetFragments hds hfragments).forall_fragment⟩

end UaHeaders
