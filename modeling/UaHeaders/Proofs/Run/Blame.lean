import UaHeaders.Proofs.Run.Staged

/-!
# The failure that a run reports

A run goes through its steps in a fixed order: the check of the settings, what it takes to render each
header, and the staging of each header. It reports the failure of the first step that fails, and leaves
the tree as it was.

## Main definitions

* `UaHeaders.preparationSteps` — how the steps before staging end.
* `UaHeaders.runSteps` — how all steps before the commit end.

## Main results

* `UaHeaders.firstFailure_renderSteps` — rendering fails as its first failing step.
* `UaHeaders.same_of_stageAll_error` — staging that fails leaves the tree as it was.
* `UaHeaders.generate_first_failure` — a run fails as its first failing step.

## Design

A step is listed by what went wrong in it, if anything did. The lists say how each step ends by itself, in
the state in which the steps before it would leave the tree; they do not stop at a failure. Only the
theorem says that a run stops there.
-/

set_option autoImplicit false

namespace UaHeaders

open FileTree Transaction FormatterCommand

variable {outside : Outside} {config : RunConfig} {inputs : Inputs} {t t' u : FileTree}
  {programs : Programs} {tx : Transaction} {failure : Failure} {headers : List (Path × String)}

/-! ## Steps -/

/-- What went wrong, if anything did. -/
def failure? {α : Type} : Except Failure α → Option Failure
  | .error failure => some failure
  | .ok _ => none

/-- The first thing that went wrong in some steps. -/
def firstFailure (steps : List (Option Failure)) : Option Failure := steps.findSome? id

/-- The steps of a registry header: its schema files are loaded in order. -/
def schemaSteps (config : RunConfig) (sources : List SchemaSource) (t : FileTree) :
    List (Option Failure) :=
  sources.map fun source => failure? ((source.resolve config.schemaDir).load t)

/-- The steps of a node id table: it is read, and its rows are, from the first on. -/
def tableSteps (outside : Outside) (config : RunConfig) (t : FileTree) : List (Option Failure) :=
  match config.nodeIds.content outside.fetch t with
  | .error failure => [some failure]
  | .ok content =>
    none :: ((Text.lines content).zipIdx 1).map fun line =>
      failure? (NodeIdTable.parseRow line.2 line.1)

/-- **The steps of rendering one header.** -/
def renderSteps (outside : Outside) (config : RunConfig) (inputs : Inputs) (t : FileTree) :
    Target → List (Option Failure)
  | .attributes => [failure? (DescriptorTable.ofList inputs.descriptors)]
  | .typeRegistry => schemaSteps config config.typeRegistrySchemas t
  | .typeConverter => schemaSteps config config.typeConverterSchemas t
  | .nodeIds => tableSteps outside config t

/-- **The steps before staging**: the check of the settings, and rendering every header in order. -/
def preparationSteps (outside : Outside) (config : RunConfig) (inputs : Inputs) (t : FileTree) :
    List (Option Failure) :=
  failure? (config.validate t) :: config.targets.flatMap (renderSteps outside config inputs t)

/-- The stages of some headers, one after another. -/
def stageSteps (programs : Programs) (s : Transaction × FileTree) :
    List (Path × String) → List (Option Failure)
  | [] => []
  | header :: rest =>
    failure? (s.1.stage programs s.2 header.1 header.2).1 ::
      stageSteps programs (withHeader programs s header.1 header.2) rest

/-- **The steps of a run before its commit.** There is nothing to stage unless all headers are
rendered. -/
def runSteps (outside : Outside) (config : RunConfig) (inputs : Inputs) (t : FileTree) :
    List (Option Failure) :=
  preparationSteps outside config inputs t ++
    match renderAll outside config inputs t with
    | .ok headers =>
      stageSteps outside.programs (start config.formatter (config.mode == .check), t) headers
    | .error _ => []

/-! ## The first failure -/

/-- The first failure of two lists of steps. -/
lemma firstFailure_append (steps more : List (Option Failure)) :
    firstFailure (steps ++ more) = (firstFailure steps).or (firstFailure more) :=
  List.findSome?_append

/-- The first failure of a step and those behind it. -/
lemma firstFailure_cons (step : Option Failure) (steps : List (Option Failure)) :
    firstFailure (step :: steps) = step.or (firstFailure steps) := by
  cases step <;> rfl

/-- The first failure, with what stands before it. -/
lemma firstFailure_eq_some {before after : List (Option Failure)}
    (h : ∀ step ∈ before, step = none) : firstFailure (before ++ some failure :: after) = some failure :=
  List.findSome?_eq_some_iff.2 ⟨before, some failure, after, rfl, rfl, h⟩

/-- Nothing went wrong when every step went well. -/
lemma firstFailure_eq_none_iff {steps : List (Option Failure)} :
    firstFailure steps = none ↔ ∀ step ∈ steps, step = none :=
  List.findSome?_eq_none_iff

/-- Something follows only what went well. -/
lemma failure?_bind {α β : Type} (x : Except Failure α) (f : α → Except Failure β) :
    failure? (x >>= f) =
      match x with
      | .error failure => some failure
      | .ok a => failure? (f a) := by
  cases x <;> rfl

/-- What is made of a result does not fail. -/
lemma failure?_map {α β : Type} (x : Except Failure α) (f : α → β) :
    failure? (do return f (← x)) = failure? x := by
  cases x <;> rfl

/-- **A traversal fails as the first member that fails.** -/
lemma firstFailure_map {α β : Type} (f : α → Except Failure β) (xs : List α) :
    firstFailure (xs.map fun x => failure? (f x)) = failure? (xs.mapM f) := by
  induction xs with
  | nil => rfl
  | cons x xs ih =>
    rw [List.map_cons, firstFailure_cons, ih, List.mapM_cons]
    rcases hx : f x with cause | y
    · rfl
    · rcases hxs : xs.mapM f with cause | ys <;> rfl

/-- The first failure of many lists of steps is the first of their first failures. -/
lemma firstFailure_flatMap {α : Type} (f : α → List (Option Failure)) (xs : List α) :
    firstFailure (xs.flatMap f) = firstFailure (xs.map fun x => firstFailure (f x)) := by
  induction xs with
  | nil => rfl
  | cons x xs ih =>
    rw [List.flatMap_cons, firstFailure_append, ih, List.map_cons, firstFailure_cons]

/-! ## Rendering -/

/-- **A table fails as its first malformed row.** -/
lemma firstFailure_rows (table : NodeIdTable) (row : Nat) (lines : List String) :
    firstFailure ((lines.zipIdx row).map fun line => failure? (NodeIdTable.parseRow line.2 line.1)) =
      failure? (table.readRows row lines) := by
  induction lines generalizing table row with
  | nil => rfl
  | cons line lines ih =>
    rw [List.zipIdx_cons, List.map_cons, firstFailure_cons, NodeIdTable.readRows]
    rcases NodeIdTable.parseRow row line with cause | record
    · rfl
    · exact ih (table.push record) (row + 1)

/-- A registry header fails as the first of its schema files. -/
lemma firstFailure_schemaSteps (sources : List SchemaSource) (exclusions : Exclusions) :
    firstFailure (schemaSteps config sources t) =
      failure? (registryPlan config exclusions sources t) := by
  rw [schemaSteps, registryPlan, failure?_map, SchemaSource.loadAll, ← firstFailure_map,
    List.map_map]
  rfl

/-- **Rendering a header fails as its first failing step.**

**Proof sketch.** Target by target. Assembling cannot fail, so the failure is that of the fragments. -/
lemma firstFailure_renderSteps (target : Target) :
    firstFailure (renderSteps outside config inputs t target) =
      failure? (renderTarget outside config inputs t target) := by
  rw [renderTarget, failure?_map]
  cases target with
  | attributes =>
    rw [renderSteps, targetFragments, failure?_map, firstFailure_cons]
    exact Option.or_none
  | typeRegistry =>
    rw [renderSteps, targetFragments, failure?_map]
    exact firstFailure_schemaSteps _ _
  | typeConverter =>
    rw [renderSteps, targetFragments, failure?_map]
    exact firstFailure_schemaSteps _ _
  | nodeIds =>
    rw [renderSteps, targetFragments, tableSteps, failure?_bind]
    rcases config.nodeIds.content outside.fetch t with cause | content
    · rfl
    · simp only
      rw [failure?_map, NodeIdTable.parse, firstFailure_cons, firstFailure_rows, Option.none_or]

/-! ## Staging -/

/-- **Staging fails as the first stage that fails.** -/
lemma firstFailure_stageSteps (programs : Programs) (tx : Transaction) (t : FileTree)
    (headers : List (Path × String)) :
    firstFailure (stageSteps programs (tx, t) headers) =
      failure? (stageAll programs tx t headers).1 := by
  induction headers generalizing tx t with
  | nil => rfl
  | cons header rest ih =>
    obtain ⟨target, text⟩ := header
    rw [stageSteps, firstFailure_cons, stageAll]
    rcases hs : tx.stage programs t target text with ⟨cause | next, u⟩ <;>
      simp only [withHeader, hs]
    · rfl
    · exact ih next u

/-- **Staging that fails leaves the tree as it was**: the temporary files of the stages that went well are
taken away. -/
lemma same_of_stageAll_error (hf : ∀ command ∈ tx.formatter, command.Confined programs)
    (hr : Ready t u tx.staged) (h : stageAll programs tx u headers = (.error failure, t')) :
    t.Same t' := by
  induction headers generalizing tx u with
  | nil => simp [stageAll] at h
  | cons header rest ih =>
    obtain ⟨target, text⟩ := header
    rw [stageAll] at h
    obtain ⟨cause, v, hstage, hsame⟩ | ⟨temp, l, record, v, hadds⟩ := stage_cases hf u target text
    · simp only [hstage, Prod.mk.injEq] at h
      rw [← h.2]
      exact (hr.same hsame).same_dropTemps
    · simp only [hadds.eq] at h
      have hready := hr.add hadds.tempAt
      exact @ih v { tx with staged := tx.staged ++ [⟨record, temp⟩] } hf hready h

/-! ## Runs -/

/-- What a run stages: it is checked and all its headers are rendered. -/
def prepare (outside : Outside) (config : RunConfig) (inputs : Inputs) (t : FileTree) :
    Except Failure (List (Path × String)) :=
  config.validate t >>= fun _ => renderAll outside config inputs t

/-- **The steps before staging fail** as the preparation of the run does. -/
lemma firstFailure_preparationSteps :
    firstFailure (preparationSteps outside config inputs t) =
      failure? (prepare outside config inputs t) := by
  have hrender : firstFailure (config.targets.flatMap (renderSteps outside config inputs t)) =
      failure? (renderAll outside config inputs t) := by
    simp only [firstFailure_flatMap, firstFailure_renderSteps]
    rw [renderAll, ← firstFailure_map]
    simp only [failure?_map]
  rw [preparationSteps, firstFailure_cons, hrender, prepare, failure?_bind]
  rcases config.validate t with cause | checked <;> rfl

/-- **The steps of a run fail** as its preparation does, or else as staging does. -/
lemma firstFailure_runSteps :
    firstFailure (runSteps outside config inputs t) =
      match prepare outside config inputs t with
      | .error failure => some failure
      | .ok headers => failure? (stageAll outside.programs
          (start config.formatter (config.mode == .check)) t headers).1 := by
  rw [runSteps, firstFailure_append, firstFailure_preparationSteps, prepare]
  rcases config.validate t with cause | checked
  · rfl
  · rcases renderAll outside config inputs t with cause | headers
    · rfl
    · exact firstFailure_stageSteps _ _ _ _

/-- A run whose preparation fails ends with that failure, and has done nothing. -/
lemma generate_of_prepare_error (h : prepare outside config inputs t = .error failure) :
    generate outside config inputs t = (.error failure, t) := by
  unfold prepare at h
  unfold generate
  rw [h]

/-- A run whose headers are staged ends as its mode says. -/
lemma generate_of_stageAll_ok {tx : Transaction}
    (h : prepare outside config inputs t = .ok headers)
    (hstage : stageAll outside.programs (start config.formatter (config.mode == .check)) t headers =
      (.ok tx, u)) :
    generate outside config inputs t =
      ((conclude config.mode tx u).1.map (Report.ofRecords config.mode config.targets),
        (conclude config.mode tx u).2) := by
  unfold prepare at h
  unfold generate
  simp only [h, hstage]
  rcases conclude config.mode tx u with ⟨failure | records, v⟩ <;> rfl

/-- A run whose staging fails ends with that failure, where staging has left the tree. -/
lemma generate_of_stageAll_failed (h : prepare outside config inputs t = .ok headers)
    (hstage : stageAll outside.programs (start config.formatter (config.mode == .check)) t headers =
      (.error failure, u)) :
    generate outside config inputs t = (.error failure, u) := by
  unfold prepare at h
  unfold generate
  simp only [h, hstage]

/-- A run whose staging fails ends with that failure, and has put the tree back. -/
lemma generate_of_stageAll_error
    (hf : ∀ command ∈ config.formatter, command.Confined outside.programs)
    (h : prepare outside config inputs t = .ok headers)
    (hstage : stageAll outside.programs (start config.formatter (config.mode == .check)) t headers =
      (.error failure, u)) :
    generate outside config inputs t = (.error failure, u) ∧ t.Same u :=
  ⟨generate_of_stageAll_failed h hstage, same_of_stageAll_error hf (.nil t) hstage⟩

/-- A run some of whose steps fail fails as the first of them, and leaves the tree as it was. -/
lemma generate_of_firstFailure
    (hf : ∀ command ∈ config.formatter, command.Confined outside.programs)
    (h : firstFailure (runSteps outside config inputs t) = some failure) :
    (generate outside config inputs t).1 = .error failure ∧
      t.Same (generate outside config inputs t).2 := by
  rw [firstFailure_runSteps] at h
  rcases hprepare : prepare outside config inputs t with cause | headers
  · obtain rfl : cause = failure := by simpa [hprepare] using h
    rw [generate_of_prepare_error hprepare]
    exact ⟨rfl, .refl t⟩
  · rcases hstage : stageAll outside.programs (start config.formatter (config.mode == .check)) t
      headers with ⟨cause | tx, u⟩
    · obtain rfl : cause = failure := by simpa [hprepare, hstage, failure?] using h
      obtain ⟨hrun, hsame⟩ := generate_of_stageAll_error hf hprepare hstage
      rw [hrun]
      exact ⟨rfl, hsame⟩
    · simp [hprepare, hstage, failure?] at h

/-- A run some of whose steps before staging fail fails as the first of them, whatever programs there are. -/
lemma generate_of_firstFailure_preparationSteps
    (h : firstFailure (preparationSteps outside config inputs t) = some failure)
    (programs : Programs) :
    generate ⟨programs, outside.fetch⟩ config inputs t = (.error failure, t) := by
  rw [firstFailure_preparationSteps] at h
  rcases hprepare : prepare outside config inputs t with cause | headers
  · obtain rfl : cause = failure := by simpa [hprepare, failure?] using h
    -- the preparation does not look at the programs
    exact generate_of_prepare_error
      (show prepare ⟨programs, outside.fetch⟩ config inputs t = .error cause from hprepare)
  · simp [hprepare, failure?] at h

/-- **A run gets to its commit** exactly when no step fails. -/
lemma firstFailure_runSteps_eq_none_iff :
    firstFailure (runSteps outside config inputs t) = none ↔
      ∃ headers tx u, config.validate t = .ok () ∧
        renderAll outside config inputs t = .ok headers ∧
        stageAll outside.programs (start config.formatter (config.mode == .check)) t headers =
          (.ok tx, u) := by
  rw [firstFailure_runSteps, prepare]
  constructor
  · intro hnone
    rcases hvalid : config.validate t with cause | checked
    · simp [hvalid, bind, Except.bind] at hnone
    rcases hrender : renderAll outside config inputs t with cause | headers
    · simp [hvalid, hrender, bind, Except.bind] at hnone
    rcases hstage : stageAll outside.programs (start config.formatter (config.mode == .check)) t
      headers with ⟨cause | tx, u⟩
    · simp [hvalid, hrender, hstage, bind, Except.bind, failure?] at hnone
    · exact ⟨headers, tx, u, rfl, rfl, hstage⟩
  · rintro ⟨headers, tx, u, hvalid, hrender, hstage⟩
    simp [hvalid, hrender, hstage, bind, Except.bind, failure?]

/-- **A run fails as its first failing step.** If a step before the commit fails, the run ends with the
failure of the first one that does, and the tree is what it was. If that is a step before staging, this
is so whatever programs there are, so no formatter is asked. The steps are all that there are: a run gets
to its commit exactly when every one goes well.

**Proof sketch.** Every traversal fails as its first failing member, so the checks and the rendering fail
as their first failing step. A stage that fails takes its own temporary file away, and those of the
stages before it are discarded. -/
theorem generate_first_failure
    (hf : ∀ command ∈ config.formatter, command.Confined outside.programs) :
    (∀ before failure after,
      runSteps outside config inputs t = before ++ some failure :: after →
      (∀ step ∈ before, step = none) →
      (generate outside config inputs t).1 = .error failure ∧
        t.Same (generate outside config inputs t).2) ∧
    (∀ before failure after,
      preparationSteps outside config inputs t = before ++ some failure :: after →
      (∀ step ∈ before, step = none) →
      ∀ programs, generate ⟨programs, outside.fetch⟩ config inputs t = (.error failure, t)) ∧
    ((∀ step ∈ runSteps outside config inputs t, step = none) ↔
      ∃ headers tx u, config.validate t = .ok () ∧
        renderAll outside config inputs t = .ok headers ∧
        stageAll outside.programs (start config.formatter (config.mode == .check)) t headers =
          (.ok tx, u)) := by
  refine ⟨fun before failure after hsteps hbefore => ?_,
    fun before failure after hsteps hbefore => ?_, ?_⟩
  · exact generate_of_firstFailure hf (hsteps ▸ firstFailure_eq_some hbefore)
  · exact generate_of_firstFailure_preparationSteps (hsteps ▸ firstFailure_eq_some hbefore)
  · rw [← firstFailure_eq_none_iff]
    exact firstFailure_runSteps_eq_none_iff

/-! ## A run without its formatter -/

/-- A system on which no program can be started. -/
def bareOutside : Outside := ⟨fun t _ _ => (.error .notFound, t), fun _ _ => .error ""⟩

/-- A run that makes one header twice and formats it. -/
def formattedConfig : RunConfig where
  outputRoot := "include"
  targets := [.attributes, .attributes]
  formatter := some .standard

/-- One attribute. -/
def oneAttribute : Inputs := ⟨[{ name := "NodeId", valueType := "NodeId" }], Exclusions.builtin⟩

/-- The failure of a formatter that cannot be started. -/
def noFormatter : Failure :=
  .formatter "clang-format -i" "/./.headergen-000000.hpp" (.spawn .notFound)

/-- **A run whose formatter cannot be started**: both stages would fail, and the first is reported. -/
theorem generate_first_failure_stage :
    runSteps bareOutside formattedConfig oneAttribute .empty =
        [none, none, none, some noFormatter, some noFormatter] ∧
      (generate bareOutside formattedConfig oneAttribute .empty).1 = .error noFormatter ∧
      FileTree.empty.Same (generate bareOutside formattedConfig oneAttribute .empty).2 := by
  have hsteps : runSteps bareOutside formattedConfig oneAttribute .empty =
      [none, none, none] ++ some noFormatter :: [some noFormatter] := by decide +kernel
  have hconfined : ∀ command ∈ formattedConfig.formatter, command.Confined bareOutside.programs := by
    intro command _ t p l mode content hl hfile
    refine ⟨content, .refl t, fun m => ?_⟩
    split_ifs with hm
    · rw [hm, ← hfile]
      rfl
    · rfl
  exact ⟨hsteps, (generate_first_failure hconfined).1 _ _ _ hsteps (by decide)⟩

end UaHeaders
