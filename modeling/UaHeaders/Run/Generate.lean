import UaHeaders.Attribute.Accessors
import UaHeaders.Attribute.Standard
import UaHeaders.Header.Transaction
import UaHeaders.Registry.Plan
import UaHeaders.Run.Report

/-!
# Runs

A run goes through three stages. It renders every configured header, stages every header, and then
either commits them or, in check mode, looks at what would change. A failure before the commit leaves
the tree as it was.

## Main definitions

* `UaHeaders.Outside` — what a run asks of programs and of the network.
* `UaHeaders.Inputs` — the tables a run reads.
* `UaHeaders.renderTarget` — the text of one header.
* `UaHeaders.generate` — a run.
-/

set_option autoImplicit false

namespace UaHeaders

/-- **What lies outside of the library**: the programs that a run starts, and the answers of the
network to an address and a user agent. -/
structure Outside where
  programs : Programs
  fetch : String → String → Except String String

/-- **The tables a run reads.** -/
structure Inputs where
  descriptors : List Descriptor
  exclusions : Exclusions
  deriving DecidableEq, Inhabited

/-- The tables of a run that brings none of its own. -/
def Inputs.standard : Inputs := ⟨Descriptor.standard, Exclusions.builtin⟩

/-! ## Rendering -/

/-- The plan of a registry header. -/
def registryPlan (config : RunConfig) (exclusions : Exclusions) (sources : List SchemaSource)
    (t : FileTree) : Except Failure RegistryPlan := do
  let files ← SchemaSource.loadAll (sources.map fun source => source.resolve config.schemaDir) t
  return RegistryPlan.build (files.map exclusions.apply) exclusions

/-- The fragments of one header. -/
def targetFragments (outside : Outside) (config : RunConfig) (inputs : Inputs) (t : FileTree) :
    Target → Except Failure (List String)
  | .attributes => do
    let table ← DescriptorTable.ofList inputs.descriptors
    return table.fragments
  | .typeRegistry => do
    let plan ← registryPlan config inputs.exclusions config.typeRegistrySchemas t
    return plan.fragments typeRegistryMacro
  | .typeConverter => do
    let plan ← registryPlan config inputs.exclusions config.typeConverterSchemas t
    return plan.fragments typeConverterMacro
  | .nodeIds => do
    let content ← config.nodeIds.content outside.fetch t
    let table ← NodeIdTable.parse content
    return table.fragments

/-- **The text of one header.** -/
def renderTarget (outside : Outside) (config : RunConfig) (inputs : Inputs) (t : FileTree)
    (target : Target) : Except Failure String := do
  let fragments ← targetFragments outside config inputs t target
  return target.skeleton.assemble fragments

/-- The texts of all configured headers with their places, in order. -/
def renderAll (outside : Outside) (config : RunConfig) (inputs : Inputs) (t : FileTree) :
    Except Failure (List (Path × String)) :=
  config.targets.mapM fun target => do
    let content ← renderTarget outside config inputs t target
    return (config.targetPath target, content)

/-! ## Staging -/

/-- **Stages headers in order.** On a failure those that were staged before go too. -/
def stageAll (programs : Programs) (tx : Transaction) (t : FileTree) :
    List (Path × String) → Except Failure Transaction × FileTree
  | [] => (.ok tx, t)
  | (target, content) :: rest =>
    match tx.stage programs t target content with
    | (.ok tx, t) => stageAll programs tx t rest
    | (.error failure, t) => (.error failure, (tx.discard t).2)

/-! ## Runs -/

/-- The end of a run: the staged headers are committed, or only looked at. -/
def conclude (mode : RunMode) (tx : Transaction) (t : FileTree) :
    Except Failure (List HeaderRecord) × FileTree :=
  match mode with
  | .write => tx.commit t
  | .check =>
    let (records, t) := tx.discard t
    (.ok records, t)

/-- **Generates every configured header.** -/
def generate (outside : Outside) (config : RunConfig) (inputs : Inputs) (t : FileTree) :
    Except Failure Report × FileTree :=
  let rendered := do
    config.validate t
    renderAll outside config inputs t
  match rendered with
  | .error failure => (.error failure, t)
  | .ok headers =>
    let tx := Transaction.start config.formatter (config.mode == .check)
    match stageAll outside.programs tx t headers with
    | (.error failure, t) => (.error failure, t)
    | (.ok tx, t) =>
      match conclude config.mode tx t with
      | (.error failure, t) => (.error failure, t)
      | (.ok records, t) => (.ok (Report.ofRecords config.mode config.targets records), t)

end UaHeaders
