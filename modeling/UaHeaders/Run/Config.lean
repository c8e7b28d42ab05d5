import UaHeaders.Header.Formatter
import UaHeaders.Header.Target
import UaHeaders.Registry.Standard

/-!
# Run configurations

What one run generates, from what, and whether it writes.

## Main definitions

* `UaHeaders.RunConfig` — the settings of a run.
* `UaHeaders.RunConfig.validate` — the check before a run, which finds every setting that cannot work.
* `UaHeaders.RunConfig.targetPath` — where a header goes.
-/

set_option autoImplicit false

namespace UaHeaders

/-- **Whether a run writes.** -/
inductive RunMode where
  /-- Changed headers are written. -/
  | write
  /-- Headers are compared with what is there, nothing is written. -/
  | check
  deriving DecidableEq, Inhabited

/-- The name of a mode in a report. -/
def RunMode.name : RunMode → String
  | write => "write"
  | check => "check"

/-- **The settings of a run.** -/
structure RunConfig where
  /-- The directory below which the headers stand. -/
  outputRoot : Path
  /-- The directory in which schema files are looked for. -/
  schemaDir : Path := "3rdparty/open62541/tools/schema"
  targets : List Target := Target.defaults
  nodeIds : NodeIdSource := .url NodeIdSource.defaultUrl NodeIdSource.defaultUserAgent
  formatter : Option FormatterCommand := none
  mode : RunMode := .write
  typeRegistrySchemas : List SchemaSource := SchemaSource.typeRegistryFiles
  typeConverterSchemas : List SchemaSource := SchemaSource.typeConverterFiles
  deriving DecidableEq, Inhabited

namespace RunConfig

/-- The directory below which headers stand if none is named. -/
def defaultOutputRoot : Path := "include/open62541pp"

/-- **Where a header goes.** -/
def targetPath (config : RunConfig) (target : Target) : Path :=
  config.outputRoot.join target.relativePath

/-- The schema files behind a target. -/
def schemasFor (config : RunConfig) : Target → List SchemaSource
  | .typeRegistry => config.typeRegistrySchemas
  | .typeConverter => config.typeConverterSchemas
  | .attributes => []
  | .nodeIds => []

/-- The check of a registry header: it needs schema files, and their guards have to be symbols. A
header that is not selected is not checked. -/
def validateSchemas (config : RunConfig) (target : Target) : Except Failure Unit :=
  if config.targets.contains target then
    let sources := config.schemasFor target
    if sources.isEmpty then .error (.configuration (.noSchemas target.name))
    else sources.forM SchemaSource.validate
  else .ok ()

/-- Whether a text begins as a web address does. -/
def isWebAddress (url : String) : Bool :=
  Text.hasPrefix "http://" url || Text.hasPrefix "https://" url

/-- The check of the node id source, which is made for every selection. -/
def validateNodeIds (config : RunConfig) : Except Failure Unit :=
  match config.nodeIds with
  | .url url _ => if isWebAddress url then .ok () else .error (.configuration (.notWebAddress url))
  | .file _ => .ok ()

/-- **The check before a run.** -/
def validate (config : RunConfig) (t : FileTree) : Except Failure Unit := do
  if config.targets.isEmpty then throw (.configuration .noTargets)
  if t.isFile config.outputRoot then throw (.configuration (.rootIsFile config.outputRoot))
  config.validateSchemas .typeRegistry
  config.validateSchemas .typeConverter
  config.validateNodeIds

end RunConfig

end UaHeaders
