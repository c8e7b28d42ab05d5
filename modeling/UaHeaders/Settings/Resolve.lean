import UaHeaders.Run.Config
import UaHeaders.Settings.File

/-!
# Resolving settings

A run is configured in three layers: what the command line and the environment say, below it what a
settings file says, and below that the defaults. The two ways to name the source of the node ids belong
together, so a command line that names one hides both of the file.

## Main definitions

* `UaHeaders.GenerateArgs` — what the command line and the environment say.
* `UaHeaders.GenerateArgs.resolve` — the configuration of a run.
-/

set_option autoImplicit false

namespace UaHeaders

/-- **What the command line and the environment say** about a run. -/
structure GenerateArgs where
  outputRoot : Option Path := none
  schemaDir : Option Path := none
  targets : Option (List Target) := none
  nodeIdsUrl : Option String := none
  nodeIdsFile : Option Path := none
  userAgent : Option String := none
  formatter : Option String := none
  noFormat : Bool := false
  check : Bool := false
  json : Bool := false
  deriving DecidableEq, Inhabited

namespace GenerateArgs

/-- The targets of a run, in order and each once. -/
def resolveTargets (args : GenerateArgs) (file : FileSettings) : Except Problem (List Target) :=
  match Target.normalize ((args.targets <|> file.targets).getD Target.defaults) with
  | [] => .error .nothingSelected
  | targets => .ok targets

/-- The source of the node ids. -/
def resolveNodeIds (args : GenerateArgs) (file : FileSettings) : Except Problem NodeIdSource :=
  let named := args.nodeIdsUrl.isSome || args.nodeIdsFile.isSome
  let source :=
    if named then (args.nodeIdsUrl, args.nodeIdsFile) else (file.nodeIdsUrl, file.nodeIdsFile)
  match source with
  | (some _, some _) => .error .ambiguousNodeIds
  | (_, some path) => .ok (.file path)
  | (url, none) =>
    .ok (.url (url.getD NodeIdSource.defaultUrl)
      ((args.userAgent <|> file.userAgent).getD NodeIdSource.defaultUserAgent))

/-- The formatter, unless formatting is switched off. A command that is not used is not looked at. -/
def resolveFormatter (args : GenerateArgs) (file : FileSettings) :
    Except Problem (Option FormatterCommand) :=
  if !args.noFormat && file.format.getD true then
    match args.formatter <|> file.formatter with
    | none => .ok (some FormatterCommand.standard)
    | some text =>
      match FormatterCommand.parse text with
      | .ok command => .ok (some command)
      | .error failure => .error (.failure failure)
  else .ok none

/-- **The configuration of a run** from all three layers, which has passed its check. -/
def resolveWith (args : GenerateArgs) (file : FileSettings) (t : FileTree) :
    Except Problem RunConfig := do
  let targets ← args.resolveTargets file
  let nodeIds ← args.resolveNodeIds file
  let formatter ← args.resolveFormatter file
  let config : RunConfig :=
    { outputRoot := (args.outputRoot <|> file.outputRoot).getD RunConfig.defaultOutputRoot
      schemaDir := (args.schemaDir <|> file.schemaDir).getD "3rdparty/open62541/tools/schema"
      targets, nodeIds, formatter
      mode := if args.check then .check else .write
      typeRegistrySchemas := file.typeRegistrySchemas.getD SchemaSource.typeRegistryFiles
      typeConverterSchemas := file.typeConverterSchemas.getD SchemaSource.typeConverterFiles }
  match config.validate t with
  | .ok () => return config
  | .error failure => .error (.failure failure)

/-- **The configuration of a run**, with the settings file that is named, if one is. -/
def resolve (args : GenerateArgs) (settings : Option Path) (t : FileTree) :
    Except Problem RunConfig := do
  match settings with
  | some path => args.resolveWith (← FileSettings.load t path) t
  | none => args.resolveWith {} t

end GenerateArgs

end UaHeaders
