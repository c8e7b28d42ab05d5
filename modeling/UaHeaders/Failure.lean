import UaHeaders.Files.Fault
import UaHeaders.Files.Path
import UaHeaders.Process.Status
import UaHeaders.Text.Quoted

/-!
# Failures

Why a run could not generate its headers. A failure is a value that holds its cause; the wording is
one function of it. Nothing is tried twice: the first failure ends the run.

## Main definitions

* `UaHeaders.Failure` — the failures of a run.
* `UaHeaders.Misconfiguration`, `UaHeaders.RowFault`, `UaHeaders.TemplateFault`,
  `UaHeaders.FormatterFault` — the causes below them.
* `UaHeaders.Failure.message` — the wording.
-/

set_option autoImplicit false

namespace UaHeaders

/-! ## Causes -/

/-- **What is wrong with one row of an attribute table.** -/
inductive DescriptorFault where
  | notIdentifier
  | noValueType
  | noViewType
  | repeatedName
  deriving DecidableEq, Inhabited

/-- The wording of a fault in an attribute table. -/
def DescriptorFault.message : DescriptorFault → String
  | notIdentifier => "name is not an identifier"
  | noValueType => "value type is empty"
  | noViewType => "view type is empty"
  | repeatedName => "duplicate name"

/-- **A setting with which no run can start**, or a step that the settings rule out. -/
inductive Misconfiguration where
  /-- The attribute table has no rows. -/
  | emptyTable
  /-- A row of the attribute table is not well formed; rows count from zero. -/
  | descriptor (row : Nat) (name : String) (fault : DescriptorFault)
  /-- The guard of a schema file cannot stand behind `#ifdef`. -/
  | guardSymbol (guard : String) (file : Path)
  /-- The formatter command has no word. -/
  | emptyFormatter
  /-- A transaction that may only look was asked to write. -/
  | dryRunCommit
  /-- No header is selected. -/
  | noTargets
  /-- A file stands where the output root should be. -/
  | rootIsFile (root : Path)
  /-- A registry header without schema files. -/
  | noSchemas (target : String)
  /-- The address of the node id table is not a web address. -/
  | notWebAddress (url : String)
  /-- Another cause, in its own words. -/
  | other (reason : String)
  deriving DecidableEq, Inhabited

/-- The wording of a misconfiguration. -/
def Misconfiguration.message : Misconfiguration → String
  | emptyTable => "attribute descriptor table is empty"
  | descriptor row name fault =>
    "attribute descriptor #" ++ toString row ++ " (" ++ Text.quote name ++ "): " ++ fault.message
  | guardSymbol guard file =>
    "guard symbol " ++ Text.quote guard ++ " for schema file " ++ file.text ++
      " is not a preprocessor identifier"
  | emptyFormatter => "formatter command is empty"
  | dryRunCommit => "a dry-run transaction cannot be committed"
  | noTargets => "no targets selected"
  | rootIsFile root => "output root " ++ root.text ++ " is a file"
  | noSchemas target => "no schema files configured for " ++ target
  | notWebAddress url => "node id URL must be http(s), got " ++ Text.quote url
  | other reason => reason

/-- **Why a text is no number of 32 bits.** -/
inductive NumberFault where
  | empty
  | invalidDigit
  | tooLarge
  deriving DecidableEq, Inhabited

/-- The wording of a fault in a number. -/
def NumberFault.message : NumberFault → String
  | empty => "cannot parse integer from empty string"
  | invalidDigit => "invalid digit found in string"
  | tooLarge => "number too large to fit in target type"

/-- **What is wrong with one row of a node id table.** -/
inductive RowFault where
  /-- A row has three columns, not `found`. -/
  | columns (found : Nat)
  /-- The second column is no number of 32 bits. -/
  | number (text : String) (fault : NumberFault)
  /-- Another cause, in its own words. -/
  | other (reason : String)
  deriving DecidableEq, Inhabited

/-- The wording of a fault in a row. -/
def RowFault.message : RowFault → String
  | columns found => "expected 3 columns, found " ++ toString found
  | number text fault => "invalid id " ++ Text.quote text ++ ": " ++ fault.message
  | other reason => reason

/-- **Why a template gave no text.** -/
inductive TemplateFault where
  /-- The template is not written by the rules. -/
  | parse (template : String)
  /-- There is no template of the name. -/
  | unknown (template : String)
  /-- A place refers to a value that is missing or of the wrong kind. -/
  | render (template : String)
  /-- What is to be filled in has no names. -/
  | namelessContext
  deriving DecidableEq, Inhabited

/-- The wording of a template fault. -/
def TemplateFault.message : TemplateFault → String
  | parse template => "Failed to parse '" ++ template ++ "'"
  | unknown template => "Template '" ++ template ++ "' not found"
  | render template => "Failed to render '" ++ template ++ "'"
  | namelessContext =>
    "Creating a Context from a Value/Serialize requires it being a JSON object"

/-- **How a formatter failed on a file.** -/
inductive FormatterFault where
  /-- It could not be started. -/
  | spawn (cause : Fault)
  /-- It ended without success, with what it wrote to its error stream. -/
  | ended (status : ExitStatus) (errors : String)
  /-- Another cause, in its own words. -/
  | other (reason : String)
  deriving DecidableEq, Inhabited

/-- The wording of a formatter fault. -/
def FormatterFault.message : FormatterFault → String
  | spawn cause => "failed to spawn: " ++ cause.message
  | ended status errors => status.message ++ " (" ++ errors ++ ")"
  | other reason => reason

/-! ## Failures -/

/-- **Why a run could not generate its headers.** -/
inductive Failure where
  | configuration (cause : Misconfiguration)
  /-- A schema file or a node id table could not be read. -/
  | schemaRead (path : Path) (cause : Fault)
  /-- The node id table could not be fetched. -/
  | network (url reason : String)
  /-- A row of the node id table is malformed; rows count from one. -/
  | malformedRow (row : Nat) (line : String) (cause : RowFault)
  | template (name : String) (cause : TemplateFault)
  | formatter (command : String) (path : Path) (cause : FormatterFault)
  | io (path : Path) (cause : Fault)
  deriving DecidableEq, Inhabited

namespace Failure

/-- **The wording of a failure.** -/
def message : Failure → String
  | configuration cause => "configuration error: " ++ cause.message
  | schemaRead path cause => "failed to read schema file " ++ path.text ++ ": " ++ cause.message
  | network url reason => "failed to fetch " ++ url ++ ": " ++ reason
  | malformedRow row line cause =>
    "malformed row " ++ toString row ++ " in node id table (" ++ Text.quote line ++ "): " ++
      cause.message
  | template name cause => "failed to render template '" ++ name ++ "': " ++ cause.message
  | formatter command path cause =>
    "formatter `" ++ command ++ "` failed on " ++ path.text ++ ": " ++ cause.message
  | io path cause => "I/O error on " ++ path.text ++ ": " ++ cause.message

/-- Whether the settings are to blame. -/
def isConfiguration : Failure → Bool
  | configuration _ => true
  | _ => false

end Failure

end UaHeaders
