import UaHeaders.Files.Tree
import UaHeaders.Problem
import UaHeaders.Text.Casing

/-!
# Logging

Where diagnostics go and how they look is read from the environment. The log itself is not part of
this library; of a log that goes to a file, its directory and the file are made.

## Main definitions

* `UaHeaders.LogFormat`, `UaHeaders.LogOutput`, `UaHeaders.LoggingConfig` — the settings.
* `UaHeaders.LoggingConfig.ofEnvironment` — the settings an environment asks for.
* `UaHeaders.LoggingConfig.prepare` — the place for the log.
-/

set_option autoImplicit false

namespace UaHeaders

/-- **How diagnostics look.** -/
inductive LogFormat where
  | json
  | pretty
  | compact
  deriving DecidableEq, Inhabited

/-- **Where diagnostics go.** -/
inductive LogOutput where
  | standardOutput
  | standardError
  | file
  deriving DecidableEq, Inhabited

/-- The format of a name in lower case. -/
def LogFormat.ofName? : String → Option LogFormat
  | "json" => some json
  | "pretty" => some pretty
  | "compact" => some compact
  | _ => none

/-- The output of a name in lower case. -/
def LogOutput.ofName? : String → Option LogOutput
  | "stdout" => some standardOutput
  | "stderr" => some standardError
  | "file" => some file
  | _ => none

/-- **The settings of a log.** -/
structure LoggingConfig where
  format : LogFormat
  output : LogOutput
  directory : Path
  fileName : String
  filter : String
  spanEvents : Bool
  deriving DecidableEq, Inhabited

namespace LoggingConfig

/-- The environments whose logs are read by programs. -/
def unattended : List String := ["ci", "production", "prod"]

/-- The values that switch something on. -/
def affirmations : List String := ["1", "true", "yes"]

/-- **The settings an environment asks for.** A value that says nothing is passed over. -/
def ofEnvironment (env : String → Option String) : LoggingConfig :=
  let environment := (env "ENVIRONMENT" <|> env "ENV").getD "development"
  let lower (name : String) : Option String := (env name).map Text.lowerAll
  { format := ((lower "LOG_FORMAT").bind LogFormat.ofName?).getD
      (if unattended.contains environment then .json else .compact)
    output := ((lower "LOG_OUTPUT").bind LogOutput.ofName?).getD .standardError
    directory := ⟨(env "LOG_DIR").getD "logs"⟩
    fileName := "opcua-headergen.log"
    filter := "info"
    spanEvents := (lower "LOG_SPAN_EVENTS").any affirmations.contains }

/-- **The place for the log.** A log in a file needs its directory and the file. -/
def prepare (config : LoggingConfig) (t : FileTree) : Except Problem Unit × FileTree :=
  match config.output with
  | .file =>
    match t.makeDirs config.directory with
    | (.error _, t) => (.error .noLogDirectory, t)
    | (.ok (), t) =>
      match t.append (config.directory.join ⟨config.fileName⟩) .empty with
      | .ok t => (.ok (), t)
      | .error _ => (.ok (), t)
  | _ => (.ok (), t)

end LoggingConfig

end UaHeaders
