import UaHeaders.CommandLine.Matches
import UaHeaders.Settings.Resolve

/-!
# Invocations

The commands of the program and their arguments.

## Main definitions

* `UaHeaders.Command`, `UaHeaders.Invocation` — what a command line asks for.
* `UaHeaders.Invocation.parse` — the invocation in the words of a command line and the environment.
-/

set_option autoImplicit false

namespace UaHeaders

/-- **A command with its arguments.** -/
inductive Command where
  /-- Generates headers. -/
  | generate (args : GenerateArgs)
  /-- Prepares the comments of C headers below a directory for the documentation. -/
  | stripComments (dir : Path)
  /-- Runs the example programs in a directory; the times are in seconds. -/
  | runExamples (binDir : Path) (waitServer waitClient : Double)
  /-- Replaces deprecated include paths in files. -/
  | updateIncludes (cmakeLists : Path) (files : List Path)
  /-- Formats the sources below a directory. -/
  | formatSources (root : Path) (formatter : String)
  deriving DecidableEq, Inhabited

/-- **What a command line asks for.** -/
structure Invocation where
  settings : Option Path
  verbosity : Nat
  command : Command
  deriving DecidableEq, Inhabited

/-! ## Arguments -/

/-- The variable of a setting. -/
def settingVariable (name : String) : Option String := some ("OPCUA_HEADERGEN_" ++ name)

/-- The arguments that all commands share. -/
def sharedArgs : List ArgSpec :=
  [{ id := "config", action := .set .path, long := some "config"
     variableName := settingVariable "CONFIG" },
    { id := "verbose", action := .count, long := some "verbose", short := some 'v' },
    { id := "help", action := .help, long := some "help", short := some 'h' }]

/-- The arguments of the generator. -/
def generateArgs : List ArgSpec :=
  [{ id := "output_root", action := .set .path, long := some "output-root"
     variableName := settingVariable "OUTPUT_ROOT" },
    { id := "schema_dir", action := .set .path, long := some "schema-dir"
      variableName := settingVariable "SCHEMA_DIR" },
    { id := "targets", action := .append .target (some ','), long := some "target"
      variableName := settingVariable "TARGETS" },
    { id := "node_ids_url", action := .set .text, long := some "node-ids-url"
      variableName := settingVariable "NODE_IDS_URL" },
    { id := "node_ids_file", action := .set .path, long := some "node-ids-file"
      variableName := settingVariable "NODE_IDS_FILE", excludes := some "node_ids_url" },
    { id := "user_agent", action := .set .text, long := some "user-agent"
      variableName := settingVariable "USER_AGENT" },
    { id := "formatter", action := .set .text, long := some "formatter"
      variableName := settingVariable "FORMATTER" },
    { id := "no_format", action := .flag, long := some "no-format" },
    { id := "check", action := .flag, long := some "check" },
    { id := "json", action := .flag, long := some "json" }]

/-- The names of the commands, with the one that shows help. -/
def commandNames : List String :=
  ["generate", "strip-comments", "run-examples", "update-includes", "format-sources", "help"]

/-- The arguments of a command. -/
def commandSpec? (name : String) : Option CommandSpec :=
  match name with
  | "generate" => some { args := generateArgs ++ sharedArgs }
  | "strip-comments" =>
    some { args := { id := "dir", action := .set .path, required := true } :: sharedArgs }
  | "run-examples" =>
    some
      { args :=
          [{ id := "bin_dir", action := .set .path, required := true },
            { id := "wait_server", action := .set .number, long := some "wait-server" },
            { id := "wait_client", action := .set .number, long := some "wait-client" }] ++
            sharedArgs }
  | "update-includes" =>
    some
      { args :=
          [{ id := "cmake_lists", action := .set .path, long := some "cmake-lists" },
            { id := "files", action := .append .path none, required := true }] ++ sharedArgs }
  | "format-sources" =>
    some
      { args :=
          [{ id := "root", action := .set .path, long := some "root" },
            { id := "formatter", action := .set .text, long := some "formatter"
              variableName := settingVariable "FORMATTER" }] ++ sharedArgs }
  | _ => none

/-- The program itself. -/
def programSpec : CommandSpec where
  args := sharedArgs ++
    [{ id := "version", action := .version, long := some "version", short := some 'V' }]
  subcommands := commandNames

/-! ## Values -/

/-- The values found for an argument. -/
def values? (found : List Found) (id : String) : Option (List String) :=
  (found.find? fun f => f.id == id).map fun f => f.values

/-- The value found for an argument with one value. -/
def value? (found : List Found) (id : String) : Option String := (values? found id).bind List.head?

/-- Whether a flag was found. -/
def hasFlag (found : List Found) (id : String) : Bool := (values? found id).isSome

/-- The arguments of the generator among those found. -/
def GenerateArgs.ofFound (found : List Found) : GenerateArgs where
  outputRoot := (value? found "output_root").map Path.mk
  schemaDir := (value? found "schema_dir").map Path.mk
  targets := (values? found "targets").map fun names => names.filterMap Target.ofName?
  nodeIdsUrl := value? found "node_ids_url"
  nodeIdsFile := (value? found "node_ids_file").map Path.mk
  userAgent := value? found "user_agent"
  formatter := value? found "formatter"
  noFormat := hasFlag found "no_format"
  check := hasFlag found "check"
  json := hasFlag found "json"

/-- The time that an argument gives, if it was found. -/
def time (found : List Found) (id fallback : String) : Double :=
  (((value? found id).getD fallback : String) |> Double.ofText?).getD .nan

/-- The command of a name with the arguments found. -/
def Command.ofFound (name : String) (found : List Found) : Command :=
  match name with
  | "strip-comments" => .stripComments ⟨(value? found "dir").getD ""⟩
  | "run-examples" =>
    .runExamples ⟨(value? found "bin_dir").getD ""⟩ (time found "wait_server" "1.0")
      (time found "wait_client" "3.0")
  | "update-includes" =>
    .updateIncludes ⟨(value? found "cmake_lists").getD "CMakeLists.txt"⟩
      (((values? found "files").getD []).map Path.mk)
  | "format-sources" =>
    .formatSources ⟨(value? found "root").getD "."⟩
      ((value? found "formatter").getD FormatterCommand.standard.commandLine)
  | _ => .generate (GenerateArgs.ofFound found)

/-! ## Parsing -/

namespace Invocation

/-- The greatest verbosity that is told apart. -/
def maxVerbosity : Nat := 255

/-- What two levels of a command line found for a shared argument: the lower level counts unless the
upper one has a stronger source. -/
def sharedFound (upper lower : List Found) (id : String) : Option Found :=
  match upper.find? (fun f => f.id == id), lower.find? (fun f => f.id == id) with
  | some u, some l => if u.source = .commandLine ∧ l.source = .environment then some u else some l
  | some u, none => some u
  | none, l => l

/-- What the word "help" asks for: the names behind it have to be those of a command. -/
def helpError : List String → UsageError
  | [] => .help
  | [name] => if commandNames.contains name then .help else .invalidSubcommand
  | _ => .invalidSubcommand

/-- **The invocation in the words of a command line**, the program's name left out, and the
environment. -/
def parse (words : List String) (env : String → Option String) : Except UsageError Invocation := do
  let (upper, sub) ← programSpec.matchWords {} words
  match sub with
  | none =>
    let _ ← programSpec.complete env upper false
    throw .missingSubcommand
  | some (name, rest) =>
    match commandSpec? name with
    | none => throw (helpError rest)
    | some command =>
      let (lower, _) ← command.matchWords {} rest
      let lower ← command.complete env lower false
      let upper ← programSpec.complete env upper true
      let settings := (sharedFound upper lower "config").bind fun f => f.values.head?
      let verbosity := ((sharedFound upper lower "verbose").map fun f => f.values.length).getD 0
      return ⟨settings.map Path.mk, min verbosity maxVerbosity, Command.ofFound name lower⟩

end Invocation

end UaHeaders
