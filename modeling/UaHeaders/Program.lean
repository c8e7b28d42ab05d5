import UaHeaders.CommandLine.Invocation
import UaHeaders.Examples.Run
import UaHeaders.Logging
import UaHeaders.Run.Generate
import UaHeaders.Sweep.Comments
import UaHeaders.Sweep.Includes
import UaHeaders.Sweep.Sources

/-!
# The program

What the program does with a command line: the text it prints, the exit code, and the tree it leaves.

## Main definitions

* `UaHeaders.Surroundings` — what the program finds around it.
* `UaHeaders.ProgramRun` — what a run of the program comes to.
* `UaHeaders.Command.execute` — one command.
* `UaHeaders.runCommandLine` — the words of a command line.
-/

set_option autoImplicit false

namespace UaHeaders

/-- **What the program finds around it**: programs and the network, a way to run examples, and the
environment. -/
structure Surroundings where
  outside : Outside
  playing : Playing
  env : String → Option String

/-- **What a command comes to**: success or a problem, what was printed, and the tree left. -/
structure CommandRun where
  result : Except Problem Unit
  out : String
  tree : FileTree

/-! ## Commands -/

/-- Lines, each with its end. -/
def printed (lines : List String) : String := String.join (lines.map (· ++ "\n"))

/-- Generates headers and prints the report. A report with stale headers is a problem. -/
def executeGenerate (around : Surroundings) (settings : Option Path) (args : GenerateArgs)
    (t : FileTree) : CommandRun :=
  match args.resolve settings t with
  | .error problem => ⟨.error problem, "", t⟩
  | .ok config =>
    match generate around.outside config .standard t with
    | (.error failure, t) => ⟨.error (.failure failure), "", t⟩
    | (.ok report, t) =>
      let shown := if args.json then report.jsonText ++ "\n" else report.text
      if report.isStale then ⟨.error (.staleHeaders report.stale.length), shown, t⟩
      else ⟨.ok (), shown, t⟩

/-- Strips comments and prints the paths of the headers that changed. -/
def executeStripComments (dir : Path) (t : FileTree) : CommandRun :=
  match Sweep.stripComments dir t with
  | (.error problem, t) => ⟨.error problem, "", t⟩
  | (.ok report, t) => ⟨.ok (), printed (report.changed.map Path.text), t⟩

/-- Nanoseconds in a second. -/
def second : Nat := 1000000000

/-- The nanoseconds in a number of seconds, which has to be below two to the power of 64. -/
def nanoseconds? (seconds : Double) : Option Nat :=
  (seconds.scaledRound second).filter (· < Nat.pow 2 64 * second)

/-- Runs the examples and prints what they printed. -/
def executeRunExamples (playing : Playing) (dir : Path) (waitServer waitClient : Double)
    (t : FileTree) : CommandRun :=
  match nanoseconds? waitServer, nanoseconds? waitClient with
  | none, _ => ⟨.error (.invalidTime "--wait-server"), "", t⟩
  | _, none => ⟨.error (.invalidTime "--wait-client"), "", t⟩
  | some waitServer, some waitClient =>
    let timings := { Timings.standard with waitServer, waitClient }
    let run := runExamples playing dir timings ExamplePair.standard t
    let result := match run.outcomes with
      | .error problem => .error problem
      | .ok outcomes => if outcomes.any PairOutcome.failed then .error .examplesFailed else .ok ()
    ⟨result, run.output, run.tree⟩

/-- One deprecation on a line, the old path padded. -/
def deprecationLine (pair : String × String) : String :=
  "- " ++ Text.padEnd 40 pair.1 ++ " -> " ++ pair.2

/-- Updates includes. The deprecations are printed first, then the paths of the files that changed. -/
def executeUpdateIncludes (cmakeLists : Path) (files : List Path) (t : FileTree) : CommandRun :=
  match Sweep.Deprecations.load t cmakeLists with
  | .error problem => ⟨.error problem, "", t⟩
  | .ok deprecations =>
    let shown := printed (deprecations.pairs.map deprecationLine)
    match deprecations.update files t with
    | (.error problem, t) => ⟨.error problem, shown, t⟩
    | (.ok changed, t) => ⟨.ok (), shown ++ printed (changed.map ("updated " ++ ·.text)), t⟩

/-- Formats sources and prints their paths. -/
def executeFormatSources (programs : Programs) (root : Path) (formatter : String) (t : FileTree) :
    CommandRun :=
  match FormatterCommand.parse formatter with
  | .error failure => ⟨.error (.failure failure), "", t⟩
  | .ok command =>
    match Sweep.formatSources command programs root t with
    | (.error failure, t) => ⟨.error (.failure failure), "", t⟩
    | (.ok paths, t) => ⟨.ok (), printed (paths.map Path.text), t⟩

/-- **One command.** -/
def Command.execute (around : Surroundings) (settings : Option Path) (t : FileTree) :
    Command → CommandRun
  | generate args => executeGenerate around settings args t
  | stripComments dir => executeStripComments dir t
  | runExamples dir waitServer waitClient =>
    executeRunExamples around.playing dir waitServer waitClient t
  | updateIncludes cmakeLists files => executeUpdateIncludes cmakeLists files t
  | formatSources root formatter => executeFormatSources around.outside.programs root formatter t

/-! ## Command lines -/

/-- **What a run of the program comes to.** -/
structure ProgramRun where
  code : Nat
  out : String
  err : String
  tree : FileTree

/-- The name of the program with its version. -/
def versionText : String := "opcua-headergen 0.1.0"

/-- How the program is used. -/
def usageText : String :=
  printed
    ("Usage: opcua-headergen [OPTIONS] <COMMAND>" :: "" :: "Commands:" ::
      commandNames.map ("  " ++ ·))

/-- What comes of a command line that asks for no command. -/
def UsageError.run (error : UsageError) (t : FileTree) : ProgramRun :=
  match error with
  | version => ⟨0, printed [versionText], "", t⟩
  | help => ⟨0, usageText, "", t⟩
  | _ => ⟨2, "", usageText, t⟩

/-- **What the program does with the words of a command line**, its own name left out. -/
def runCommandLine (around : Surroundings) (words : List String) (t : FileTree) : ProgramRun :=
  match Invocation.parse words around.env with
  | .error error => error.run t
  | .ok invocation =>
    let fail (problem : Problem) (out : String) (t : FileTree) : ProgramRun :=
      ⟨1, out, "Error: " ++ problem.message ++ "\n", t⟩
    match (LoggingConfig.ofEnvironment around.env).prepare t with
    | (.error problem, t) => fail problem "" t
    | (.ok (), t) =>
      let run := invocation.command.execute around invocation.settings t
      match run.result with
      | .ok () => ⟨0, run.out, "", run.tree⟩
      | .error problem => fail problem run.out run.tree

end UaHeaders
