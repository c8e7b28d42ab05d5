import UaHeaders.Examples.Outcome
import UaHeaders.Examples.Pair
import UaHeaders.Files.Tree
import UaHeaders.Problem
import UaHeaders.Text.Quoted

/-!
# Runs of examples

Examples are tried one after the other until one fails. What the processes do is not the runner's
choice: the way of running a server beside a client is a parameter.

## Main definitions

* `UaHeaders.Playing` — a way of running a server, perhaps beside a client.
* `UaHeaders.runPair` — one pair; it is passed over when an executable is missing.
* `UaHeaders.runExamples` — pairs until one fails, with the text a user is shown.
-/

set_option autoImplicit false

namespace UaHeaders

/-- An executable with its arguments. -/
structure Launch where
  path : Path
  args : List String
  deriving DecidableEq, Inhabited

/-- **A way of running a server, perhaps beside a client**, within the times given. The processes may
change the tree. One that cannot be started leaves its path. -/
abbrev Playing :=
  Timings → Launch → Option Launch → FileTree → Except Path (Ending × Option Ending) × FileTree

/-- The server of a pair, with its executable in `dir`. -/
def ExamplePair.serverLaunch (pair : ExamplePair) (dir : Path) : Launch :=
  ⟨dir.join pair.server, pair.serverArgs⟩

/-- The client of a pair, with its executable in `dir`. -/
def ExamplePair.clientLaunch (pair : ExamplePair) (dir : Path) : Option Launch :=
  pair.client.map fun client => ⟨dir.join client, pair.clientArgs⟩

/-- **Runs one pair.** -/
def runPair (playing : Playing) (dir : Path) (timings : Timings) (pair : ExamplePair)
    (t : FileTree) : Except Problem PairOutcome × FileTree :=
  let server := pair.serverLaunch dir
  let client := pair.clientLaunch dir
  match (server :: client.toList).find? fun launch => !t.pathExists launch.path with
  | some missing => (.ok (.skipped missing.path), t)
  | none =>
    match playing timings server client t with
    | (.error path, t) => (.error (.notStarted path), t)
    | (.ok (serverEnding, clientEnding), t) =>
      let clientOutcome := match pair.client, clientEnding with
        | some name, some ending => some (ProcessOutcome.ofEnding name ending)
        | _, _ => none
      (.ok (.ran (.ofEnding pair.server serverEnding) clientOutcome), t)

/-- The line that announces a pair. -/
def ExamplePair.announcement (pair : ExamplePair) : String :=
  "[RUN] " ++ pair.server ++ " " ++ Text.quoteList pair.serverArgs ++ " / " ++
    pair.client.getD "None" ++ " " ++ Text.quoteList pair.clientArgs ++ "\n"

/-- **What a run of examples comes to**: the outcomes or a problem, the text a user is shown, and the
tree that is left. -/
structure ExamplesRun where
  outcomes : Except Problem (List PairOutcome)
  output : String
  tree : FileTree

/-- **Runs pairs in order, up to the first that fails.** Its outcome is the last one. -/
def runExamples (playing : Playing) (dir : Path) (timings : Timings) :
    List ExamplePair → FileTree → ExamplesRun
  | [], t => ⟨.ok [], "", t⟩
  | pair :: rest, t =>
    match runPair playing dir timings pair t with
    | (.error problem, t) => ⟨.error problem, pair.announcement, t⟩
    | (.ok outcome, t) =>
      let shown := pair.announcement ++ outcome.echo
      if outcome.failed then ⟨.ok [outcome], shown, t⟩
      else
        let run := runExamples playing dir timings rest t
        ⟨run.outcomes.map (outcome :: ·), shown ++ run.output, run.tree⟩

end UaHeaders
