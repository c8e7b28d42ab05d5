import UaHeaders.Examples.Run
import UaHeaders.Shell.Step

/-!
# Two processes side by side

A server and a client run on one tree and may wait for one another. The step of the process whose
clock is behind comes first; at the same time they take turns.

## Main definitions

* `UaHeaders.Shell.runBefore` — one process up to a time.
* `UaHeaders.Shell.Pairing.run` — a server and a client up to the end of the client's time.
* `UaHeaders.Shell.sideBySide` — the way of running examples that are scripts.

## Implementation notes

A process that is ended while it waits for another program, and has not handed over to it, leaves its
streams open until that program ends. The clock of the process tells when that is.
-/

set_option autoImplicit false

namespace UaHeaders.Shell

/-- **One process, as long as its clock is before `limit`**, for at most `bound` steps. -/
def runBefore (limit : Nat) : Nat → Process → FileTree → Process × FileTree
  | 0, p, t => (p, t)
  | bound + 1, p, t =>
    if p.running && p.clock < limit then
      let (p, t) := p.step (runWithin bound) t
      runBefore limit bound p t
    else (p, t)

/-- **A server and a client on one tree.** -/
structure Pairing where
  server : Process
  client : Process
  serverNext : Bool
  tree : FileTree

namespace Pairing

/-- Whether the next step is the server's: its clock is behind, or it is its turn. -/
def isServersTurn (p : Pairing) : Bool :=
  p.server.running &&
    (p.server.clock < p.client.clock || (p.server.clock == p.client.clock && p.serverNext))

/-- One step of one of the two. -/
def step (run : Runner) (p : Pairing) : Pairing :=
  if p.isServersTurn then
    let (server, tree) := p.server.step run p.tree
    { p with server, tree, serverNext := false }
  else
    let (client, tree) := p.client.step run p.tree
    { p with client, tree, serverNext := true }

/-- **Both, as long as the client runs and its clock is before `limit`.** -/
def run (limit : Nat) : Nat → Pairing → Pairing
  | 0, p => p
  | bound + 1, p =>
    if p.client.running && p.client.clock < limit then run limit bound (p.step (runWithin bound))
    else p

end Pairing

/-- Whether a process has handed over to another program. -/
def Process.handedOver (p : Process) : Bool :=
  match p.frames with
  | [.leave] => true
  | _ => false

/-- **What a process leaves whose time is over at `deadline`**, and when all of that is known. A
process that is still running is ended. -/
def Process.ending (p : Process) (deadline : Nat) : Ending × Nat :=
  match p.ended with
  | some status => (⟨status, false, p.out, p.err⟩, p.clock)
  | none =>
    (⟨.ofSignal ExitStatus.killSignal, true, p.out, p.err⟩,
      if p.handedOver then deadline else max deadline p.clock)

/-- The last part of a run: the server from the time `from_` on. -/
def finishServer (timings : Timings) (server : Process) (from_ : Nat) (t : FileTree) :
    Ending × FileTree :=
  let deadline := from_ + timings.waitServerExit
  let (server, t) := runBefore (deadline + 1) stepLimit server t
  ((server.ending deadline).1, t)

/-- **Runs a server script, perhaps beside a client script.** -/
def sideBySide : Playing := fun timings serverLaunch clientLaunch t =>
  match launch t serverLaunch.path.text serverLaunch.args with
  | .error _ => (.error serverLaunch.path, t)
  | .ok server =>
    let (server, t) := runBefore timings.waitServer stepLimit server t
    match clientLaunch with
    | none =>
      let (ending, t) := finishServer timings server timings.waitServer t
      (.ok (ending, none), t)
    | some clientLaunch =>
      match launch t clientLaunch.path.text clientLaunch.args with
      | .error _ => (.error clientLaunch.path, t)
      | .ok client =>
        let deadline := timings.waitServer + timings.waitClient
        let client := { client with clock := timings.waitServer }
        let both := Pairing.run (deadline + 1) stepLimit ⟨server, client, true, t⟩
        let (clientEnding, known) := both.client.ending deadline
        let (server, t) := runBefore known stepLimit both.server both.tree
        let (serverEnding, t) := finishServer timings server known t
        (.ok (serverEnding, some clientEnding), t)

end UaHeaders.Shell
