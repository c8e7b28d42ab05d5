import UaHeaders.Files.Path
import UaHeaders.Process.Status
import UaHeaders.Text.Blank
import UaHeaders.Text.Lines
import UaHeaders.Text.Octets
import UaHeaders.Text.Search

/-!
# Outcomes of examples

What is known of an example after it was tried, and what a user is shown of it.

## Main definitions

* `UaHeaders.Ending` — what a process leaves that was given a limited time.
* `UaHeaders.ProcessOutcome`, `UaHeaders.PairOutcome` — outcomes, and when they count as failed.
* `UaHeaders.PairOutcome.echo` — what a user is shown.
-/

set_option autoImplicit false

namespace UaHeaders

/-- **What a process leaves that was given a limited time.** It may have been ended when its time was
over. -/
structure Ending where
  status : ExitStatus
  terminated : Bool
  out : ByteArray
  err : ByteArray

/-- **What is known of one process.** -/
structure ProcessOutcome where
  name : String
  status : ExitStatus
  terminated : Bool
  out : String
  err : String
  deriving DecidableEq, Inhabited

namespace ProcessOutcome

/-- The outcome of a named process; octets that are no text are replaced. -/
def ofEnding (name : String) (ending : Ending) : ProcessOutcome :=
  ⟨name, ending.status, ending.terminated, Text.decodeLossy ending.out, Text.decodeLossy ending.err⟩

/-- **Whether a process failed**: by itself, not because its time was over. -/
def failed (p : ProcessOutcome) : Bool := !p.terminated && !p.status.success

/-- Whether a line is written by a logger: it opens with a bracket. -/
def isLogLine (line : String) : Bool := Text.hasPrefix "[" line

/-- **The output without the lines of a logger.** -/
def outWithoutLogs (p : ProcessOutcome) : String :=
  Text.joinLines ((Text.fields '\n' p.out).filter (!isLogLine ·))

/-- The lines of a text, each four blanks to the right; no line end behind the last. -/
def indent (text : String) : String := Text.joinLines ((Text.lines text).map ("    " ++ ·))

/-- **What a user is shown of a process**: its output unless that is blank, and its errors if it
failed. -/
def echo (p : ProcessOutcome) : String :=
  let captured := p.outWithoutLogs
  (if Text.isBlankText captured then ""
    else "Captured output " ++ p.name ++ ":\n" ++ indent captured ++ "\n") ++
  if p.failed then
    "Error " ++ p.name ++ " (" ++ p.status.message ++ "):\n" ++ indent p.err ++ "\n"
  else ""

end ProcessOutcome

/-- **What is known of one pair.** -/
inductive PairOutcome where
  /-- An executable is not there. -/
  | skipped (missing : Path)
  | ran (server : ProcessOutcome) (client : Option ProcessOutcome)
  deriving DecidableEq, Inhabited

namespace PairOutcome

/-- **Whether a pair failed**: one of its processes did. -/
def failed : PairOutcome → Bool
  | skipped _ => false
  | ran server client => server.failed || client.any ProcessOutcome.failed

/-- **What a user is shown of a pair.** -/
def echo : PairOutcome → String
  | skipped missing => "Skip: " ++ missing.text ++ " not found\n"
  | ran server client => server.echo ++ (client.map ProcessOutcome.echo).getD ""

end PairOutcome

end UaHeaders
