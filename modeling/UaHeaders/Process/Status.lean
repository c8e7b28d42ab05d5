/-!
# Exit statuses

How a process ended, as the system reports it in one number: the low seven bits hold the signal that
ended it, the next one whether memory was dumped, and the eight bits above the exit code.

## Main definitions

* `UaHeaders.ExitStatus` — the number.
* `UaHeaders.ExitStatus.success`, `code?`, `signal?` — what it says.
* `UaHeaders.ExitStatus.message` — its wording.
-/

set_option autoImplicit false

namespace UaHeaders

/-- **How a process ended**, as one number. -/
structure ExitStatus where
  raw : Int
  deriving DecidableEq, Inhabited

namespace ExitStatus

/-- The status of a process that left with an exit code. -/
def ofCode (code : Nat) : ExitStatus := ⟨(code % 256 : Nat) * 256⟩

/-- The status of a process ended by a signal. -/
def ofSignal (signal : Nat) : ExitStatus := ⟨signal⟩

/-- The signal that ends a process at once. -/
def killSignal : Nat := 9

/-- Whether the process left with exit code zero. -/
def success (s : ExitStatus) : Bool := s.raw == 0

/-- The low seven bits. -/
def lowBits (s : ExitStatus) : Nat := (s.raw % 128).toNat

/-- The eight bits that hold an exit code. -/
def codeBits (s : ExitStatus) : Nat := (s.raw / 256 % 256).toNat

/-- The exit code, if the process left by itself. -/
def code? (s : ExitStatus) : Option Nat := if s.lowBits = 0 then some s.codeBits else none

/-- The signal that ended the process, if one did. -/
def signal? (s : ExitStatus) : Option Nat :=
  if 0 < s.lowBits ∧ s.lowBits < 127 then some s.lowBits else none

/-- Whether memory was dumped at the end. -/
def coreDumped (s : ExitStatus) : Bool := s.raw / 128 % 2 == 1

/-- The signal that stopped the process, if it is stopped and not ended. -/
def stopSignal? (s : ExitStatus) : Option Nat :=
  if s.raw % 256 = 127 then some s.codeBits else none

/-- The names of the signals, from signal 1 on. -/
def signalNames : List String :=
  ["SIGHUP", "SIGINT", "SIGQUIT", "SIGILL", "SIGTRAP", "SIGABRT", "SIGBUS", "SIGFPE", "SIGKILL",
    "SIGUSR1", "SIGSEGV", "SIGUSR2", "SIGPIPE", "SIGALRM", "SIGTERM", "SIGSTKFLT", "SIGCHLD",
    "SIGCONT", "SIGSTOP", "SIGTSTP", "SIGTTIN", "SIGTTOU", "SIGURG", "SIGXCPU", "SIGXFSZ",
    "SIGVTALRM", "SIGPROF", "SIGWINCH", "SIGIO", "SIGPWR", "SIGSYS"]

/-- A signal by number, and by name in parentheses if it has one. -/
def signalText (signal : Nat) : String :=
  match signal with
  | 0 => toString signal
  | n + 1 =>
    match signalNames[n]? with
    | some name => toString signal ++ " (" ++ name ++ ")"
    | none => toString signal

/-- The number whose name is `name`, with or without its first three letters. -/
def signalNumber? (name : String) : Option Nat :=
  (signalNames.findIdx? fun full => full == name || full == "SIG" ++ name).map (· + 1)

/-- The number as 32 bits in base sixteen. -/
def hexText (s : ExitStatus) : String :=
  "0x" ++ String.ofList (Nat.toDigits 16 (s.raw % 4294967296).toNat)

/-- **The wording of an exit status.** -/
def message (s : ExitStatus) : String :=
  match s.code?, s.signal?, s.stopSignal? with
  | some code, _, _ => "exit status: " ++ toString code
  | none, some signal, _ =>
    "signal: " ++ signalText signal ++ if s.coreDumped then " (core dumped)" else ""
  | none, none, some signal => "stopped (not terminated) by signal: " ++ signalText signal
  | none, none, none =>
    if s.raw = 65535 then "continued (WIFCONTINUED)"
    else "unrecognised wait status: " ++ toString s.raw ++ " " ++ s.hexText

end ExitStatus

end UaHeaders
