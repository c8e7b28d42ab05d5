import UaHeaders.Files.Tree
import UaHeaders.Process.Status
import UaHeaders.Shell.Reader

/-!
# Processes

The state of a process that runs a shell script: what it still has to do, its parameters and
variables, where its streams go, what it has printed, and the time at which it does its next step.

## Main definitions

* `UaHeaders.Shell.Frame` — what is still to be done.
* `UaHeaders.Shell.Process` — the state.
* `UaHeaders.Shell.Process.finish`, `leave` — the end.
* `UaHeaders.Shell.Process.emit`, `complain`, `blame` — printing to a stream.
* `UaHeaders.Shell.Process.redirect` — opening and joining streams.

## Design

A step does one simple command. It takes no time, except that `sleep` moves the clock of the process
forward; so two processes can be run side by side by always taking the step of the one whose clock is
behind.
-/

set_option autoImplicit false

namespace UaHeaders.Shell

/-- Where a stream ends. -/
inductive Sink where
  | captured
  | capturedError
  | file (path : Path)
  | discarded
  deriving Inhabited

/-- The streams of a process: the input still to be read, and the ends of the numbered outputs. -/
structure Streams where
  input : List UInt8
  sinks : List (Nat × Sink)

/-- Nothing to read, standard output and standard error captured. -/
def Streams.captured : Streams := ⟨[], [(1, .captured), (2, .capturedError)]⟩

/-- The end of a stream; a stream that is not open discards. -/
def Streams.sink (s : Streams) (stream : Nat) : Sink := (s.sinks.lookup stream).getD .discarded

/-- Sends a stream to another end. -/
def Streams.send (s : Streams) (stream : Nat) (sink : Sink) : Streams :=
  { s with sinks := (stream, sink) :: s.sinks.filter (·.1 != stream) }

/-- **What a process still has to do.** -/
inductive Frame where
  /-- A command. -/
  | run (command : Command)
  /-- A command whose words are known. -/
  | call (words : List String)
  /-- The command if the last one succeeded, or with `false` if it failed. -/
  | whenStatus (succeeded : Bool) (command : Command)
  /-- Exchanges success and failure. -/
  | negate
  /-- One of two commands, by the last status. -/
  | branch (yes no : Command)
  /-- The body of a loop once more, if its test came out as expected. -/
  | test (expected : Bool) (test body : Command)
  /-- The test of a loop, after its body. -/
  | again (expected : Bool) (test body : Command)
  /-- The body of a loop over fields, for those left. -/
  | each (name : String) (fields : List String) (body : Command)
  /-- Puts the ends of the outputs back, and the input if it was another one. -/
  | restore (sinks : List (Nat × Sink)) (input : Option (List UInt8))
  /-- Comes back from a defined command to the arguments and to the values of variables before. -/
  | comeBack (args : List String) (values : List (String × Option String))
  /-- Leaves with the last status. -/
  | leave
  /-- Leaves with a status that was known before. -/
  | leaveWith (status : Nat)
  deriving Inhabited

/-- **What a shell carries from command to command.** -/
structure Session where
  values : List (String × String)
  /-- The variables that other programs see. -/
  exported : List String
  functions : List (String × Command)
  /-- What is done at a signal, and at the end under number zero. -/
  traps : List (Nat × String)
  /-- A command that fails ends the process. -/
  strict : Bool
  /-- A parameter without value ends the process. -/
  demanding : Bool
  /-- The number of the last line of the script. -/
  lastLine : Nat
  /-- The line of the command that is done. -/
  line : Nat

/-- The session of a shell that starts. -/
def Session.fresh : Session :=
  { values := [], exported := [], functions := [], traps := [], strict := false,
    demanding := false, lastLine := 1, line := 1 }

/-- **The state of a process.** Times are in nanoseconds from a common start. -/
structure Process where
  frames : List Frame
  name : String
  args : List String
  session : Session
  workdir : Path
  streams : Streams
  status : Nat
  out : ByteArray
  err : ByteArray
  clock : Nat
  ended : Option ExitStatus

namespace Process

/-- The number by which a process knows itself. -/
def ownNumber : Nat := 4242

/-- A process with the given tasks, not yet started. -/
def start (frames : List Frame) (name : String) (args : List String) : Process :=
  { frames, name, args, session := .fresh, workdir := "", streams := .captured, status := 0,
    out := .empty, err := .empty, clock := 0, ended := none }

/-- Whether the process is still there. -/
def running (p : Process) : Bool := p.ended.isNone

/-- The process after it has ended by itself or by a signal. -/
def finish (p : Process) (status : ExitStatus) : Process :=
  { p with ended := some status, frames := [] }

/-- The process with the status of its last command set. -/
def withStatus (p : Process) (status : Nat) : Process := { p with status }

/-- A path as the process means it. -/
def pathOf (p : Process) (text : String) : Path := p.workdir.join text

/-- **Prints octets to a stream.** -/
def emit (p : Process) (t : FileTree) (stream : Nat) (octets : ByteArray) : Process × FileTree :=
  match p.streams.sink stream with
  | .captured => ({ p with out := p.out ++ octets }, t)
  | .capturedError => ({ p with err := p.err ++ octets }, t)
  | .discarded => (p, t)
  | .file path =>
    match t.append path octets with
    | .ok t' => (p, t')
    | .error _ => (p.withStatus 1, t)

/-- Prints a text to a stream. -/
def say (p : Process) (t : FileTree) (stream : Nat) (text : String) : Process × FileTree :=
  p.emit t stream text.toUTF8

/-- Prints a complaint and fails with `status`. -/
def complain (p : Process) (t : FileTree) (status : Nat) (text : String) : Process × FileTree :=
  let (p, t) := p.say t 2 (text ++ "\n")
  (p.withStatus status, t)

/-- The place of the command that is done: the name of the process and the line. -/
def place (p : Process) : String := p.name ++ ": " ++ toString p.session.line ++ ": "

/-- **Prints a complaint of the shell itself**, with the place before it, and fails with `status`. -/
def blame (p : Process) (t : FileTree) (status : Nat) (text : String) : Process × FileTree :=
  p.complain t status (p.place ++ text)

/-- The process with the line of the command that has `below` lines under its start. -/
def atLine (p : Process) (below : Nat) : Process :=
  { p with session := { p.session with line := p.session.lastLine - below } }

/-- **Leaves with a status**, unless something is to be done before. -/
def leave (p : Process) (status : Nat) : Process :=
  match p.session.traps.lookup 0 >>= readScript with
  | some command =>
    { p with frames := [.run command, .leaveWith status],
             session := { p.session with traps := p.session.traps.filter (·.1 != 0) } }
  | none => p.finish (.ofCode status)

/-- Prints a complaint of the shell itself and ends the process. -/
def abort (p : Process) (t : FileTree) (status : Nat) (text : String) : Process × FileTree :=
  let (p, t) := p.blame t status text
  (p.leave status, t)

/-- The value of a variable. -/
def valueOf? (p : Process) (name : String) : Option String := p.session.values.lookup name

/-- Takes the value of a variable away. -/
def unassign (p : Process) (name : String) : Process :=
  { p with session := { p.session with
      values := p.session.values.filter (·.1 != name) } }

/-- Sets a variable. -/
def assign (p : Process) (name value : String) : Process :=
  { p with session := { p.session with
      values := (name, value) :: p.session.values.filter (·.1 != name) } }

/-- Gives variables the values they had, or takes them away. -/
def takeBack (p : Process) (values : List (String × Option String)) : Process :=
  values.foldl
    (fun p (name, value) =>
      match value with
      | some v => p.assign name v
      | none => p.unassign name)
    p

/-- Shows a variable to other programs. -/
def export_ (p : Process) (name : String) : Process :=
  { p with session := { p.session with exported := name :: p.session.exported } }

/-- The variables that other programs see. -/
def environment (p : Process) : List (String × String) :=
  p.session.values.filter fun v => p.session.exported.contains v.1

/-- The process with the variables that another program shows to it. -/
def withEnvironment (p : Process) (values : List (String × String)) : Process :=
  { p with session := { p.session with values, exported := values.map Prod.fst } }

/-! ## Redirection -/

/-- A redirection with its word expanded. -/
inductive Opening where
  | input (name : String)
  | truncate (stream : Nat) (name : String)
  | extend (stream : Nat) (name : String)
  | duplicate (stream : Nat) (name : String)
  | here (text : String)

/-- Whether an opening gives another input. -/
def Opening.givesInput : Opening → Bool
  | input _ => true
  | here _ => true
  | _ => false

/-- The file that swallows all output and gives no input. -/
def nullFile : String := "/dev/null"

/-- What the shell says of a file that cannot be opened; `missing` are its words for one that is not
there. -/
def openFault (missing : String) (cause : Fault) : String :=
  if cause == .notFound || cause == .notDirectory then missing else cause.reason

/-- Gives the process another input. -/
def withInput (p : Process) (input : List UInt8) : Process :=
  { p with streams := { p.streams with input } }

/-- Sends an output to the file at a path, after `change` was done to it. -/
def sendTo (p : Process) (t : FileTree) (stream : Nat) (name : String)
    (change : Path → Except Fault FileTree) : Bool × Process × FileTree :=
  if name == nullFile then (true, { p with streams := p.streams.send stream .discarded }, t)
  else
    match change (p.pathOf name) with
    | .ok t' => (true, { p with streams := p.streams.send stream (.file (p.pathOf name)) }, t')
    | .error cause =>
      (false, p.blame t 2 ("cannot create " ++ name ++ ": " ++
        openFault "Directory nonexistent" cause))

/-- **Opens one stream.** Answers whether it could be opened. -/
def redirect (p : Process) (t : FileTree) (o : Opening) : Bool × Process × FileTree :=
  match o with
  | .input name =>
    if name == nullFile then (true, p.withInput [], t)
    else
      match t.read (p.pathOf name) with
      | .ok content => (true, p.withInput content.toList, t)
      | .error cause =>
        (false, p.blame t 2 ("cannot open " ++ name ++ ": " ++ openFault "No such file" cause))
  | .here text => (true, p.withInput text.toUTF8.toList, t)
  | .truncate stream name => p.sendTo t stream name fun path => t.write path .empty
  | .extend stream name => p.sendTo t stream name fun path => t.append path .empty
  | .duplicate stream name =>
    if name == "-" then (true, { p with streams := p.streams.send stream .discarded }, t)
    else
      match name.toNat? with
      | some source =>
        (true, { p with streams := p.streams.send stream (p.streams.sink source) }, t)
      | none => (false, p.blame t 2 "Syntax error: Bad fd number")

/-- Opens streams one after the other, as long as it goes well. -/
def redirectAll (p : Process) (t : FileTree) : List Opening → Bool × Process × FileTree
  | [] => (true, p, t)
  | o :: os =>
    match p.redirect t o with
    | (true, p, t) => p.redirectAll t os
    | failed => failed

/-- The task that puts the streams back as they are now, after the openings were done. -/
def restoring (p : Process) (openings : List Opening) : Frame :=
  .restore p.streams.sinks
    (if openings.any Opening.givesInput then some p.streams.input else none)

end Process

end UaHeaders.Shell
