import UaHeaders.Process.Programs
import UaHeaders.Shell.Builtin
import UaHeaders.Shell.Utility

/-!
# Steps of a process

One step takes the topmost task of a process and does it. Nested processes, those of `$(…)`, pipes,
parentheses and script files, are run to their end within the step.

## Main definitions

* `UaHeaders.Shell.launch` — a process for a program and its arguments.
* `UaHeaders.Shell.Process.step` — one step.
* `UaHeaders.Shell.runWithin` — steps up to a bound.
* `UaHeaders.Shell.runProgram` — a program started and run to its end.

## Implementation notes

A script may loop for ever; `stepLimit` bounds its steps, and a process that has not ended by then is
still running.
-/

set_option autoImplicit false

namespace UaHeaders.Shell

/-- The most steps a process is followed for. -/
def stepLimit : Nat := 1000000

/-! ## Starting programs -/

/-- Whether the interpreter named in the first line of a script reads this language. -/
def readsScripts (line : List Char) : Bool :=
  match (String.ofList line).splitToList (fun c => c == ' ' || c == '\t') with
  | [] => false
  | path :: rest =>
    let name := basePart path ""
    ["sh", "bash", "dash"].contains name || (name == "env" && rest.head?.any (["sh", "bash"].contains ·))

/-- The process that runs a script. One that breaks the grammar leaves with status two. -/
def scriptProcess (script name : String) (args : List String) : Process :=
  match readScript script with
  | some command =>
    let p := Process.start [.run command] name args
    { p with session := { p.session with lastLine := lastLine script } }
  | none => .start [.leaveWith 2] name args

/-- The process of a script file. -/
def launchFile (t : FileTree) (path : Path) (args : List String) : Except Fault Process := do
  match ← t.lookup path with
  | .directory => .error .notExecutable
  | .file mode content =>
    if mode &&& 0o111 == 0 then .error .notExecutable
    else
      let script := Text.decodeLossy content
      match script.toList with
      | '#' :: '!' :: rest =>
        if readsScripts ((rest.takeWhile (· != '\n')).dropWhile (· == ' ')) then
          .ok (scriptProcess script path.text args)
        else .error .notFound
      | _ => .error .noProgram

/-- The process of the shell with its own arguments: options, then with `-c` a script and else the
file of one, then the name and the arguments of the process. -/
def launchShell (t : FileTree) (workdir : Path) (args : List String) : Process :=
  let options := args.takeWhile (·.startsWith "-")
  let letters := options.flatMap String.toList
  let p := match letters.contains 'c', args.drop options.length with
    | true, script :: rest => scriptProcess script (rest.headD "sh") (rest.drop 1)
    | true, [] => .start [.leaveWith 2] "sh" []
    | false, [] => .start [] "sh" []
    | false, file :: rest =>
      match t.readText (workdir.join file) with
      | .ok script => scriptProcess script file rest
      | .error cause =>
        let p := Process.start [.leaveWith 2] file rest
        let complaint := "sh: 0: cannot open " ++ file ++ ": " ++
          Process.openFault "No such file" cause ++ "\n"
        { p with err := complaint.toUTF8 }
  { p with session := { p.session with
      strict := letters.contains 'e', demanding := letters.contains 'u' } }

/-- **A process for a program and its arguments.** A name without a separator is that of the shell or
of a utility; one with a separator is the path of a script. -/
def launch (t : FileTree) (program : String) (args : List String) : Except Fault Process :=
  if (program :: args).any (·.toList.contains '\x00') then
    .error (.other "nul byte found in provided data")
  else if program.toList.contains '/' then launchFile t program args
  else if program == "sh" then .ok (launchShell t "" args)
  else if (utility? program).isSome || isProgramToo program then
    .ok (.start [.call (program :: args)] program args)
  else .error .notFound

namespace Process

/-! ## Tasks -/

/-- The process with a task put on top. -/
def push (p : Process) (frame : Frame) : Process := { p with frames := frame :: p.frames }

/-- The process with the streams put back. -/
def restore (p : Process) (sinks : List (Nat × Sink)) (input : Option (List UInt8)) : Process :=
  { p with streams := ⟨input.getD p.streams.input, sinks⟩ }

/-- Drops tasks up to the first that `stops`, which stays, and puts streams back on the way. Without
such a task nothing is dropped. -/
def dropTo (p : Process) (stops : Frame → Bool) : Process :=
  let go := p.frames.foldl
    (fun (state : Bool × Process) frame =>
      let (found, q) := state
      if found then (found, q)
      else if stops frame then (true, q)
      else
        let q := { q with frames := q.frames.tail }
        match frame with
        | .restore sinks input => (false, q.restore sinks input)
        | .comeBack args values => (false, { q.takeBack values with args })
        | _ => (false, q))
    (false, p)
  if go.1 then go.2 else p

/-- Whether a task goes on with a loop. -/
def isLoop : Frame → Bool
  | .again .. => true
  | .each .. => true
  | .test .. => true
  | _ => false

/-- Whether a task is the end of a defined command. -/
def isComeBack : Frame → Bool
  | .comeBack .. => true
  | _ => false

/-- Whether a task looks at the status of what is done before it. -/
def looksAtStatus : Frame → Bool
  | .whenStatus .. => true
  | .negate => true
  | .branch .. => true
  | .test .. => true
  | _ => false

/-- Ends a strict process whose last command has failed, unless a task looks at that. -/
def heed (p : Process) : Process :=
  if p.running && p.session.strict && p.status != 0 && !p.frames.any looksAtStatus then
    p.leave p.status
  else p

/-! ## Nested processes -/

/-- What the shell prints of a process that a signal has ended. -/
def signalNotice (signal : Nat) : Option String :=
  match signal with
  | 1 => some "Hangup"
  | 3 => some "Quit"
  | 4 => some "Illegal instruction"
  | 5 => some "Trace/breakpoint trap"
  | 6 => some "Aborted"
  | 7 => some "Bus error"
  | 8 => some "Floating point exception"
  | 9 => some "Killed"
  | 10 => some "User defined signal 1"
  | 11 => some "Segmentation fault"
  | 12 => some "User defined signal 2"
  | 14 => some "Alarm clock"
  | 15 => some "Terminated"
  | _ => none

/-- Runs another process to its end within this one, and takes over its status. -/
def within (run : Runner) (p : Process) (t : FileTree) (inner : Process) : Process × FileTree :=
  let (inner, t) := run { inner with clock := p.clock } t
  let (p, t) := p.emit t 1 inner.out
  let (p, t) := p.emit t 2 inner.err
  let p := { p with clock := max p.clock inner.clock }
  match inner.ended.getD (.ofSignal ExitStatus.killSignal) with
  | status =>
    match status.code?, status.signal? with
    | some code, _ => (p.withStatus code, t)
    | none, signal =>
      let signal := signal.getD ExitStatus.killSignal
      match signalNotice signal with
      | some notice => p.complain t (128 + signal) notice
      | none => (p.withStatus (128 + signal), t)

/-- A copy of the process for one command, with its output captured. -/
def fork (p : Process) (command : Command) (input : List UInt8) : Process :=
  { p with frames := [.run command], out := .empty, err := .empty,
           streams := { Streams.captured with input },
           -- ignored signals are inherited, other traps are not
           session := { p.session with traps := p.session.traps.filter (·.2.isEmpty) } }

/-! ## Commands -/

/-- Whether a name is that of a command. -/
def isCommand (p : Process) (name : String) : Bool :=
  (p.session.functions.lookup name).isSome || (builtin? name).isSome || isSpecial name ||
    ["command", "env"].contains name

/-- Where the command of a name is found: by itself, or as a program. -/
def whereIs? (p : Process) (t : FileTree) (name : String) : Option String :=
  if p.isCommand name then some name
  else if name.toList.contains '/' then
    if (launchFile t (p.pathOf name) []).isOk then some name else none
  else if (utility? name).isSome || name == "sh" then some ("/usr/bin/" ++ name)
  else none

/-- Starts a program with its environment and runs it to its end. -/
def runProgram (run : Runner) (p : Process) (t : FileTree) (label name : String)
    (args : List String) : Process × FileTree :=
  let ready := fun (inner : Process) =>
    let inner := inner.withEnvironment p.environment
    { inner with workdir := p.workdir, streams := { Streams.captured with input := p.streams.input } }
  let launched :=
    if name.toList.contains '/' then
      (launchFile t (p.pathOf name) args).map fun inner => { inner with name }
    else if name == "sh" then .ok (launchShell t p.workdir args)
    else .error .notFound
  match launched with
  | .ok inner => (p.withInput []).within run t (ready inner)
  -- a file that names no interpreter is a script of the shell
  | .error .noProgram =>
    let script := (t.readText (p.pathOf name)).toOption.getD ""
    (p.withInput []).within run t (ready (scriptProcess script name args))
  | .error .notFound =>
    p.blame t 127 (label ++ name ++ if name.isEmpty then ": Permission denied" else ": not found")
  | .error .notDirectory => p.blame t 127 (label ++ name ++ ": not found")
  | .error _ => p.blame t 126 (label ++ name ++ ": Permission denied")

/-- Does a command that is neither defined nor acts on the tasks of the process. -/
def callProgram (run : Runner) (p : Process) (t : FileTree) (label : String) (name : String)
    (args : List String) : Process × FileTree :=
  match builtin? name <|> utility? name with
  | some act => act (if name == "exit" then p else p.withStatus 0) t args
  | none => p.runProgram run t label name args

/-- Reads a script and does it as the next task. -/
def source (p : Process) (t : FileTree) (script : String) : Process × FileTree :=
  match readScript script with
  | some command => ((p.withStatus 0).push (.run command), t)
  | none => (p.finish (.ofCode 2), t)

/-- Does a command whose words are known. -/
def call (run : Runner) (p : Process) (t : FileTree) : List String → Process × FileTree
  | [] => (p.withStatus 0, t)
  | name :: args =>
    match name, args with
    | "exec", [] => (p, t)
    | "exec", program :: args =>
      match p.whereIs? t program with
      | some _ => ({ p with frames := [.call (program :: args), .leave] }, t)
      | none =>
        let (p, t) := p.runProgram run t "exec: " program args
        (p.finish (.ofCode p.status), t)
    | "break", _ =>
      let q := p.dropTo isLoop
      (if q.frames.head?.any isLoop then { q with frames := q.frames.tail, status := 0 } else p, t)
    | "continue", _ => ((p.dropTo isLoop).withStatus 0, t)
    | "return", args =>
      let status := (args.head?.bind plainNumber?).getD p.status
      if p.frames.any isComeBack then ((p.dropTo isComeBack).withStatus status, t)
      else (p.leave status, t)
    | "eval", args => p.source t (" ".intercalate args)
    | ".", file :: _ =>
      match t.readText (p.pathOf file) with
      | .ok script => p.source t script
      | .error cause =>
        p.abort t 2 (".: cannot open " ++ file ++ ": " ++ openFault "No such file" cause)
    | "command", "-v" :: names =>
      match (names.take 1).filterMap (p.whereIs? t) with
      | [] => (p.withStatus 127, t)
      | found => (p.withStatus 0).say t 1 (String.join (found.map (· ++ "\n")))
    | "command", name :: args => p.callProgram run t "" name args
    | "env", args =>
      let settings := args.takeWhile (·.toList.contains '=')
      let inner := settings.foldl
        (fun q a => let (n, v) := splitAssignment a; (q.assign n (v.getD "")).export_ n) p
      match args.drop settings.length with
      | [] =>
        (p.withStatus 0).say t 1 (String.join (inner.environment.map fun (n, v) =>
          n ++ "=" ++ v ++ "\n"))
      | name :: args =>
        let (inner, t) := inner.callProgram run t "" name args
        ({ inner with session := p.session }, t)
    | name, args =>
      match p.session.functions.lookup name with
      | some body =>
        let before := p.args
        (({ p.withStatus 0 with args }.push (.comeBack before [])).push (.run body), t)
      | none => p.callProgram run t "" name args

/-- Sets variables to the values of words. -/
def assignAll (run : Runner) (p : Process) (t : FileTree) : List (String × Word) →
    Process × FileTree
  | [] => (p, t)
  | (name, word) :: rest =>
    let (value, p, t) := p.text run t word
    (p.assign name value).assignAll run t rest

/-- Does a command with values that hold for it alone, except for the commands of the shell that act
on the shell itself. -/
def callWith (run : Runner) (p : Process) (t : FileTree) (assignments : List (String × Word))
    (names : List String) : Process × FileTree :=
  let before := assignments.map fun a => (a.1, p.valueOf? a.1)
  let exported := p.session.exported
  let (p, t) := p.assignAll run t assignments
  if !p.running then (p, t)
  else if assignments.isEmpty || isSpecial (names.headD "") then p.call run t names
  else
    let (p, t) := ((before.map Prod.fst).foldl export_ p).call run t names
    let p := p.takeBack before
    ({ p with session := { p.session with exported } }, t)

/-- Does a simple command: words and redirections are expanded, then it is done by its name. -/
def simple (run : Runner) (p : Process) (t : FileTree) (assignments : List (String × Word))
    (words : List Word) (redirects : List Redirect) : Process × FileTree :=
  let (names, p, t) := (if words.isEmpty then p.withStatus 0 else p).fields run t words
  let (openings, p, t) := p.openings run t redirects
  if !p.running then (p, t)
  else
    let restoring := p.restoring openings
    match p.redirectAll t openings with
    | (false, p, t) =>
      -- a redirection that fails ends the shell where a special command has it
      let special := isSpecial (names.headD "")
      (if special then p.leave p.status else (p.push restoring), t)
    | (true, p, t) =>
      -- what `exec` redirects stays so
      if names.head? == some "exec" then p.callWith run t assignments names
      else
        let p := if openings.isEmpty then p else p.push restoring
        if names.isEmpty then p.assignAll run t assignments
        else p.callWith run t assignments names

/-- Begins a command: what is atomic is done, the rest becomes tasks. -/
def begin_ (run : Runner) (p : Process) (t : FileTree) : Command → Process × FileTree
  | .nothing => (p, t)
  | .simple below assignments words redirects =>
    (p.atLine below).simple run t assignments words redirects
  | .sequence first second => ((p.push (.run second)).push (.run first), t)
  | .andThen first second => ((p.push (.whenStatus true second)).push (.run first), t)
  | .orElse first second => ((p.push (.whenStatus false second)).push (.run first), t)
  | .negation body => ((p.push .negate).push (.run body), t)
  | .conditional test yes no => ((p.push (.branch yes no)).push (.run test), t)
  | .loop expected test body => ((p.push (.test expected test body)).push (.run test), t)
  | .each name words body =>
    let (fields, p, t) := p.fields run t words
    (if p.running then p.push (.each name fields body) else p, t)
  | .select subject patterns body otherwise =>
    let (text, p, t) := p.text run t subject
    let (found, p, t) := patterns.foldl
      (fun (state : Bool × Process × FileTree) word =>
        let (pattern, p, t) := state.2.1.pattern run state.2.2 word
        (state.1 || covers pattern text, p, t))
      (false, p, t)
    (if p.running then (p.withStatus 0).push (.run (if found then body else otherwise)) else p, t)
  | .subshell body => p.within run t (p.fork body p.streams.input)
  | .pipe first second =>
    let (left, t) := run (p.fork first p.streams.input) t
    let (p, t) := p.emit t 2 left.err
    let (q, t) := p.within run t (p.fork second left.out.toList)
    ({ q with clock := max q.clock left.clock }, t)
  | .redirected body redirects =>
    let (openings, p, t) := p.openings run t redirects
    let restoring := p.restoring openings
    match p.redirectAll t openings with
    | (false, p, t) => (p.push restoring, t)
    | (true, p, t) => ((p.push restoring).push (.run body), t)
  | .define name body =>
    ({ p.withStatus 0 with session := { p.session with
        functions := (name, body) :: p.session.functions.filter (·.1 != name) } }, t)

/-- Whether the end of a command is the end of something that may fail by itself. -/
def mayFail : Command → Bool
  | .simple .. => true
  | .subshell _ => true
  | .pipe .. => true
  | _ => false

/-- **One step**: the topmost task is done. A process without tasks ends with its last status. -/
def step (run : Runner) (p : Process) (t : FileTree) : Process × FileTree :=
  match p.frames with
  | [] => (p.leave p.status, t)
  | frame :: rest =>
    let p := { p with frames := rest }
    match frame with
    | .run command =>
      let (p, t) := p.begin_ run t command
      (if mayFail command then p.heed else p, t)
    | .call words => p.call run t words
    | .whenStatus succeeded command =>
      (if (p.status == 0) == succeeded then p.push (.run command) else p, t)
    | .negate => (p.withStatus (if p.status == 0 then 1 else 0), t)
    | .branch yes no => ((p.withStatus 0).push (.run (if p.status == 0 then yes else no)), t)
    | .test expected test body =>
      if (p.status == 0) == expected then
        ((p.push (.again expected test body)).push (.run body), t)
      else (p.withStatus 0, t)
    | .again expected test body => ((p.push (.test expected test body)).push (.run test), t)
    | .each name fields body =>
      match fields with
      | [] => (p, t)
      | field :: fields => (((p.assign name field).push (.each name fields body)).push (.run body), t)
    | .restore sinks input => (p.restore sinks input, t)
    | .comeBack args values => ({ p.takeBack values with args }, t)
    | .leave => (p.leave p.status, t)
    | .leaveWith status => (p.leave status, t)

end Process

/-- Up to `bound` steps; nested processes have the steps left. -/
def runWithin : Nat → Runner
  | 0, p, t => (p, t)
  | bound + 1, p, t =>
    if p.running then
      let (p, t) := p.step (runWithin bound) t
      runWithin bound p t
    else (p, t)

/-- **A program started and run to its end**, with the tree it leaves. -/
def runProgram : Programs := fun t program args =>
  match launch t program args with
  | .error cause => (.error cause, t)
  | .ok p =>
    let (p, t) := runWithin stepLimit p t
    (.ok ⟨p.ended.getD (.ofSignal ExitStatus.killSignal), p.out, p.err⟩, t)

end UaHeaders.Shell
