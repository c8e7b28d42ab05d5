import UaHeaders.Shell.Condition
import UaHeaders.Shell.Expand

/-!
# Builtin commands

The commands that change the shell itself: its variables, arguments, directory and settings, what it
does at a signal, and its end.

## Main definitions

* `UaHeaders.Shell.Process.receive` — the arrival of a signal.
* `UaHeaders.Shell.splitLine` — a line cut into as many fields as there are variables.
* `UaHeaders.Shell.builtin?` — the builtin of a name.
* `UaHeaders.Shell.isSpecial` — those whose misuse ends the shell.
-/

set_option autoImplicit false

namespace UaHeaders.Shell

/-! ## The end and signals -/

/-- A number without a sign, as the shell reads one. -/
def plainNumber? (s : String) : Option Nat :=
  if !s.isEmpty && s.toList.all Char.isDigit then some (decimalValue s.toList) else none

/-- Leaves with a status, that of the last command by default. -/
def exit_ : Utility := fun p t args =>
  match args with
  | [] => (p.leave p.status, t)
  | arg :: _ =>
    match plainNumber? arg with
    | some code => (p.leave (code % 256), t)
    | none => p.abort t 2 ("exit: Illegal number: " ++ arg)

/-- Signals that do nothing to a process that has made no arrangement: number 0 and those for a
child's end, for continuing, and for notices. -/
def harmlessSignals : List Nat := [0, 17, 18, 19, 20, 21, 22, 23, 28]

/-- **The arrival of a signal.** The one that kills takes no heed of arrangements. -/
def Process.receive (p : Process) (signal : Nat) : Process :=
  let arranged := if signal == ExitStatus.killSignal || signal == 0 then none
    else p.session.traps.lookup signal
  match arranged with
  | some script =>
    match readScript script with
    | some command => { p with frames := .run command :: p.frames }
    | none => p
  | none => if harmlessSignals.contains signal then p else p.finish (.ofSignal signal)

/-- The number of a signal given by number or name. -/
def signalOf? (s : String) : Option Nat := plainNumber? s <|> ExitStatus.signalNumber? s

/-- **Sends a signal**; only the process itself can be reached. -/
def kill : Utility := fun p t args =>
  let send := fun (signal : Nat) (targets : List String) =>
    match targets.find? fun target => (plainNumber? target).isNone with
    | some target => p.blame t 2 ("kill: Illegal number: " ++ target)
    | none =>
      if targets.contains (toString Process.ownNumber) then (p.receive signal, t)
      else if targets.isEmpty then
        p.blame t 2 ("kill: Usage: kill [-s sigspec | -signum | -sigspec] [pid | job]... or\n" ++
          "kill -l [exitstatus]")
      else p.blame t 1 "kill: No such process\n"
  match args with
  | "-s" :: name :: rest =>
    match signalOf? name with
    | some signal => send signal rest
    | none => p.blame t 2 ("kill: invalid signal number or name: " ++ name)
  | first :: rest =>
    match first.toList with
    | '-' :: c :: name =>
      match signalOf? (String.ofList (c :: name)) with
      | some signal => send signal rest
      | none => p.blame t 2 ("kill: Illegal option -" ++ String.singleton c)
    | _ => send 15 (first :: rest)
  | [] => send 15 []

/-- The number under which an arrangement for a condition is kept. -/
def trapNumber? (s : String) : Option Nat :=
  if s == "EXIT" then some 0
  else if s.startsWith "SIG" then none
  else signalOf? s

/-- **Arranges what is done at signals** or at the end. -/
def trap : Utility := fun p t args =>
  let set := fun (p : Process) (number : Nat) (script : Option String) =>
    let others := p.session.traps.filter (·.1 != number)
    { p with session := { p.session with
        traps := match script with
          | some s => (number, s) :: others
          | none => others } }
  let go := fun (script : Option String) (conditions : List String) =>
    conditions.foldl
      (fun (state : Process × FileTree) condition =>
        match trapNumber? condition with
        | some number => (set state.1 number script, state.2)
        | none => state.1.complain state.2 1 ("trap: " ++ condition ++ ": bad trap"))
      (p, t)
  match args with
  | "--" :: script :: conditions => go (if script == "-" then none else some script) conditions
  | "-" :: conditions => go none conditions
  | [condition] => go none [condition]
  | script :: conditions =>
    if (plainNumber? script).isSome then go none (script :: conditions)
    else go (some script) conditions
  | [] => (p, t)

/-! ## Variables and arguments -/

/-- Whether a text may name a variable. -/
def isVariableName (s : String) : Bool :=
  match s.toList with
  | [] => false
  | c :: cs => !c.isDigit && (c :: cs).all isNameChar

/-- The name and perhaps the value in an argument such as `name=value`. -/
def splitAssignment (arg : String) : String × Option String :=
  let name := arg.toList.takeWhile (· != '=')
  match arg.toList.drop name.length with
  | _ :: value => (String.ofList name, some (String.ofList value))
  | [] => (String.ofList name, none)

/-- Sets variables, and does something more for each. -/
def assigning (label : String) (more : Process → String → Process) : Utility := fun p t args =>
  (args.filter fun a => !a.startsWith "-").foldl
    (fun (state : Process × FileTree) arg =>
      let (name, value) := splitAssignment arg
      if isVariableName name then
        let p := match value with
          | some v => state.1.assign name v
          | none => state.1
        (more p name, state.2)
      else state.1.abort state.2 2 (label ++ ": " ++ name ++ ": bad variable name"))
    (p, t)

/-- Notes the values of variables for the end of the innermost defined command among tasks, if there is
one. -/
def keepUntilEnd (values : List (String × Option String)) : List Frame → Option (List Frame)
  | [] => none
  | .comeBack args before :: rest => some (.comeBack args (values ++ before) :: rest)
  | frame :: rest => (keepUntilEnd values rest).map (frame :: ·)

/-- **Sets variables for as long as a defined command runs.** -/
def local_ : Utility := fun p t args =>
  let names := args.map fun a => (splitAssignment a).1
  match keepUntilEnd (names.map fun name => (name, p.valueOf? name)) p.frames with
  | some frames => assigning "local" (fun p _ => p) { p with frames } t args
  | none => p.abort t 2 "local: not in a function"

/-- Takes variables or defined commands away. -/
def unset : Utility := fun p t args =>
  let names := args.filter fun a => !a.startsWith "-"
  if args.head? == some "-f" then
    ({ p with session := { p.session with
        functions := p.session.functions.filter fun f => !names.contains f.1 } }, t)
  else (names.foldl Process.unassign p, t)

/-- Drops the first arguments. -/
def shift : Utility := fun p t args =>
  match plainNumber? (args.headD "1") with
  | some n =>
    if n ≤ p.args.length then ({ p with args := p.args.drop n }, t)
    else p.abort t 2 "shift: can't shift that many"
  | none => p.abort t 2 ("shift: Illegal number: " ++ args.headD "")

/-- Turns settings on or off by their letters. -/
def setLetters (on : Bool) (p : Process) (t : FileTree) : List Char → Process × FileTree
  | [] => (p, t)
  | 'e' :: cs => setLetters on { p with session := { p.session with strict := on } } t cs
  | 'u' :: cs => setLetters on { p with session := { p.session with demanding := on } } t cs
  | c :: cs =>
    if "abCfhmnvx".toList.contains c then setLetters on p t cs
    else p.abort t 2 ("set: Illegal option -" ++ String.singleton c)

/-- **Changes settings, and the arguments** if there are any others. -/
def set_ : Utility := fun p t args =>
  let go := args.foldl
    (fun (state : Option Bool × List String × Process × FileTree) arg =>
      let (named, rest, p, t) := state
      match named, rest, arg.toList with
      | some on, _, _ =>
        let (p, t) := match arg with
          | "errexit" => setLetters on p t ['e']
          | "nounset" => setLetters on p t ['u']
          | name => p.abort t 2 ("set: Illegal option -o " ++ name)
        (none, rest, p, t)
      | none, [], ['-', '-'] => (none, ["--"], p, t)
      | none, [], ['-', 'o'] => (some true, [], p, t)
      | none, [], ['+', 'o'] => (some false, [], p, t)
      | none, [], '-' :: cs => let (p, t) := setLetters true p t cs; (none, [], p, t)
      | none, [], '+' :: cs => let (p, t) := setLetters false p t cs; (none, [], p, t)
      | none, [], _ => (none, ["--", arg], p, t)
      | none, rest, _ => (none, rest ++ [arg], p, t))
    (none, [], p, t)
  let (_, rest, p, t) := go
  (match rest with
    | _ :: args => { p with args }
    | [] => p, t)

/-! ## Reading lines -/

/-- A line of input, with what is protected by backslashes; whether it was ended; and the rest. With
`raw` a backslash is a character like others. -/
def takeLine (raw : Bool) (line : List (UInt8 × Bool)) : List UInt8 →
    List (UInt8 × Bool) × Bool × List UInt8
  | [] => (line.reverse, false, [])
  | 10 :: rest => (line.reverse, true, rest)
  | [b] => (if b == 92 && !raw then line.reverse else ((b, false) :: line).reverse, false, [])
  | b :: c :: rest =>
    if b == 92 && !raw then
      if c == 10 then takeLine raw line rest else takeLine raw ((c, true) :: line) rest
    else takeLine raw ((b, false) :: line) (c :: rest)

/-- The characters of a line, with what is protected in it. -/
def lineChars (line : List (UInt8 × Bool)) : List PatternChar :=
  if line.all fun b => !b.2 then
    (Text.decodeLossy (octets (line.map Prod.fst))).toList.map (·, false)
  else line.map fun (b, kept) => (Char.ofNat b.toNat, kept)

/-- Whether a character separates. -/
def separates (separators : List Char) (c : PatternChar) : Bool :=
  !c.2 && separators.contains c.1

/-- Whether a character separates as white space. -/
def separatesWhite (separators : List Char) (c : PatternChar) : Bool :=
  separates separators c && isWhite c.1

/-- The text behind one separator with the white space around it. -/
def skipSeparator (separators : List Char) (cs : List PatternChar) : List PatternChar :=
  match cs.dropWhile (separatesWhite separators) with
  | c :: rest =>
    if separates separators c then rest.dropWhile (separatesWhite separators) else c :: rest
  | [] => []

/-- **A line cut into `count` fields**, the last of which takes what is left. -/
def splitLine (separators : List Char) : Nat → List PatternChar → List String
  | 0, _ => []
  | 1, cs =>
    [fieldText (cs.reverse.dropWhile (separatesWhite separators)).reverse]
  | count + 1, cs =>
    let field := cs.takeWhile fun c => !separates separators c
    fieldText field :: splitLine separators count (skipSeparator separators (cs.drop field.length))

/-- **Reads a line of input into variables.** -/
def read : Utility := fun p t args =>
  let names := args.filter fun a => !a.startsWith "-"
  let (line, ended, rest) := takeLine (args.contains "-r") [] p.streams.input
  let cs := (lineChars line).dropWhile (separatesWhite p.separators)
  let p := (names.zip (splitLine p.separators names.length cs)).foldl
    (fun p (name, value) => p.assign name value) (p.withInput rest)
  (p.withStatus (if ended then 0 else 1), t)

/-! ## All of them -/

/-- Changes the directory. -/
def cd : Utility := fun p t args =>
  match args.filter (· != "--") with
  | [] => (p, t)
  | dir :: _ =>
    if t.isDir (p.pathOf dir) then ({ p with workdir := p.pathOf dir }, t)
    else p.blame t 2 ("cd: can't cd to " ++ dir)

/-- **The builtin of a name.** -/
def builtin? (name : String) : Option Utility :=
  match name with
  | ":" => some fun p t _ => (p, t)
  | "true" => some fun p t _ => (p, t)
  | "false" => some fun p t _ => (p.withStatus 1, t)
  | "echo" => some echo
  | "printf" => some printf
  | "test" => some (testUtility "test")
  | "[" => some bracketUtility
  | "exit" => some exit_
  | "kill" => some kill
  | "trap" => some trap
  | "shift" => some shift
  | "set" => some set_
  | "export" => some (assigning "export" Process.export_)
  | "readonly" => some (assigning "readonly" fun p _ => p)
  | "local" => some local_
  | "unset" => some unset
  | "read" => some read
  | "cd" => some cd
  | "pwd" => some fun p t _ => p.say t 1 ((t.workdirPath.join p.workdir).text ++ "\n")
  | "umask" => some fun p t args => if args.isEmpty then p.say t 1 "0022\n" else (p, t)
  | "wait" => some fun p t _ => (p, t)
  | _ => none

/-- **The builtins whose misuse ends the shell.** -/
def isSpecial (name : String) : Bool :=
  [":", ".", "break", "continue", "eval", "exec", "exit", "export", "readonly", "return", "set",
    "shift", "trap", "unset"].contains name

end UaHeaders.Shell
