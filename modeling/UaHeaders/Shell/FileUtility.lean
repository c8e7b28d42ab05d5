import UaHeaders.Shell.Filter
import UaHeaders.Shell.Glob

/-!
# Utilities for files

The utilities that print, make, move, copy and remove files, and those that take paths apart.

## Main definitions

* `UaHeaders.Shell.cat`, `list` — contents and names.
* `UaHeaders.Shell.remove`, `move`, `copy`, `makeDirectory`, `removeDirectory`, `touch`,
  `makeTemporary` — changes.
* `UaHeaders.Shell.Permissions` — what a mode such as `u+x,g-w` does.
* `UaHeaders.Shell.directoryPart`, `basePart` — parts of a path.
* `UaHeaders.Shell.sleep` — the passing of time.
-/

set_option autoImplicit false

namespace UaHeaders.Shell

/-! ## Paths -/

/-- The directory part of a path text. -/
def directoryPart (s : String) : String :=
  match (Path.mk s).parent? with
  | some up => if up.text.isEmpty then "." else up.text
  | none => if s.isEmpty then "." else "/"

/-- The last component of a path text, without an ending. -/
def basePart (s ending : String) : String :=
  let cs := (s.toList.reverse.dropWhile (· == '/')).takeWhile (· != '/')
  let name := String.ofList cs.reverse
  if name.isEmpty then (if s.isEmpty then "" else "/")
  else if name != ending && ending.toList.isSuffixOf name.toList then
    String.ofList (name.toList.take (name.length - ending.length))
  else name

/-! ## Contents and names -/

/-- Whether the output of a process goes to the file of a name. -/
def isOutput (p : Process) (t : FileTree) (name : String) : Bool :=
  match p.streams.sink 1 with
  | .file path => (t.locate path).toOption == (t.locate (p.pathOf name)).toOption
  | _ => false

/-- **Prints files one after the other.** A file that is the output itself is not read, unless it has
nothing in it. -/
def cat : Utility := fun p t args =>
  (if args.isEmpty then ["-"] else args.filter (· != "-u")).foldl
    (fun (state : Process × FileTree) name =>
      match state.1.contentOf state.2 name with
      | (.ok content, p) =>
        if name != "-" && !content.isEmpty && isOutput p state.2 name then
          p.complain state.2 1 ("cat: " ++ name ++ ": input file is output file")
        else p.emit state.2 1 (octets content)
      | (.error cause, p) => p.complain state.2 1 (usualComplaint "cat" name cause))
    (p, t)

/-- **Prints the names in directories**, and the files among the arguments themselves. -/
def list : Utility := fun p t args =>
  let (letters, names) := splitOptions args
  let names := if names.isEmpty then ["."] else names
  let missing := names.filter fun n => !t.pathExists (p.pathOf n)
  let (p, t) := missing.foldl
    (fun (state : Process × FileTree) n =>
      state.1.complain state.2 2 ("ls: cannot access '" ++ n ++ "': " ++
        (match state.2.lookup (state.1.pathOf n) with
          | .error cause => cause.reason
          | .ok _ => "")))
    (p, t)
  let sorted := names.mergeSort fun a b => decide (a ≤ b)
  let plain := letters.contains 'd'
  let files := sorted.filter fun n =>
    t.pathExists (p.pathOf n) && (plain || !t.isDir (p.pathOf n))
  let dirs := sorted.filter fun n => !plain && t.isDir (p.pathOf n)
  let namesOf := fun (dir : String) =>
    let all := (namesIn t (p.pathOf dir)).mergeSort fun a b => decide (a ≤ b)
    if letters.contains 'A' then all
    else if letters.contains 'a' then "." :: ".." :: all
    else all.filter fun n => !n.startsWith "."
  let listing := fun (ns : List String) => String.join (ns.map (· ++ "\n"))
  let titled := names.length > 1
  let blocks := (if files.isEmpty then [] else [listing files]) ++ dirs.map fun dir =>
    (if titled then dir ++ ":\n" else "") ++ listing (namesOf dir)
  p.say t 1 ("\n".intercalate blocks)

/-! ## Changes -/

/-- Runs an action on each of several files, going on after a failure. -/
def onEach (label : String) (act : Process → FileTree → String → Except Fault FileTree)
    (p : Process) (t : FileTree) (names : List String) : Process × FileTree :=
  names.foldl
    (fun (state : Process × FileTree) name =>
      match act state.1 state.2 name with
      | .ok t => (state.1, t)
      | .error cause =>
        state.1.complain state.2 1 (label ++ " '" ++ name ++ "': " ++ cause.reason))
    (p, t)

/-- **Removes files**, and directories if it is told so. -/
def remove : Utility := fun p t args =>
  let (letters, names) := splitOptions args
  let force := letters.contains 'f'
  let deep := letters.contains 'r' || letters.contains 'R'
  let act := fun (p : Process) (t : FileTree) (name : String) =>
    let path := p.pathOf name
    match if deep then t.removeAll path else t.removeFile path with
    | .error cause =>
      if force && (cause == .notFound || cause == .notDirectory) then .ok t else .error cause
    | done => done
  if names.isEmpty && !force then p.complain t 1 (missingOperand "rm" "operand")
  else onEach "rm: cannot remove" act p t names

/-- **Makes directories**, with `-p` those above too. -/
def makeDirectory : Utility := fun p t args =>
  let (letters, names) := splitOptions args
  let act := fun (p : Process) (t : FileTree) (name : String) =>
    if letters.contains 'p' then
      match t.makeDirs (p.pathOf name) with
      | (.ok (), t) => .ok t
      | (.error cause, _) => .error cause
    else t.makeDir (p.pathOf name)
  if names.isEmpty then p.complain t 1 (missingOperand "mkdir" "operand")
  else onEach "mkdir: cannot create directory" act p t names

/-- **Removes empty directories.** -/
def removeDirectory : Utility := fun p t args =>
  let (_, names) := splitOptions args
  if names.isEmpty then p.complain t 1 (missingOperand "rmdir" "operand")
  else onEach "rmdir: failed to remove" (fun p t name => t.removeDir (p.pathOf name)) p t names

/-- **Makes files that are missing.** -/
def touch : Utility := fun p t args =>
  let (letters, names) := splitOptions args
  let act := fun (p : Process) (t : FileTree) (name : String) =>
    let path := p.pathOf name
    if t.isDir path || (letters.contains 'c' && !t.pathExists path) then .ok t
    else t.append path .empty
  if names.isEmpty then p.complain t 1 (missingOperand "touch" "file operand")
  else onEach "touch: cannot touch" act p t names

/-- The name a copied or moved file gets: in a directory it keeps its own. -/
def targetName (p : Process) (t : FileTree) (source target : String) : String :=
  if t.isDir (p.pathOf target) then
    (if target.endsWith "/" then target else target ++ "/") ++ basePart source ""
  else target

/-- Copies or moves files to the last argument. -/
def toTarget (label : String) (act : Process → FileTree → String → String → Process × FileTree) :
    Utility := fun p t args =>
  let (_, names) := splitOptions args
  match names.reverse with
  | [] => p.complain t 1 (missingOperand label "file operand")
  | [only] =>
    p.complain t 1 (label ++ ": missing destination file operand after '" ++ only ++ "'\nTry '" ++
      label ++ " --help' for more information.")
  | target :: sources =>
    if sources.length > 1 && !t.isDir (p.pathOf target) then
      p.complain t 1 (label ++ ": target '" ++ target ++ "': " ++
        (if t.pathExists (p.pathOf target) then Fault.reason .notDirectory
          else Fault.reason .notFound))
    else
      sources.reverse.foldl
        (fun (state : Process × FileTree) source =>
          act state.1 state.2 source (targetName state.1 state.2 source target))
        (p, t)

/-- The entry at a path with all that lies below it, put at another path. -/
def transplant (t : FileTree) (old new : Path) : Except Fault FileTree := do
  let source ← t.locate old
  let target ← t.locate new
  let moved := (t.below source).map fun (at_, e) => (target ++ at_.drop source.length, e)
  match t.entry? source with
  | none => .error .notFound
  | some e => .ok (moved.foldl (fun t (at_, e) => t.put at_ e) (t.put target e))

/-- **Moves files.** -/
def move : Utility := toTarget "mv" fun p t source target =>
  let old := p.pathOf source
  let new := p.pathOf target
  if !t.pathExists old then
    p.complain t 1 ("mv: cannot stat '" ++ source ++ "': " ++ Fault.reason .notFound)
  else if (t.locate old).toOption == (t.locate new).toOption then
    p.complain t 1 ("mv: '" ++ source ++ "' and '" ++ target ++ "' are the same file")
  else
    let done := if t.isDir old then transplant t old new >>= fun t => t.removeAll old
      else t.rename old new
    match done with
    | .ok t => (p, t)
    | .error cause =>
      p.complain t 1 ("mv: cannot move '" ++ source ++ "' to '" ++ target ++ "': " ++ cause.reason)

/-- **Copies files**, and directories if it is told so. -/
def copy : Utility := fun p t args =>
  let (letters, _) := splitOptions args
  let deep := letters.contains 'r' || letters.contains 'R' || letters.contains 'a'
  toTarget "cp" (fun p t source target =>
    let old := p.pathOf source
    let new := p.pathOf target
    match t.lookup old with
    | .error cause =>
      p.complain t 1 ("cp: cannot stat '" ++ source ++ "': " ++ cause.reason)
    | .ok .directory =>
      if deep then
        match transplant t old new with
        | .ok t => (p, t)
        | .error cause =>
          p.complain t 1 ("cp: cannot create directory '" ++ target ++ "': " ++ cause.reason)
      else p.complain t 1 ("cp: -r not specified; omitting directory '" ++ source ++ "'")
    | .ok (.file mode content) =>
      if (t.locate old).toOption == (t.locate new).toOption then
        p.complain t 1 ("cp: '" ++ source ++ "' and '" ++ target ++ "' are the same file")
      else
        match t.writeWithMode new (mode &&& 0o755) content with
        | .ok t => (p, t)
        | .error cause =>
          p.complain t 1
            ("cp: cannot create regular file '" ++ target ++ "': " ++ cause.reason)) p t args

/-- **Makes an empty file of a new name** and prints its path. -/
def makeTemporary : Utility := fun p t _ =>
  let dir : Path := "/tmp"
  match (t.makeDirs dir).2.createTemp dir "tmp." "" with
  | .error cause => p.complain t 1 ("mktemp: failed to create file: " ++ cause.reason)
  | .ok (path, t) => p.say t 1 (path.text ++ "\n")

/-! ## Permissions -/

/-- **A change of permission bits**: new bits, or bits set, taken or given for some users. -/
inductive Permissions where
  | absolute (mode : Nat)
  | relative (clauses : List (Nat × Char × Nat))

namespace Permissions

/-- The bits of the users that letters name; none names all. -/
def usersMask (letters : List Char) : Nat :=
  if letters.isEmpty || letters.contains 'a' then 0o777
  else
    (if letters.contains 'u' then 0o700 else 0) ||| (if letters.contains 'g' then 0o070 else 0) |||
      (if letters.contains 'o' then 0o007 else 0)

/-- The bits that letters name, for all users. -/
def bitsOf (letters : List Char) : Nat :=
  (if letters.contains 'r' then 0o444 else 0) ||| (if letters.contains 'w' then 0o222 else 0) |||
    (if letters.contains 'x' then 0o111 else 0)

/-- Reads one clause such as `u+rw`. Without users what a new file may not have is left out. -/
def readClause (cs : List Char) : Option (Nat × Char × Nat) :=
  let users := cs.takeWhile "ugoa".toList.contains
  match cs.drop users.length with
  | op :: letters =>
    if "+-=".toList.contains op && letters.all "rwxX".toList.contains then
      let mask := if users.isEmpty then 0o755 else usersMask users
      some (usersMask users, op, bitsOf letters &&& mask)
    else none
  | [] => none

/-- **Reads a change of permission bits.** -/
def read (s : String) : Option Permissions :=
  if !s.isEmpty && s.toList.all isOctal then some (absolute (octalValue s.toList))
  else ((s.toList.splitOn ',').mapM readClause).map relative

/-- The bits after a change. -/
def apply (mode : Nat) : Permissions → Nat
  | absolute new => new
  | relative clauses =>
    clauses.foldl
      (fun mode (users, op, bits) =>
        let kept := 0o777 ^^^ (bits &&& users)
        match op with
        | '+' => mode ||| (bits &&& users)
        | '-' => mode &&& kept
        | _ => (mode &&& (0o777 ^^^ users)) ||| (bits &&& users))
      mode

end Permissions

/-- **Changes permission bits.** -/
def changeMode : Utility := fun p t args =>
  match args.filter (fun a => a != "-R" && a != "--") with
  | [] => p.complain t 1 (missingOperand "chmod" "operand")
  | [mode] =>
    p.complain t 1 ("chmod: missing operand after '" ++ mode ++
      "'\nTry 'chmod --help' for more information.")
  | mode :: names =>
    match Permissions.read mode with
    | none => p.complain t 1 ("chmod: invalid mode: '" ++ mode ++
        "'\nTry 'chmod --help' for more information.")
    | some permissions =>
      onEach "chmod: cannot access"
        (fun p t name => do
          let path := p.pathOf name
          t.setMode path (permissions.apply (← t.mode? path))) p t names

/-! ## Time -/

/-- The nanoseconds a duration such as `0.01` or `2m` stands for. -/
def duration? (s : String) : Option Nat :=
  let unit := fun (c : Char) => match c with
    | 's' => some 1
    | 'm' => some 60
    | 'h' => some 3600
    | 'd' => some 86400
    | _ => none
  let cs := s.toList
  let (number, factor) := match cs.getLast?.bind unit with
    | some factor => (cs.dropLast, factor)
    | none => (cs, 1)
  let whole := number.takeWhile (· != '.')
  let decimals := (number.dropWhile (· != '.')).drop 1
  if number.isEmpty || !(whole ++ decimals).all Char.isDigit then none
  else
    let nanos := decimalValue ((decimals ++ List.replicate 9 '0').take 9)
    some ((decimalValue whole * 1000000000 + nanos) * factor)

/-- **Lets time pass.** -/
def sleep : Utility := fun p t args =>
  if args.isEmpty then p.complain t 1 (missingOperand "sleep" "operand")
  else
    match args.filter fun a => (duration? a).isNone with
    | [] => ({ p with clock := p.clock + (args.filterMap duration?).foldr (· + ·) 0 }, t)
    | wrong =>
      p.complain t 1 ("\n".intercalate (wrong.map fun a =>
        "sleep: invalid time interval '" ++ a ++ "'") ++
        "\nTry 'sleep --help' for more information.")

end UaHeaders.Shell
