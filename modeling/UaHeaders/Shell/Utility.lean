import UaHeaders.Shell.Editor
import UaHeaders.Shell.FileUtility

/-!
# Utilities

The commands that a script finds without a path and that are programs of their own.

## Main definitions

* `UaHeaders.Shell.utility?` — the utility of a name.
-/

set_option autoImplicit false

namespace UaHeaders.Shell

/-- **The utility of a name**, as a program of its own. Those that print, test and send signals are
known to the shell itself as well. -/
def utility? (name : String) : Option Utility :=
  match name with
  | "true" => some fun p t _ => (p, t)
  | "false" => some fun p t _ => (p.withStatus 1, t)
  | "cat" => some cat
  | "ls" => some list
  | "rm" => some remove
  | "mv" => some move
  | "cp" => some copy
  | "mkdir" => some makeDirectory
  | "rmdir" => some removeDirectory
  | "touch" => some touch
  | "mktemp" => some makeTemporary
  | "chmod" => some changeMode
  | "sleep" => some sleep
  | "dirname" => some fun p t args =>
    if args.isEmpty then p.complain t 1 (missingOperand "dirname" "operand")
    else p.say t 1 (String.join (args.map fun a => directoryPart a ++ "\n"))
  | "basename" => some fun p t args =>
    if args.isEmpty then p.complain t 1 (missingOperand "basename" "operand")
    else p.say t 1 (basePart (args.headD "") (args.getD 1 "") ++ "\n")
  | "sed" => some sed
  | "grep" => some grep
  | "tr" => some translate
  | "head" => some head
  | "tail" => some tail
  | "sort" => some sort
  | "uniq" => some uniq
  | "cut" => some cut
  | "tac" => some tac
  | "rev" => some rev
  | "wc" => some count
  | "tee" => some tee
  | "seq" => some seq
  | "cmp" => some compareFiles
  | _ => none

/-- The builtins that are programs of their own too. -/
def isProgramToo (name : String) : Bool :=
  ["echo", "printf", "test", "[", "kill", "pwd"].contains name

end UaHeaders.Shell
