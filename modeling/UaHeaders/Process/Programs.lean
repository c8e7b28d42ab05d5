import UaHeaders.Files.Tree
import UaHeaders.Process.Status

/-!
# Programs

What other programs do is not this library's choice. Where one is run, the way of running programs is
a parameter, so that a statement about a run can say what it asks of them.

## Main definitions

* `UaHeaders.Finished` — what a program leaves when it has ended.
* `UaHeaders.Programs` — a way of running programs on a file tree.
-/

set_option autoImplicit false

namespace UaHeaders

/-- **What a program leaves when it has ended**: its status and what it wrote to its streams. -/
structure Finished where
  status : ExitStatus
  out : ByteArray
  err : ByteArray

/-- **A way of running programs.** A program is named and given arguments, and runs to its end; it may
change the tree. A program that cannot be started leaves a cause. -/
abbrev Programs := FileTree → String → List String → Except Fault Finished × FileTree

end UaHeaders
