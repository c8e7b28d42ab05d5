import UaHeaders.Files.Tree
import UaHeaders.Problem

/-!
# Sweeps over files

A sweep visits files one after the other and edits their text. It stops at the first
file that cannot be read or written; what was edited before stays so.

## Main definitions

* `UaHeaders.FileTree.filesUnder` — the paths of the regular files below a directory.
* `UaHeaders.Sweep.changeAll` — the sweep; it answers the paths of the files that changed.
-/

set_option autoImplicit false

namespace UaHeaders

/-- **The paths of the regular files below `dir`**, at any depth, in component-wise order. Below
something that is no directory there are none. -/
def FileTree.filesUnder (t : FileTree) (dir : Path) : List Path :=
  match t.locate dir with
  | .error _ => []
  | .ok l => (t.filesBelow l).map fun rest => dir.join ("/".intercalate rest)

namespace Sweep

/-- Edits one file, and answers whether its text changed. -/
def changeFile (edit : String → String) (path : Path) (t : FileTree) :
    Except Problem Bool × FileTree :=
  match t.readText path with
  | .error _ => (.error (.unreadable path), t)
  | .ok text =>
    if edit text = text then (.ok false, t)
    else
      match t.write path (edit text).toUTF8 with
      | .error _ => (.error (.unwritable path), t)
      | .ok t => (.ok true, t)

/-- **Edits files in order.** Answers the paths of those that changed, a path given twice perhaps
twice. -/
def changeAll (edit : String → String) : List Path → FileTree →
    Except Problem (List Path) × FileTree
  | [], t => (.ok [], t)
  | path :: rest, t =>
    match changeFile edit path t with
    | (.error problem, t) => (.error problem, t)
    | (.ok changed, t) =>
      match changeAll edit rest t with
      | (.error problem, t) => (.error problem, t)
      | (.ok paths, t) => (.ok (if changed then path :: paths else paths), t)

end Sweep

end UaHeaders
