import Std.Data.ExtTreeMap
import UaHeaders.Files.Fault
import UaHeaders.Files.Path
import UaHeaders.Text.Octets

/-!
# File trees

A file tree maps locations to directories and regular files. A location is the list of components
from the root; it is what a path means once `.`, `..` and the working directory are accounted for.
The operations take a path, find its location, and answer either a new tree or the reason why not.

## Main definitions

* `UaHeaders.Location`, `UaHeaders.Entry`, `UaHeaders.FileTree` — trees.
* `UaHeaders.FileTree.entry?` — what stands at a location; two trees with the same working directory
  are equal when they agree on it.
* `UaHeaders.FileTree.locate` — the location a path means.
* `UaHeaders.FileTree.read`, `write`, `makeDirs`, `removeFile`, `removeDir`, `rename`, `setMode`,
  `createTemp` — the operations.
* `UaHeaders.FileTree.filesBelow` — the regular files below a directory, in component-wise order.
-/

set_option autoImplicit false

namespace UaHeaders

/-- **The components from the root of the tree.** -/
abbrev Location := List String

/-- **What stands at a location.** The mode of a file is its permission bits. -/
inductive Entry where
  | directory
  | file (mode : Nat) (content : ByteArray)
  deriving Inhabited

/-- **A file tree**, with the directory from which relative paths start. The root is always there and
is not listed. -/
structure FileTree where
  entries : Std.ExtTreeMap Location Entry compare
  workdir : Location

namespace FileTree

/-- The tree that holds its root only. -/
def empty : FileTree := ⟨∅, []⟩

/-! ## Locations -/

/-- **What stands at a location**, if anything does. -/
def entry? (t : FileTree) (l : Location) : Option Entry :=
  if l = [] then some .directory else t.entries[l]?

/-- Puts an entry at a location, in place of what was there. -/
def put (t : FileTree) (l : Location) (e : Entry) : FileTree :=
  { t with entries := t.entries.insert l e }

/-- Takes away the entry at a location. -/
def drop (t : FileTree) (l : Location) : FileTree :=
  { t with entries := t.entries.erase l }

/-- One step on the way: from the directory at `l` along one component. -/
def step (t : FileTree) (l : Location) (component : String) : Except Fault Location :=
  match t.entry? l with
  | none => .error .notFound
  | some (.file ..) => .error .notDirectory
  | some .directory =>
    if component = "" ∨ component = "." then .ok l
    else if component = ".." then .ok l.dropLast
    else if component.utf8ByteSize > 255 then .error .nameTooLong
    else .ok (l ++ [component])

/-- Where a path starts: at the root or at the working directory. -/
def start (t : FileTree) (p : Path) : Location := if p.isAbsolute then [] else t.workdir

/-- **The location a path means.** All directories on the way have to be there; the last component
need not be. -/
def locate (t : FileTree) (p : Path) : Except Fault Location :=
  if p.text.isEmpty then .error .notFound
  else if p.text.toList.contains '\x00' then .error .nulInName
  else if p.text.utf8ByteSize > 4095 then .error .nameTooLong
  else p.segments.foldlM t.step (t.start p)

/-- What stands at a path. -/
def lookup (t : FileTree) (p : Path) : Except Fault Entry := do
  match t.entry? (← t.locate p) with
  | some e => .ok e
  | none => .error .notFound

/-- Whether anything stands at a path. -/
def pathExists (t : FileTree) (p : Path) : Bool := (t.lookup p).isOk

/-- Whether a directory stands at a path. -/
def isDir (t : FileTree) (p : Path) : Bool :=
  match t.lookup p with
  | .ok .directory => true
  | _ => false

/-- Whether a regular file stands at a path. -/
def isFile (t : FileTree) (p : Path) : Bool :=
  match t.lookup p with
  | .ok (.file ..) => true
  | _ => false

/-! ## Files -/

/-- The content of the file at a path. -/
def read (t : FileTree) (p : Path) : Except Fault ByteArray := do
  match ← t.lookup p with
  | .file _ content => .ok content
  | .directory => .error .isDirectory

/-- The content of the file at a path, if it is text. -/
def readText (t : FileTree) (p : Path) : Except Fault String := do
  match Text.decode? (← t.read p) with
  | some s => .ok s
  | none => .error .notText

/-- The permission bits a new file gets. -/
def newFileMode : Nat := 0o644

/-- The permission bits of a temporary file. -/
def tempFileMode : Nat := 0o600

/-- Replaces the content of the file at a path. A file that was not there is made with `mode`. -/
def writeWithMode (t : FileTree) (p : Path) (mode : Nat) (content : ByteArray) :
    Except Fault FileTree := do
  let l ← t.locate p
  match t.entry? l with
  | some .directory => .error .isDirectory
  | some (.file old _) => .ok (t.put l (.file old content))
  | none => .ok (t.put l (.file mode content))

/-- **Replaces the content of the file at a path**, or makes the file. -/
def write (t : FileTree) (p : Path) (content : ByteArray) : Except Fault FileTree :=
  t.writeWithMode p newFileMode content

/-- Adds to the end of the file at a path, or makes the file. -/
def append (t : FileTree) (p : Path) (content : ByteArray) : Except Fault FileTree :=
  match t.read p with
  | .ok old => t.write p (old ++ content)
  | .error _ => t.write p content

/-- **Changes the permission bits** of what stands at a path. Those of a directory are not kept. -/
def setMode (t : FileTree) (p : Path) (mode : Nat) : Except Fault FileTree := do
  let l ← t.locate p
  match t.entry? l with
  | some (.file _ content) => .ok (t.put l (.file mode content))
  | some .directory => .ok t
  | none => .error .notFound

/-- The permission bits at a path; a directory has the usual ones. -/
def mode? (t : FileTree) (p : Path) : Except Fault Nat := do
  match ← t.lookup p with
  | .file mode _ => .ok mode
  | .directory => .ok 0o755

/-- **Removes the file** at a path. -/
def removeFile (t : FileTree) (p : Path) : Except Fault FileTree := do
  let l ← t.locate p
  match t.entry? l with
  | some (.file ..) => .ok (t.drop l)
  | some .directory => .error .isDirectory
  | none => .error .notFound

/-- **Moves the file at `source` over `target`**, which may be missing or a file. A directory is not
moved, and nothing is moved over a directory. -/
def rename (t : FileTree) (source target : Path) : Except Fault FileTree := do
  let from_ ← t.locate source
  match t.entry? from_ with
  | none => .error .notFound
  | some .directory => .error .notDirectory
  | some (.file mode content) =>
    match t.locate target with
    -- a separator at the end is the reason given even where the way is missing
    | .error cause => .error (if target.endsWithSeparator then .notDirectory else cause)
    | .ok place =>
      match t.entry? place with
      | some .directory => .error .isDirectory
      | _ =>
        if target.endsWithSeparator then .error .notDirectory
        else .ok ((t.drop from_).put place (.file mode content))

/-! ## Directories -/

/-- The path without separators at its end, as it is read when a directory is to be made. -/
def directoryName (p : Path) : Path :=
  match p.text.toList.reverse.dropWhile (· == '/') with
  | [] => p
  | cs => Path.ofRev cs

/-- **Makes one directory.** -/
def makeDir (t : FileTree) (p : Path) : Except Fault FileTree := do
  let l ← t.locate (directoryName p)
  match t.entry? l with
  | some _ => .error .alreadyExists
  | none => .ok (t.put l .directory)

/-- Makes the first directory of a list of which each lies in the next, and before it those that it
lies in. What was made stays when a later step fails. -/
def makeChain (t : FileTree) : List Path → Except Fault Unit × FileTree
  | [] => (.error .notFound, t)
  | p :: above =>
    if p.text.isEmpty then (.ok (), t)
    else
      match t.makeDir p with
      | .ok made => (.ok (), made)
      | .error .notFound =>
        match t.makeChain above with
        | (.error cause, t') => (.error cause, t')
        | (.ok (), t') =>
          match t'.makeDir p with
          | .ok made => (.ok (), made)
          -- a path such as `a/..` is there once `a` is made
          | .error cause => if t'.isDir p then (.ok (), t') else (.error cause, t')
      | .error cause => if t.isDir p then (.ok (), t) else (.error cause, t)

/-- **Makes a directory and those above it that are missing.** -/
def makeDirs (t : FileTree) (p : Path) : Except Fault Unit × FileTree := t.makeChain p.ancestors

/-- The entries below a directory with their locations, in component-wise order. -/
def below (t : FileTree) (l : Location) : List (Location × Entry) :=
  t.entries.toList.filter fun (at_, _) => l.isPrefixOf at_ && l.length < at_.length

/-- **Removes an empty directory.** -/
def removeDir (t : FileTree) (p : Path) : Except Fault FileTree := do
  let l ← t.locate p
  match t.entry? l with
  | none => .error .notFound
  | some (.file ..) => .error .notDirectory
  | some .directory =>
    match (directoryName p).segments.getLast? with
    | some "." => .error .invalid
    | some ".." => .error .notEmpty
    | _ => if l = [] ∨ (t.below l).length > 0 then .error .notEmpty else .ok (t.drop l)

/-- Removes what stands at a path with all that lies below. -/
def removeAll (t : FileTree) (p : Path) : Except Fault FileTree := do
  let l ← t.locate p
  match t.entry? l with
  | none => .error .notFound
  | some _ => .ok { t with entries := t.entries.filter fun at_ _ => !l.isPrefixOf at_ }

/-- **The regular files below a directory**, each given by its components from that directory, in
component-wise order. -/
def filesBelow (t : FileTree) (l : Location) : List Location :=
  (t.below l).filterMap fun (at_, e) =>
    match e with
    | .file .. => some (at_.drop l.length)
    | .directory => none

/-! ## Temporary files -/

/-- The path of the working directory from the root. -/
def workdirPath (t : FileTree) : Path := ⟨"/" ++ "/".intercalate t.workdir⟩

/-- The digits and letters that make temporary names. -/
def nameDigits : List Char := "0123456789ABCDEFGHIJKLMNOPQRSTUVWXYZabcdefghijklmnopqrstuvwxyz".toList

/-- The last `length` digits of `n` in base 62. -/
def nameOf : Nat → Nat → List Char
  | 0, _ => []
  | length + 1, n => nameOf length (n / 62) ++ [nameDigits.getD (n % 62) '0']

/-- The name of the `n`-th temporary file: six characters between a beginning and an end. -/
def tempName (beginning ending : String) (n : Nat) : String :=
  beginning ++ String.ofList (nameOf 6 n) ++ ending

/-- The path of a temporary file in `dir`, from the root. -/
def tempPath (t : FileTree) (dir : Path) (name : String) : Path := t.workdirPath.join (dir.join name)

/-- **Makes an empty temporary file in `dir`**, under the first name that is free, and readable for
its owner only. Answers its path from the root. -/
def createTemp (t : FileTree) (dir : Path) (beginning ending : String) :
    Except Fault (Path × FileTree) :=
  -- one name more than there are entries, so that one of them is free
  let candidates := (List.range (t.entries.size + 1)).map fun n =>
    t.tempPath dir (tempName beginning ending n)
  let path := (candidates.find? fun p => !t.pathExists p).getD
    (t.tempPath dir (tempName beginning ending 0))
  match t.locate path with
  | .error cause => .error (.atPath cause path.text)
  | .ok l =>
    match t.entry? l with
    | some _ => .error (.atPath .alreadyExists path.text)
    | none => .ok (path, t.put l (.file tempFileMode ByteArray.empty))

end FileTree

end UaHeaders
