import UaHeaders.Header.Formatter
import UaHeaders.Sweep.Change
import UaHeaders.Text.Search

/-!
# Sources

The sources of a project lie below a few directories and are known by the ends of their names. A sweep
runs a formatter on each of them.

## Main definitions

* `UaHeaders.Sweep.sourcesUnder` — the sources, directory by directory.
* `UaHeaders.Sweep.formatSources` — the sweep; the first failure ends it.
-/

set_option autoImplicit false

namespace UaHeaders.Sweep

/-- The directories that hold sources, in the order they are visited. -/
def sourceDirs : List String := ["examples", "include", "src", "tests"]

/-- How the names of sources end. -/
def sourceEndings : List String := [".cpp", ".h", ".hpp"]

/-- Whether a path names a source. -/
def isSource (path : Path) : Bool :=
  match path.fileName? with
  | some name => sourceEndings.any (Text.hasSuffix · name)
  | none => false

/-- **The sources of the project at `root`.** A directory that is missing is passed over. -/
def sourcesUnder (t : FileTree) (root : Path) : List Path :=
  sourceDirs.flatMap fun name =>
    let dir := root.join ⟨name⟩
    if t.isDir dir then (t.filesUnder dir).filter isSource else []

/-- Runs a formatter on files in order, as long as it succeeds. -/
def formatAll (formatter : FormatterCommand) (programs : Programs) : List Path → FileTree →
    Except Failure Unit × FileTree
  | [], t => (.ok (), t)
  | path :: rest, t =>
    match formatter.run programs t path with
    | (.error failure, t) => (.error failure, t)
    | (.ok (), t) => formatAll formatter programs rest t

/-- **Formats every source of the project at `root`.** Answers their paths. -/
def formatSources (formatter : FormatterCommand) (programs : Programs) (root : Path)
    (t : FileTree) : Except Failure (List Path) × FileTree :=
  let sources := sourcesUnder t root
  match formatAll formatter programs sources t with
  | (.error failure, t) => (.error failure, t)
  | (.ok (), t) => (.ok sources, t)

end UaHeaders.Sweep
