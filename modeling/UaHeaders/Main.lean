import UaHeaders.Program
import UaHeaders.Shell.Together

/-!
# The command line

The program works on a copy of the working directory: all of it is read first, and what has changed
is written back at the end. Scripts and the usual small utilities are run by the library's own shell;
there is no network.
-/

set_option autoImplicit false

namespace UaHeaders

/-- The directories that the copy goes down. -/
def maxDepth : Nat := 64

/-- The permission bits of a file that is read: a script may be run. -/
def modeOf (content : ByteArray) : Nat :=
  if content.toList.take 2 == [0x23, 0x21] then 0o755 else FileTree.newFileMode

/-- The path of a location. -/
def pathText (l : Location) : String := "/" ++ "/".intercalate l

/-- Reads a directory entry into a tree, at a location. What cannot be read is left out. -/
def readInto : Nat → IO.FS.DirEntry → Location → FileTree → IO FileTree
  | 0, _, _, t => pure t
  | depth + 1, entry, l, t => do
    match ← entry.path.readDir.toBaseIO with
    | .ok found =>
      found.foldlM (fun t inner => readInto depth inner (l ++ [inner.fileName]) t)
        (t.put l .directory)
    | .error _ =>
      match ← (IO.FS.readBinFile entry.path).toBaseIO with
      | .ok content => pure (t.put l (.file (modeOf content) content))
      | .error _ => pure t

/-- Reads the working directory into a tree. -/
def readWorkdir : IO FileTree := do
  let here ← IO.currentDir
  let workdir := ((toString here).splitOn "/").filter (!·.isEmpty)
  let above := (List.range workdir.length).foldl
    (fun (t : FileTree) depth => t.put (workdir.take (depth + 1)) .directory)
    { FileTree.empty with workdir }
  readInto maxDepth ⟨here, "."⟩ workdir above

/-- The permission bits as rights of three parties. -/
def rights (mode : Nat) : IO.FileRight :=
  let party (bits : Nat) : IO.AccessRight :=
    ⟨bits &&& 4 != 0, bits &&& 2 != 0, bits &&& 1 != 0⟩
  ⟨party (mode >>> 6), party (mode >>> 3), party mode⟩

/-- Whether two entries are the same. -/
def Entry.same : Entry → Entry → Bool
  | .directory, .directory => true
  | .file mode content, .file mode' content' => mode == mode' && content == content'
  | _, _ => false

/-- Writes what has changed between two trees. -/
def writeBack (before after : FileTree) : IO Unit := do
  for (l, e) in before.entries.toList.reverse do
    if (after.entry? l).isNone then
      match e with
      | .file .. => IO.FS.removeFile (pathText l)
      | .directory => IO.FS.removeDir (pathText l)
  for (l, e) in after.entries.toList do
    unless (before.entry? l).any e.same do
      match e with
      | .directory => IO.FS.createDirAll (pathText l)
      | .file mode content =>
        IO.FS.writeBinFile (pathText l) content
        IO.setAccessRights (pathText l) (rights mode)

/-- The variables the program looks at. -/
def variableNames : List String :=
  ["CONFIG", "OUTPUT_ROOT", "SCHEMA_DIR", "TARGETS", "NODE_IDS_URL", "NODE_IDS_FILE", "USER_AGENT",
    "FORMATTER"].map ("OPCUA_HEADERGEN_" ++ ·) ++
  ["LOG_FORMAT", "LOG_OUTPUT", "LOG_DIR", "LOG_SPAN_EVENTS", "ENVIRONMENT", "ENV"]

end UaHeaders

open UaHeaders in
/-- **The program.** -/
def main (args : List String) : IO UInt32 := do
  let environment ← variableNames.filterMapM fun name => do
    return (← IO.getEnv name).map (name, ·)
  let before ← readWorkdir
  let outside : Outside := ⟨Shell.runProgram, fun _ _ => .error "no network"⟩
  let run := runCommandLine ⟨outside, Shell.sideBySide, (environment.lookup ·)⟩ args before
  writeBack before run.tree
  IO.print run.out
  IO.eprint run.err
  return run.code.toUInt32
