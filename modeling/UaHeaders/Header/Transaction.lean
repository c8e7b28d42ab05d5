import UaHeaders.Header.Formatter
import UaHeaders.Header.Record

/-!
# Transactions

A transaction writes several headers or none. Each header is first staged: written to a temporary
file near its target and formatted there. Only a commit touches the targets, and while it does so it
keeps what it replaces, so that a failure half way can be undone.

## Main definitions

* `UaHeaders.Transaction` — the headers that have been staged.
* `UaHeaders.Transaction.stage` — stages one more.
* `UaHeaders.Transaction.discard` — forgets them and removes their temporary files.
* `UaHeaders.Transaction.commit` — moves them over their targets.

## Design

A header is staged in the deepest directory above its target that is there, so the formatter finds the
same settings as it would beside the target, and staging makes no directory. A commit goes through
states (`UaHeaders.Commit`) that hold the tree and what has to be undone, the latest first.
-/

set_option autoImplicit false

namespace UaHeaders

/-- **A header in its temporary file.** -/
structure StagedHeader where
  record : HeaderRecord
  temp : Path
  deriving DecidableEq, Inhabited

/-- **The headers of one run.** With `dryRun` they can be looked at but not committed. -/
structure Transaction where
  formatter : Option FormatterCommand
  dryRun : Bool
  staged : List StagedHeader
  deriving DecidableEq, Inhabited

/-! ## Temporary files -/

/-- How the name of a staged file begins. -/
def stagedName : String := ".headergen-"

/-- How the name of a file that was moved aside begins. -/
def backupName : String := ".headergen-backup-"

namespace FileTree

/-- The tree without the file at a path; if there is no file, the tree as it is. -/
def removeIfFile (t : FileTree) (p : Path) : FileTree :=
  match t.removeFile p with
  | .ok t' => t'
  | .error _ => t

/-- **The directory in which a target is staged**: the deepest one above it that is there. -/
def stagingDir (t : FileTree) (target : Path) : Path :=
  match target.ancestors.tail.find? fun dir => dir.text.isEmpty || t.isDir dir with
  | some dir => if dir.text.isEmpty then "." else dir
  | none => "."

end FileTree

namespace Transaction

/-- A transaction without headers. -/
def start (formatter : Option FormatterCommand) (dryRun : Bool) : Transaction :=
  ⟨formatter, dryRun, []⟩

/-- The records of the staged headers, in order. -/
def records (tx : Transaction) : List HeaderRecord := tx.staged.map StagedHeader.record

/-! ## Staging -/

/-- The end of a temporary name: the extension of the target, by which a formatter knows the
language. -/
def tempEnding (target : Path) : String :=
  match target.extension? with
  | some extension => "." ++ extension
  | none => ""

/-- What the target holds now, if it is there. -/
def previousContent (t : FileTree) (target : Path) : Except Failure (Option String) :=
  match t.readText target with
  | .ok previous => .ok (some previous)
  | .error .notFound => .ok none
  | .error cause => .error (.io target cause)

/-- Formats a temporary file, if there is a formatter. -/
def format (tx : Transaction) (programs : Programs) (t : FileTree) (temp : Path) :
    Except Failure Unit × FileTree :=
  match tx.formatter with
  | some command => command.run programs t temp
  | none => (.ok (), t)

/-- The record of a target whose new content stands formatted in a temporary file. -/
def recordOf (t : FileTree) (target temp : Path) : Except Failure HeaderRecord := do
  match t.readText temp with
  | .error cause => .error (.io temp cause)
  | .ok content => return ⟨target, content, ← previousContent t target⟩

/-- Fills a temporary file and formats it. -/
def fill (tx : Transaction) (programs : Programs) (t : FileTree) (target temp : Path)
    (content : String) : Except Failure HeaderRecord × FileTree :=
  match t.write temp content.toUTF8 with
  | .error cause => (.error (.io temp cause), t)
  | .ok t =>
    match tx.format programs t temp with
    | (.error failure, t) => (.error failure, t)
    | (.ok (), t) => (recordOf t target temp, t)

/-- **Stages one header.** A failure leaves the transaction as it was and no temporary file. -/
def stage (tx : Transaction) (programs : Programs) (t : FileTree) (target : Path)
    (content : String) : Except Failure Transaction × FileTree :=
  let dir := t.stagingDir target
  match t.createTemp dir stagedName (tempEnding target) with
  | .error cause => (.error (.io dir cause), t)
  | .ok (temp, t) =>
    match tx.fill programs t target temp content with
    | (.error failure, t) => (.error failure, t.removeIfFile temp)
    | (.ok record, t) => (.ok { tx with staged := tx.staged ++ [⟨record, temp⟩] }, t)

/-- Removes the temporary files of staged headers. -/
def dropTemps (t : FileTree) (staged : List StagedHeader) : FileTree :=
  staged.foldl (fun t header => t.removeIfFile header.temp) t

/-- **Forgets the staged headers** and removes their temporary files. -/
def discard (tx : Transaction) (t : FileTree) : List HeaderRecord × FileTree :=
  (tx.records, dropTemps t tx.staged)

end Transaction

/-! ## Commit -/

/-- **A target that a commit has replaced**, with the file that stood there, moved aside. -/
structure Replaced where
  target : Path
  backup : Option Path
  deriving DecidableEq, Inhabited

/-- **The state of a commit**: the tree, the directories that it has made and the targets that it has
replaced, the latest first. -/
structure Commit where
  tree : FileTree
  created : List Path
  replaced : List Replaced

namespace Commit

/-- A commit that has done nothing yet. -/
def start (t : FileTree) : Commit := ⟨t, [], []⟩

/-- Makes the directories above a target. Those that were missing are noted once all are made. -/
def makeParent (s : Commit) (target : Path) : Except Failure Unit × Commit :=
  match target.parent? with
  | none => (.ok (), s)
  | some parent =>
    if parent.text.isEmpty then (.ok (), s)
    else
      let missing := parent.ancestors.takeWhile fun dir =>
        !dir.text.isEmpty && !s.tree.pathExists dir
      match s.tree.makeDirs parent with
      | (.ok (), t) => (.ok (), { s with tree := t, created := missing ++ s.created })
      -- directories that were made before the failure are not noted
      | (.error cause, t) => (.error (.io parent cause), { s with tree := t })

/-- Gives a temporary file the permission bits of its target, or those of a new file. -/
def copyMode (s : Commit) (target temp : Path) : Except Failure Unit × Commit :=
  let mode :=
    match s.tree.mode? target with
    | .ok mode => mode
    | .error _ => FileTree.newFileMode
  match s.tree.setMode temp mode with
  | .ok t => (.ok (), { s with tree := t })
  | .error cause => (.error (.io temp cause), s)

/-- Moves the file at a target aside, if there is one, and notes the target. -/
def setAside (s : Commit) (target : Path) : Except Failure Unit × Commit :=
  if s.tree.pathExists target then
    let dir := s.tree.stagingDir target
    match s.tree.createTemp dir backupName "" with
    | .error cause => (.error (.io dir cause), s)
    | .ok (backup, t) =>
      match t.rename target backup with
      | .ok t => (.ok (), { s with tree := t, replaced := ⟨target, some backup⟩ :: s.replaced })
      -- the empty file under the name of the backup goes again
      | .error cause => (.error (.io target cause), { s with tree := t.removeIfFile backup })
  else (.ok (), { s with replaced := ⟨target, none⟩ :: s.replaced })

/-- Moves a temporary file over its target. -/
def moveIn (s : Commit) (target temp : Path) : Except Failure Unit × Commit :=
  match s.tree.rename temp target with
  | .ok t => (.ok (), { s with tree := t })
  | .error cause => (.error (.io target cause), s)

/-- One step after another, the next only if the one before went well. -/
def andThen (result : Except Failure Unit × Commit) (next : Commit → Except Failure Unit × Commit) :
    Except Failure Unit × Commit :=
  match result with
  | (.ok (), s) => next s
  | (.error failure, s) => (.error failure, s)

/-- **Replaces one target by its temporary file.** On a failure the temporary file goes; what was done
before stays noted. -/
def replace (s : Commit) (target temp : Path) : Except Failure Unit × Commit :=
  let steps :=
    andThen (s.makeParent target) fun s =>
      andThen (s.copyMode target temp) fun s =>
        andThen (s.setAside target) fun s => s.moveIn target temp
  match steps with
  | (.ok (), s) => (.ok (), s)
  | (.error failure, s) => (.error failure, { s with tree := s.tree.removeIfFile temp })

/-- Puts one target back to what it was. A file that cannot be moved back is lost. -/
def restore (t : FileTree) (r : Replaced) : FileTree :=
  match r.backup with
  | none => t.removeIfFile r.target
  | some backup =>
    match t.rename backup r.target with
    | .ok t' => t'
    | .error _ => t.removeIfFile backup

/-- Removes a directory if it is empty. -/
def removeIfEmpty (t : FileTree) (dir : Path) : FileTree :=
  match t.removeDir dir with
  | .ok t' => t'
  | .error _ => t

/-- **The tree with everything undone**: the targets first, then the directories. -/
def rollBack (s : Commit) : FileTree :=
  s.created.foldl removeIfEmpty (s.replaced.foldl restore s.tree)

/-- The tree once all went well: the files moved aside are removed. -/
def close (s : Commit) : FileTree :=
  s.replaced.foldl
    (fun t r =>
      match r.backup with
      | some backup => t.removeIfFile backup
      | none => t)
    s.tree

/-- Goes through staged headers. One whose target has its content already is only cleared away. -/
def run (s : Commit) : List StagedHeader → Except Failure Unit × FileTree
  | [] => (.ok (), s.close)
  | header :: rest =>
    if header.record.unchanged then
      run { s with tree := s.tree.removeIfFile header.temp } rest
    else
      match s.replace header.record.target header.temp with
      | (.ok (), s) => run s rest
      | (.error failure, s) => (.error failure, Transaction.dropTemps s.rollBack rest)

end Commit

/-- **Moves every staged header over its target**, except those whose target has the content already.
On a failure all is undone. -/
def Transaction.commit (tx : Transaction) (t : FileTree) :
    Except Failure (List HeaderRecord) × FileTree :=
  if tx.dryRun then (.error (.configuration .dryRunCommit), dropTemps t tx.staged)
  else
    match (Commit.start t).run tx.staged with
    | (.ok (), t) => (.ok tx.records, t)
    | (.error failure, t) => (.error failure, t)

end UaHeaders
