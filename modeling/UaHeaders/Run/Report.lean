import UaHeaders.Header.Record
import UaHeaders.Json.Writer
import UaHeaders.Run.Config

/-!
# Reports

What a run did to each header, or in check mode what it would do.

## Main definitions

* `UaHeaders.TargetReport`, `UaHeaders.Report` — the report of one header and of a run.
* `UaHeaders.Report.stale` — the headers that are out of date.
* `UaHeaders.Report.text`, `UaHeaders.Report.jsonText` — the report for a reader and for a program.
-/

set_option autoImplicit false

namespace UaHeaders

/-- **What became of a header.** -/
inductive TargetStatus where
  | written
  | unchanged
  /-- What is there differs. -/
  | stale
  /-- What is there is the same. -/
  | upToDate
  deriving DecidableEq, Inhabited

/-- The name of a status. -/
def TargetStatus.name : TargetStatus → String
  | written => "written"
  | unchanged => "unchanged"
  | stale => "stale"
  | upToDate => "up-to-date"

/-- The status of a header by mode, and by whether its content was there already. -/
def TargetStatus.of : RunMode → Bool → TargetStatus
  | .write, false => written
  | .write, true => unchanged
  | .check, false => stale
  | .check, true => upToDate

/-- **The report of one header.** A stale header comes with what would change. -/
structure TargetReport where
  target : Target
  path : Path
  digest : String
  status : TargetStatus
  diff : Option String
  deriving DecidableEq, Inhabited

/-- The report of a record. -/
def TargetReport.ofRecord (mode : RunMode) (target : Target) (r : HeaderRecord) : TargetReport where
  target := target
  path := r.target
  digest := r.digest
  status := TargetStatus.of mode r.unchanged
  diff := if mode = .check ∧ !r.unchanged then some r.diff else none

/-- **The report of a run**, with one entry for each configured target. -/
structure Report where
  mode : RunMode
  targets : List TargetReport
  deriving DecidableEq, Inhabited

namespace Report

/-- The report of a run from its targets and their records. -/
def ofRecords (mode : RunMode) (targets : List Target) (records : List HeaderRecord) : Report :=
  ⟨mode, List.zipWith (TargetReport.ofRecord mode) targets records⟩

/-- **The headers that are out of date.** -/
def stale (report : Report) : List TargetReport :=
  report.targets.filter fun entry => entry.status == .stale

/-- Whether a header is out of date. -/
def isStale (report : Report) : Bool := !report.stale.isEmpty

/-- The status of a target, if the run had it. -/
def statusOf? (report : Report) (target : Target) : Option TargetStatus :=
  (report.targets.find? fun entry => entry.target == target).map TargetReport.status

/-! ## Text -/

/-- The status and the path of a header on one line, and below it what would change. -/
def entryText (entry : TargetReport) : String :=
  Text.padEnd 10 entry.status.name ++ " " ++ entry.path.text ++ "\n" ++ entry.diff.getD ""

/-- **The report for a reader.** -/
def text (report : Report) : String := String.join (report.targets.map entryText)

/-- One entry as a value. -/
def entryValue (entry : TargetReport) : Json :=
  .object
    ([("target", .string entry.target.name), ("path", .string entry.path.text),
      ("digest", .string entry.digest), ("status", .string entry.status.name)] ++
      (entry.diff.map fun diff => ("diff", .string diff)).toList)

/-- **The report for a program.** -/
def jsonText (report : Report) : String :=
  Json.pretty
    (.object
      [("mode", .string report.mode.name), ("targets", .array (report.targets.map entryValue))])

end Report

end UaHeaders
