import UaHeaders.Attribute.Accessors
import UaHeaders.Attribute.Descriptor
import UaHeaders.Attribute.Standard
import UaHeaders.CommandLine.Invocation
import UaHeaders.CommandLine.Matches
import UaHeaders.CommandLine.Spec
import UaHeaders.Decimal.Double
import UaHeaders.Decimal.Shortest
import UaHeaders.Diff.Compare
import UaHeaders.Diff.Script
import UaHeaders.Diff.Unified
import UaHeaders.Digest.Sha256
import UaHeaders.Examples.Outcome
import UaHeaders.Examples.Pair
import UaHeaders.Examples.Run
import UaHeaders.Failure
import UaHeaders.Files.Fault
import UaHeaders.Files.Path
import UaHeaders.Files.Tree
import UaHeaders.Header.Formatter
import UaHeaders.Header.Record
import UaHeaders.Header.Skeleton
import UaHeaders.Header.Target
import UaHeaders.Header.Transaction
import UaHeaders.Json.Reader
import UaHeaders.Json.Value
import UaHeaders.Json.Writer
import UaHeaders.Logging
import UaHeaders.Main
import UaHeaders.NodeIds.Enums
import UaHeaders.NodeIds.Table
import UaHeaders.Problem
import UaHeaders.Process.Programs
import UaHeaders.Process.Status
import UaHeaders.Program
import UaHeaders.Registry.Exclusion
import UaHeaders.Registry.Plan
import UaHeaders.Registry.Schema
import UaHeaders.Registry.Standard
import UaHeaders.Run.Config
import UaHeaders.Run.Generate
import UaHeaders.Run.Report
import UaHeaders.Settings.Cursor
import UaHeaders.Settings.Datum
import UaHeaders.Settings.File
import UaHeaders.Settings.Resolve
import UaHeaders.Settings.Toml
import UaHeaders.Settings.Yaml
import UaHeaders.Shell.Arithmetic
import UaHeaders.Shell.Builtin
import UaHeaders.Shell.CharSet
import UaHeaders.Shell.Command
import UaHeaders.Shell.Condition
import UaHeaders.Shell.Editor
import UaHeaders.Shell.Expand
import UaHeaders.Shell.FileUtility
import UaHeaders.Shell.Filter
import UaHeaders.Shell.Glob
import UaHeaders.Shell.LineText
import UaHeaders.Shell.Pattern
import UaHeaders.Shell.Printing
import UaHeaders.Shell.Process
import UaHeaders.Shell.Reader
import UaHeaders.Shell.Regex
import UaHeaders.Shell.Step
import UaHeaders.Shell.Together
import UaHeaders.Shell.Utility
import UaHeaders.Shell.Word
import UaHeaders.Sweep.Change
import UaHeaders.Sweep.Comments
import UaHeaders.Sweep.Includes
import UaHeaders.Sweep.Sources
import UaHeaders.Template.Part
import UaHeaders.Template.Render
import UaHeaders.Template.Value
import UaHeaders.Text.Blank
import UaHeaders.Text.Casing
import UaHeaders.Text.Identifier
import UaHeaders.Text.Lines
import UaHeaders.Text.Octets
import UaHeaders.Text.Printable
import UaHeaders.Text.Quoted
import UaHeaders.Text.Search
import UaHeaders.Proofs.Files.Entries
import UaHeaders.Proofs.Files.Places
import UaHeaders.Proofs.Files.Operations
import UaHeaders.Proofs.Files.Growth
import UaHeaders.Proofs.Commit.Steps
import UaHeaders.Proofs.Commit.Exchange
import UaHeaders.Proofs.Commit.Undo
import UaHeaders.Proofs.Commit.Staging
import UaHeaders.Proofs.Commit.FailedFiles
import UaHeaders.Proofs.Files.Parents
import UaHeaders.Proofs.Files.Making
import UaHeaders.Proofs.Commit.FailedDirs
import UaHeaders.Proofs.Run.Formatting
import UaHeaders.Proofs.Run.Staged
import UaHeaders.Proofs.Run.Committed
import UaHeaders.Proofs.Run.Written
import UaHeaders.Proofs.Header.Assembly
import UaHeaders.Proofs.Registry.Conditionals
import UaHeaders.Proofs.Registry.Names
import UaHeaders.Proofs.Registry.Blocks
import UaHeaders.Proofs.Registry.Meaning
import UaHeaders.Proofs.Files.Same
import UaHeaders.Proofs.Run.Temporary
import UaHeaders.Proofs.Files.Joined
import UaHeaders.Proofs.Run.Open
import UaHeaders.Proofs.Run.Blame
import UaHeaders.Proofs.Files.FreeNames
import UaHeaders.Proofs.Run.Room
import UaHeaders.Proofs.Run.InputFiles
import UaHeaders.Proofs.Run.Settled
import UaHeaders.Proofs.Run.Modes
import UaHeaders.Proofs.Run.Limits
import UaHeaders.Proofs.Run.Again
import UaHeaders.Proofs.Run.Foretold
import UaHeaders.Proofs.Lists
import UaHeaders.Proofs.Text.OctetOrder
import UaHeaders.Proofs.Registry.Plans
import UaHeaders.Proofs.Header.Frames
import UaHeaders.Proofs.Header.Enclosed
import UaHeaders.Proofs.NodeIds.Picture
import UaHeaders.Proofs.Attribute.Accessors
import UaHeaders.Proofs.Header.Rendered
import UaHeaders.Proofs.Files.FirstFree
import UaHeaders.Proofs.Files.Under
import UaHeaders.Proofs.Run.Root
import UaHeaders.Proofs.Run.Reordered
import UaHeaders.Proofs.Run.Asides
import UaHeaders.Proofs.Run.Unhindered
import UaHeaders.Proofs.Run.Repeated
import UaHeaders.Proofs.Run.SameHeaders
import UaHeaders.Proofs.Run.Success
import UaHeaders.Proofs.Run.SameTargets
import UaHeaders.Proofs.NodeIds.Grammar
import UaHeaders.Proofs.Sweep.Comments
import UaHeaders.Proofs.Sweep.Change
import UaHeaders.Proofs.Sweep.Includes
import UaHeaders.Proofs.Diff.Hunks
import UaHeaders.Proofs.Diff.Reader
import UaHeaders.Proofs.Text.TerminatedLines
import UaHeaders.Proofs.Diff.Patch
import UaHeaders.Proofs.Template.Places
import UaHeaders.Proofs.Template.Loops
import UaHeaders.Proofs.Attribute.Templates
import UaHeaders.Proofs.NodeIds.Templates
import UaHeaders.Proofs.Registry.Templates
import UaHeaders.Proofs.Attribute.Header
import UaHeaders.Proofs.Attribute.Names
import UaHeaders.Proofs.CommandLine.Variables
import UaHeaders.Proofs.Settings.Resolve
import UaHeaders.Proofs.CommandLine.NodeIds
import UaHeaders.Proofs.Sweep.Declarations
import UaHeaders.Proofs.Run.Unblamed
import UaHeaders.Proofs.Attribute.Rows
import UaHeaders.Proofs.Text.Layout
import UaHeaders.Proofs.Registry.NormalForm
import UaHeaders.Proofs.Text.Words
import UaHeaders.Proofs.Header.Formatter
import UaHeaders.Proofs.Text.Quoted
import UaHeaders.Proofs.Examples.Shown
import UaHeaders.Proofs.Examples.Run
import UaHeaders.Proofs.Files.Listing
import UaHeaders.Proofs.Sweep.Edits
import UaHeaders.Proofs.Sweep.Headers
import UaHeaders.Proofs.Sweep.Sources
