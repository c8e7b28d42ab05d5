import UaHeaders.Failure

/-!
# Problems

Why a command did not succeed: the failure of a run, or something that the user has to mend first.

## Main definitions

* `UaHeaders.Problem` — the causes.
* `UaHeaders.Problem.message` — their wording.
-/

set_option autoImplicit false

namespace UaHeaders

/-- **Why a command did not succeed.** -/
inductive Problem where
  /-- A run failed. -/
  | failure (cause : Failure)
  /-- The settings file is not there. -/
  | noSettings (path : Path)
  /-- The settings file could not be read as text. -/
  | unreadableSettings (path : Path)
  /-- The settings file is not written by the rules of its format, or says something else. -/
  | malformedSettings (format : String) (path : Path)
  /-- The extension of the settings file stands for no format. -/
  | unknownFormat (extension : String)
  /-- A selection of headers without a header. -/
  | nothingSelected
  /-- The node id table has two sources. -/
  | ambiguousNodeIds
  /-- A sweep was asked for below something that is no directory. -/
  | notDirectory (path : Path)
  | unreadable (path : Path)
  | unwritable (path : Path)
  /-- An example could not be started. -/
  | notStarted (path : Path)
  /-- The directory for the log could not be made. -/
  | noLogDirectory
  /-- An option does not give a time. -/
  | invalidTime (option : String)
  /-- Headers are out of date. -/
  | staleHeaders (count : Nat)
  /-- An example ended without success. -/
  | examplesFailed
  deriving DecidableEq, Inhabited

/-- **The wording of a problem.** -/
def Problem.message : Problem → String
  | failure cause => cause.message
  | noSettings path => "config file " ++ Text.quote path.text ++ " does not exist"
  | unreadableSettings path => "failed to read config file " ++ Text.quote path.text
  | malformedSettings format path =>
    "failed to parse " ++ format ++ " config " ++ Text.quote path.text
  | unknownFormat extension => "unsupported config extension: " ++ extension
  | nothingSelected => "at least one target must be selected"
  | ambiguousNodeIds => "node id table source is ambiguous: both a URL and a file are configured"
  | notDirectory path => Text.quote path.text ++ " is not a directory"
  | unreadable path => "failed to read " ++ Text.quote path.text
  | unwritable path => "failed to write " ++ Text.quote path.text
  | notStarted path => "failed to start " ++ Text.quote path.text
  | noLogDirectory => "Failed to create log directory"
  | invalidTime option => "invalid " ++ option
  | staleHeaders count =>
    toString count ++ " generated header(s) out of date; rerun without --check"
  | examplesFailed => "example run failed"

end UaHeaders
