import UaHeaders.Text.Quoted

/-!
# System errors

What can go wrong with one operation on a file tree, and how a user is told.

## Main definitions

* `UaHeaders.Fault` — the causes.
* `UaHeaders.Fault.reason`, `number?` — what the system says of each.
* `UaHeaders.Fault.message` — their wording.
-/

set_option autoImplicit false

namespace UaHeaders

/-- **Why an operation on files failed.** -/
inductive Fault where
  /-- Nothing is there, or a directory on the way is missing. -/
  | notFound
  /-- The file may not be run. -/
  | notExecutable
  /-- Something is there already. -/
  | alreadyExists
  /-- A file stands where a directory is needed. -/
  | notDirectory
  /-- A directory stands where a file is needed. -/
  | isDirectory
  /-- The operation has no meaning for the path. -/
  | invalid
  /-- A component has more than 255 octets, or the path has more than 4095. -/
  | nameTooLong
  /-- The directory still has entries. -/
  | notEmpty
  /-- The program has no form that can be run. -/
  | noProgram
  /-- The content is not UTF-8. -/
  | notText
  /-- The path holds the character NUL. -/
  | nulInName
  /-- A temporary file could not be made at the path. -/
  | atPath (cause : Fault) (path : String)
  /-- A cause of another kind, in its own words. -/
  | other (reason : String)
  deriving DecidableEq, Inhabited

namespace Fault

/-- What went wrong, in the words of the system. -/
def reason : Fault → String
  | notFound => "No such file or directory"
  | notExecutable => "Permission denied"
  | alreadyExists => "File exists"
  | notDirectory => "Not a directory"
  | isDirectory => "Is a directory"
  | invalid => "Invalid argument"
  | nameTooLong => "File name too long"
  | notEmpty => "Directory not empty"
  | noProgram => "Exec format error"
  | notText => "stream did not contain valid UTF-8"
  | nulInName => "file name contained an unexpected NUL byte"
  | atPath cause _ => cause.reason
  | other reason => reason

/-- The number of a cause that the system reports; the others are found out without it. -/
def number? : Fault → Option Nat
  | notFound => some 2
  | noProgram => some 8
  | notExecutable => some 13
  | alreadyExists => some 17
  | notDirectory => some 20
  | isDirectory => some 21
  | invalid => some 22
  | nameTooLong => some 36
  | notEmpty => some 39
  | atPath cause _ => cause.number?
  | _ => none

/-- The reason, and behind it the number if there is one. -/
def numbered (cause : Fault) : String :=
  match cause.number? with
  | some n => cause.reason ++ " (os error " ++ toString n ++ ")"
  | none => cause.reason

/-- **The wording of a system error.** -/
def message : Fault → String
  | atPath cause path => cause.message ++ " at path " ++ Text.quote path
  | cause => cause.numbered

end Fault

end UaHeaders
