import UaHeaders.Decimal.Double
import UaHeaders.Header.Target
import UaHeaders.Text.Search

/-!
# What a command line may hold

A command takes arguments: flags, options with a value, and values by position. An option may have an
environment variable that stands in for it where the option is not given.

## Main definitions

* `UaHeaders.UsageError` — what can be wrong with a command line, and what is asked for instead of a
  run.
* `UaHeaders.ArgSpec`, `UaHeaders.CommandSpec` — arguments and commands.
* `UaHeaders.ValueKind.check` — the check of one value.
-/

set_option autoImplicit false

namespace UaHeaders

/-- **Why a command line starts no command.** -/
inductive UsageError where
  /-- The help text is asked for. -/
  | help
  /-- Nothing is given, so the help text is shown. -/
  | helpOnMissing
  /-- The version is asked for. -/
  | version
  | unknownArgument
  | invalidSubcommand
  | missingSubcommand
  | missingRequired
  /-- A value is missing or is none of those that are allowed. -/
  | invalidValue
  /-- A value cannot be read. -/
  | valueValidation
  /-- A flag is given a value. -/
  | tooManyValues
  /-- Arguments exclude each other, or one is given twice. -/
  | argumentConflict
  deriving DecidableEq, Inhabited

/-- **What the value of an argument is read as.** -/
inductive ValueKind where
  | path
  | text
  | target
  | number
  deriving DecidableEq, Inhabited

/-- **The check of one value.** A path is not empty. -/
def ValueKind.check (kind : ValueKind) (value : String) : Except UsageError Unit :=
  match kind with
  | path => if value.isEmpty then .error .invalidValue else .ok ()
  | text => .ok ()
  | target => if (Target.ofName? value).isSome then .ok () else .error .invalidValue
  | number => if (Double.ofText? value).isSome then .ok () else .error .valueValidation

/-- **What an argument does.** -/
inductive ArgAction where
  | help
  | version
  /-- It is given or not. -/
  | flag
  /-- It counts how often it is given. -/
  | count
  /-- It has one value. -/
  | set (kind : ValueKind)
  /-- It has values, several at once if a separator is given. -/
  | append (kind : ValueKind) (separator : Option Char)
  deriving DecidableEq, Inhabited

/-- Whether a value follows. -/
def ArgAction.takesValue : ArgAction → Bool
  | set _ => true
  | append _ _ => true
  | _ => false

/-- **An argument of a command.** One without a name is known by its position. -/
structure ArgSpec where
  id : String
  action : ArgAction
  long : Option String := none
  short : Option Char := none
  /-- The variable that stands in for the argument. -/
  variableName : Option String := none
  required : Bool := false
  /-- The argument that must not be given together with this one. -/
  excludes : Option String := none
  deriving DecidableEq, Inhabited

/-- Whether the argument is known by its position. -/
def ArgSpec.isPositional (arg : ArgSpec) : Bool := arg.long.isNone && arg.short.isNone

/-- Whether the argument takes any number of positions. -/
def ArgSpec.isRepeated (arg : ArgSpec) : Bool :=
  match arg.action with
  | .append _ _ => true
  | _ => false

/-- **A command.** -/
structure CommandSpec where
  args : List ArgSpec
  /-- The names of the commands below it. -/
  subcommands : List String := []
  deriving DecidableEq, Inhabited

namespace CommandSpec

/-- The argument with a long name. -/
def long? (command : CommandSpec) (name : String) : Option ArgSpec :=
  command.args.find? fun arg => arg.long == some name

/-- The argument with a short name. -/
def short? (command : CommandSpec) (name : Char) : Option ArgSpec :=
  command.args.find? fun arg => arg.short == some name

/-- The argument at a position, counted from zero. -/
def positional? (command : CommandSpec) (position : Nat) : Option ArgSpec :=
  (command.args.filter ArgSpec.isPositional)[position]?

end CommandSpec

end UaHeaders
