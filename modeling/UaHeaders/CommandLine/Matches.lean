import UaHeaders.CommandLine.Spec

/-!
# Matching arguments

The words of a command line are matched with the arguments of a command from left to right. The value
of an option is looked at only when the next argument is, so of two faults the later one can win.
Variables stand in for what the command line leaves out, and count as given when arguments exclude each
other.

## Main definitions

* `UaHeaders.Found` — an argument with its values and where they come from.
* `UaHeaders.Matching` — what has been matched so far.
* `UaHeaders.CommandSpec.matchWords` — the arguments in some words, up to a subcommand.
* `UaHeaders.CommandSpec.complete` — the rest: variables and the checks of the whole.
-/

set_option autoImplicit false

namespace UaHeaders

/-- **Where a value comes from**; the command line comes before the environment. -/
inductive Source where
  | environment
  | commandLine
  deriving DecidableEq, Inhabited

/-- **An argument with its values.** -/
structure Found where
  id : String
  source : Source
  values : List String
  deriving DecidableEq, Inhabited

/-- **What has been matched so far.** -/
structure Matching where
  found : List Found := []
  /-- The argument whose values are being collected. -/
  pending : Option (ArgSpec × List String) := none
  /-- Whether the next word is the value of the pending option. -/
  awaiting : Bool := false
  /-- Whether all further words are values. -/
  trailing : Bool := false
  /-- How many positions are filled. -/
  position : Nat := 0
  deriving DecidableEq, Inhabited

namespace Matching

/-- What was found for an argument. -/
def find? (m : Matching) (id : String) : Option Found := m.found.find? fun f => f.id == id

/-- Notes an argument in place of what was found for it. -/
def note (m : Matching) (f : Found) : Matching :=
  { m with found := m.found.filter (fun g => g.id != f.id) ++ [f] }

/-- The values of an argument with a separator are cut at it. -/
def splitValues (separator : Option Char) (values : List String) : List String :=
  match separator with
  | some c => values.flatMap (Text.fields c)
  | none => values

/-- **Takes one argument in.** -/
def take (m : Matching) (arg : ArgSpec) (source : Source) (values : List String) :
    Except UsageError Matching :=
  match arg.action with
  | .help => .error .help
  | .version => .error .version
  | .flag =>
    if (m.find? arg.id).isSome then .error .argumentConflict else .ok (m.note ⟨arg.id, source, []⟩)
  | .count =>
    let before := (m.find? arg.id).map fun f => f.values
    .ok (m.note ⟨arg.id, source, "" :: before.getD []⟩)
  | .set kind => do
    if values.isEmpty then throw .invalidValue
    if (m.find? arg.id).isSome then throw .argumentConflict
    values.forM kind.check
    return m.note ⟨arg.id, source, values⟩
  | .append kind separator => do
    if values.isEmpty then throw .invalidValue
    let values := splitValues separator values
    values.forM kind.check
    let before := ((m.find? arg.id).map fun f => f.values).getD []
    return m.note ⟨arg.id, source, before ++ values⟩

/-- Takes the pending argument in, if there is one. -/
def resolve (m : Matching) : Except UsageError Matching :=
  match m.pending with
  | none => .ok m
  | some (arg, values) =>
    { m with pending := none, awaiting := false }.take arg .commandLine values

/-- Takes an argument in, after the pending one. -/
def accept (m : Matching) (arg : ArgSpec) (values : List String) : Except UsageError Matching := do
  (← m.resolve).take arg .commandLine values

/-- Begins to collect the value of an option. -/
def await (m : Matching) (arg : ArgSpec) : Except UsageError Matching := do
  return { ← m.resolve with pending := some (arg, []), awaiting := true }

end Matching

namespace CommandSpec

/-! ## Words -/

/-- A word with two dashes: a name, perhaps with a value behind an equals sign. -/
def matchLong (command : CommandSpec) (m : Matching) (word : List Char) : Except UsageError Matching :=
  let name := String.ofList (word.takeWhile (· != '='))
  let value :=
    match word.dropWhile (· != '=') with
    | [] => none
    | _ :: value => some (String.ofList value)
  match command.long? name, value with
  | none, _ => .error .unknownArgument
  | some arg, some value =>
    if arg.action.takesValue then m.accept arg [value] else .error .tooManyValues
  | some arg, none => if arg.action.takesValue then m.await arg else m.accept arg []

/-- A word with one dash: short names, none of which takes a value. -/
def matchShort (command : CommandSpec) (m : Matching) : List Char → Except UsageError Matching
  | [] => .ok m
  | c :: cs =>
    match command.short? c with
    | none => .error .unknownArgument
    | some arg => do matchShort command (← m.accept arg []) cs

/-- A word that is a value by its position. -/
def matchPositional (command : CommandSpec) (m : Matching) (word : String) :
    Except UsageError Matching :=
  match command.positional? m.position with
  | none =>
    if command.subcommands.isEmpty then .error .unknownArgument
    else if m.trailing && command.subcommands.contains word then .error .unknownArgument
    else .error .invalidSubcommand
  | some arg =>
    match m.pending with
    | some (pending, values) =>
      if pending.id == arg.id then .ok { m with pending := some (arg, values ++ [word]) }
      else do
        let m ← m.resolve
        return { m with pending := some (arg, [word])
                        position := if arg.isRepeated then m.position else m.position + 1 }
    | none =>
      .ok { m with pending := some (arg, [word])
                   position := if arg.isRepeated then m.position else m.position + 1 }

/-- **Matches words with the arguments of a command**, up to the name of a subcommand; answers it with
the words behind it. -/
def matchWords (command : CommandSpec) (m : Matching) :
    List String → Except UsageError (Matching × Option (String × List String))
  | [] => .ok (m, none)
  | word :: rest =>
    if m.trailing then do matchWords command (← command.matchPositional m word) rest
    else if !m.awaiting && command.subcommands.contains word then .ok (m, some (word, rest))
    else
      match word.toList with
      | ['-', '-'] => matchWords command { m with trailing := true } rest
      | '-' :: '-' :: cs => do matchWords command (← command.matchLong m cs) rest
      | '-' :: c :: cs => do matchWords command (← command.matchShort m (c :: cs)) rest
      | _ =>
        match m.pending, m.awaiting with
        | some (arg, values), true =>
          matchWords command { m with pending := some (arg, values ++ [word]), awaiting := false } rest
        | _, _ => do matchWords command (← command.matchPositional m word) rest

/-! ## The whole -/

/-- Lets variables stand in for arguments that were not found. -/
def applyVariables (env : String → Option String) (m : Matching) :
    List ArgSpec → Except UsageError Matching
  | [] => .ok m
  | arg :: args =>
    match arg.variableName.bind env with
    | none => applyVariables env m args
    | some value =>
      if (m.find? arg.id).isSome then applyVariables env m args
      else do applyVariables env (← m.take arg .environment [value]) args

/-- Whether two arguments were found that exclude each other. -/
def hasConflict (command : CommandSpec) (m : Matching) : Bool :=
  command.args.any fun arg =>
    (m.find? arg.id).isSome && (arg.excludes.bind m.find?).isSome

/-- Whether a required argument was not found. -/
def lacksRequired (command : CommandSpec) (m : Matching) : Bool :=
  command.args.any fun arg => arg.required && (m.find? arg.id).isNone

/-- **Completes a match** behind the last word: the pending argument, the variables and the checks of
the whole. A command with subcommands needs one. -/
def complete (command : CommandSpec) (env : String → Option String) (m : Matching)
    (hasSubcommand : Bool) : Except UsageError (List Found) := do
  let m ← m.resolve
  let m ← applyVariables env m command.args
  if !command.subcommands.isEmpty && !hasSubcommand then
    throw (if m.found.isEmpty then .helpOnMissing else .missingSubcommand)
  if command.hasConflict m then throw .argumentConflict
  if command.lacksRequired m then throw .missingRequired
  return m.found

end CommandSpec

end UaHeaders
