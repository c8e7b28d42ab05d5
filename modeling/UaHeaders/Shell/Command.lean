/-!
# Shell commands

The commands of the small shell language in which formatters and example programs are written, as
they stand after reading.

## Main definitions

* `UaHeaders.Shell.Piece`, `UaHeaders.Shell.Word` — words before expansion.
* `UaHeaders.Shell.Redirect` — where a stream goes to or comes from.
* `UaHeaders.Shell.Command` — commands.

## Design

Complaints name the line of a command. A command keeps how many lines of its script lie below its
start, a number that needs nothing but the text still to be read; the line follows from it and the
number of the script's last line.
-/

set_option autoImplicit false

namespace UaHeaders.Shell

/-- **How the value of a parameter is altered.** Where `ofEmpty` is set, an empty value counts as
none. -/
inductive Change where
  /-- The word in place of no value. -/
  | byDefault (ofEmpty : Bool)
  /-- The word in place of no value, and the parameter is set to it. -/
  | byAssigning (ofEmpty : Bool)
  /-- No value ends the process with the word as complaint. -/
  | byDemand (ofEmpty : Bool)
  /-- The word in place of a value. -/
  | byOther (ofEmpty : Bool)
  /-- The shortest or longest beginning that a pattern covers is cut off. -/
  | cutStart (longest : Bool)
  /-- The shortest or longest end that a pattern covers is cut off. -/
  | cutEnd (longest : Bool)
  /-- The number of octets. -/
  | length
  deriving Inhabited

/-- A part of a word. What is quoted is neither cut into fields nor read as a pattern. -/
inductive Piece where
  /-- Text as it stands. -/
  | literal (text : String) (quoted : Bool)
  /-- The value of a parameter. -/
  | parameter (name : String) (quoted : Bool)
  /-- The value of a parameter, altered with the help of a word. -/
  | altered (name : String) (change : Change) (word : List Piece) (quoted : Bool)
  /-- What a script prints, with `below` lines of the outer script under it. -/
  | output (script : String) (below : Nat) (quoted : Bool)
  /-- The value of a sum. -/
  | arithmetic (word : List Piece) (quoted : Bool)
  deriving Inhabited

/-- **A word before expansion.** -/
abbrev Word := List Piece

/-- **Where a stream of a command goes to or comes from.** -/
inductive Redirect where
  | input (word : Word)
  | truncate (stream : Nat) (word : Word)
  | extend (stream : Nat) (word : Word)
  | duplicate (stream : Nat) (word : Word)
  /-- The input is the text of the word itself. -/
  | here (word : Word)
  deriving Inhabited

/-- **A command.** -/
inductive Command where
  /-- Assignments, then a name with arguments; without a name the assignments stay. -/
  | simple (below : Nat) (assignments : List (String × Word)) (words : List Word)
      (redirects : List Redirect)
  /-- Nothing, with success. -/
  | nothing
  /-- One after the other. -/
  | sequence (first second : Command)
  /-- The second if the first succeeds. -/
  | andThen (first second : Command)
  /-- The second if the first fails. -/
  | orElse (first second : Command)
  /-- Success and failure exchanged. -/
  | negation (body : Command)
  /-- The output of the first is the input of the second. -/
  | pipe (first second : Command)
  | conditional (test yes no : Command)
  /-- Repeats the body while the test succeeds, or with `expected = false` while it fails. -/
  | loop (expected : Bool) (test body : Command)
  /-- The body once for each field, the variable `name` set to it. -/
  | each (name : String) (words : List Word) (body : Command)
  /-- The body if the subject matches a pattern, else the other command. -/
  | select (subject : Word) (patterns : List Word) (body otherwise : Command)
  /-- Runs in a copy of the process. -/
  | subshell (body : Command)
  | redirected (body : Command) (redirects : List Redirect)
  /-- Makes the body a command of its own name. -/
  | define (name : String) (body : Command)
  deriving Inhabited

end UaHeaders.Shell
