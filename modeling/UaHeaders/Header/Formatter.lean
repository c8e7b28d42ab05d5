import UaHeaders.Failure
import UaHeaders.Process.Programs
import UaHeaders.Text.Blank

/-!
# Formatters

A formatter is a program that changes a file in place. It is given as a command line without quoting:
the first word is the program, the others are its arguments, and the file comes last.

## Main definitions

* `UaHeaders.FormatterCommand` — a program with its arguments.
* `UaHeaders.FormatterCommand.parse`, `UaHeaders.FormatterCommand.commandLine` — from text and back.
* `UaHeaders.FormatterCommand.run` — formatting one file.
-/

set_option autoImplicit false

namespace UaHeaders

/-- **A program that formats a file in place.** -/
structure FormatterCommand where
  program : String
  args : List String
  deriving DecidableEq, Inhabited

namespace FormatterCommand

/-- The argument for formatting in place, which a program without arguments is given. -/
def inPlace : String := "-i"

/-- **The formatter in a command line.** -/
def parse (text : String) : Except Failure FormatterCommand :=
  match Text.words text with
  | [] => .error (.configuration .emptyFormatter)
  | [program] => .ok ⟨program, [inPlace]⟩
  | program :: args => .ok ⟨program, args⟩

/-- **The command line of a formatter.** -/
def commandLine (command : FormatterCommand) : String :=
  " ".intercalate (command.program :: command.args)

/-- The formatter of a run that names none. -/
def standard : FormatterCommand := ⟨"clang-format", [inPlace]⟩

/-- **Formats the file at a path.** Any end without success is a failure. -/
def run (command : FormatterCommand) (programs : Programs) (t : FileTree) (path : Path) :
    Except Failure Unit × FileTree :=
  match programs t command.program (command.args ++ [path.text]) with
  | (.error cause, t) => (.error (.formatter command.commandLine path (.spawn cause)), t)
  | (.ok finished, t) =>
    if finished.status.success then (.ok (), t)
    else
      let errors := Text.trim (Text.decodeLossy finished.err)
      (.error (.formatter command.commandLine path (.ended finished.status errors)), t)

end FormatterCommand

end UaHeaders
