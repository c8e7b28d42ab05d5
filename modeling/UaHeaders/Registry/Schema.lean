import UaHeaders.Failure
import UaHeaders.Files.Tree
import UaHeaders.Text.Blank
import UaHeaders.Text.Identifier
import UaHeaders.Text.Lines

/-!
# Schema files

A schema file lists one type name a line. Blank lines do not count and a name that comes again
changes nothing. A file may be tied to a guard, a symbol of the preprocessor under which alone what
comes from the file is compiled.

## Main definitions

* `UaHeaders.SchemaSource` — where a schema file is and what guards it.
* `UaHeaders.SchemaFile` — the names of a schema file.
* `UaHeaders.SchemaFile.parse` — the names in a text.
* `UaHeaders.SchemaSource.load`, `UaHeaders.SchemaSource.loadAll` — the names in files of a tree.
-/

set_option autoImplicit false

namespace UaHeaders

/-- **A reference to a schema file**, with its guard if it has one. -/
structure SchemaSource where
  file : Path
  guard : Option String := none
  deriving DecidableEq, Inhabited

/-- **The names of a schema file**, each once and in the order of their first lines. -/
structure SchemaFile where
  path : Path
  guard : Option String
  identifiers : List String
  deriving DecidableEq, Inhabited

/-- The list without the elements that stood before, so that first occurrences stay. -/
def distinct {α : Type} [DecidableEq α] (seen : List α) : List α → List α
  | [] => []
  | x :: xs => if x ∈ seen then distinct seen xs else x :: distinct (x :: seen) xs

namespace SchemaFile

/-- The names in a text, in order. -/
def identifiersOf (content : String) : List String :=
  distinct [] (((Text.lines content).map Text.trim).filter fun line => !line.isEmpty)

/-- **The schema file with a given text.** -/
def parse (source : SchemaSource) (content : String) : SchemaFile :=
  ⟨source.file, source.guard, identifiersOf content⟩

/-- Whether the file is tied to a guard. An empty guard is a guard. -/
def isGuarded (file : SchemaFile) : Bool := file.guard.isSome

end SchemaFile

namespace SchemaSource

/-- The source with its file looked for in `dir`, unless the file is given from the root. -/
def resolve (source : SchemaSource) (dir : Path) : SchemaSource :=
  { source with file := if source.file.isAbsolute then source.file else dir.join source.file }

/-- **Whether the guard can stand behind `#ifdef`.** A source without guard always passes. -/
def validate (source : SchemaSource) : Except Failure Unit :=
  match source.guard with
  | some guard =>
    if Text.isIdentifier guard then .ok ()
    else .error (.configuration (.guardSymbol guard source.file))
  | none => .ok ()

/-- **Reads the schema file of a source.** -/
def load (source : SchemaSource) (t : FileTree) : Except Failure SchemaFile := do
  source.validate
  match t.readText source.file with
  | .ok content => .ok (SchemaFile.parse source content)
  | .error cause => .error (.schemaRead source.file cause)

/-- Reads schema files in order; the first failure ends it. -/
def loadAll (sources : List SchemaSource) (t : FileTree) : Except Failure (List SchemaFile) :=
  sources.mapM fun source => source.load t

end SchemaSource

end UaHeaders
