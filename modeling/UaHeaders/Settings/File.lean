import UaHeaders.Files.Tree
import UaHeaders.Header.Target
import UaHeaders.Problem
import UaHeaders.Registry.Schema
import UaHeaders.Settings.Toml
import UaHeaders.Settings.Yaml

/-!
# Settings files

A settings file is one table, in a format that its extension tells. Every setting may be left out, and
a name that is no setting is refused.

## Main definitions

* `UaHeaders.FileSettings` — what a settings file says.
* `UaHeaders.FileSettings.ofDatum` — the settings in a datum.
* `UaHeaders.FileSettings.load` — the settings in a file of a tree.
-/

set_option autoImplicit false

namespace UaHeaders

/-- **What a settings file says.** -/
structure FileSettings where
  outputRoot : Option Path := none
  schemaDir : Option Path := none
  targets : Option (List Target) := none
  nodeIdsUrl : Option String := none
  nodeIdsFile : Option Path := none
  userAgent : Option String := none
  formatter : Option String := none
  format : Option Bool := none
  typeRegistrySchemas : Option (List SchemaSource) := none
  typeConverterSchemas : Option (List SchemaSource) := none
  deriving DecidableEq, Inhabited

namespace Datum

/-- The text of a scalar. -/
def text? : Datum → Option String
  | scalar s => s.text?
  | _ => none

/-- The truth value of a scalar. -/
def flag? : Datum → Option Bool
  | scalar s => s.flag?
  | _ => none

/-- The path that a scalar gives. -/
def path? (d : Datum) : Option Path := d.text?.map Path.mk

/-- The items of a list. -/
def items? : Datum → Option (List Datum)
  | list items => some items
  | _ => none

/-- Whether a scalar says that there is no value. -/
def isNothing : Datum → Bool
  | scalar s => s.isNothing
  | _ => false

/-- The value of a setting that may be left out. -/
def orNothing {α : Type} (read : Datum → Option α) (d : Datum) : Option (Option α) :=
  if d.isNothing then some none else (read d).map some

/-- The fields of a table; a list gives its items the names in turn, at least `required` of them.
Nothing at all is a table without fields. -/
def fields? (names : List String) (required : Nat) : Datum → Option (List (String × Datum))
  | table fields => some fields
  | list items =>
    if required ≤ items.length ∧ items.length ≤ names.length then some (names.zip items) else none
  | scalar s => if s.isNothing && s.text? == some "" then some [] else none

/-- The value of a field, where the field must not be given twice. -/
def field? (fields : List (String × Datum)) (name : String) : Option (Option Datum) :=
  match fields.filter fun field => field.1 == name with
  | [] => some none
  | [(_, value)] => some (some value)
  | _ => none

/-- The setting of a name, where the field may be missing and its value may be nothing. -/
def setting? {α : Type} (read : Datum → Option α) (fields : List (String × Datum)) (name : String) :
    Option (Option α) := do
  match ← field? fields name with
  | none => some none
  | some d => d.orNothing read

/-- The target that a scalar names. -/
def target? (d : Datum) : Option Target := d.text?.bind Target.ofName?

/-- A schema file with its guard. Other fields do not count. -/
def schemaSource? (d : Datum) : Option SchemaSource := do
  let fields ← d.fields? ["file", "guard"] 1
  let file ← (← field? fields "file").bind path?
  let guard ← setting? text? fields "guard"
  return ⟨file, guard⟩

/-- A list whose items are all read alike. -/
def listOf? {α : Type} (read : Datum → Option α) (d : Datum) : Option (List α) := do
  (← d.items?).mapM read

end Datum

namespace FileSettings

/-- The names of the settings. -/
def names : List String :=
  ["output_root", "schema_dir", "targets", "node_ids_url", "node_ids_file", "user_agent", "formatter",
    "format", "type_registry_schemas", "type_converter_schemas"]

/-- **The settings in a datum.** -/
def ofDatum (d : Datum) : Option FileSettings := do
  let fields ← d.fields? names names.length
  if !fields.all (fun field => names.contains field.1) then none
  else
    let outputRoot ← Datum.setting? Datum.path? fields "output_root"
    let schemaDir ← Datum.setting? Datum.path? fields "schema_dir"
    let targets ← Datum.setting? (Datum.listOf? Datum.target?) fields "targets"
    let nodeIdsUrl ← Datum.setting? Datum.text? fields "node_ids_url"
    let nodeIdsFile ← Datum.setting? Datum.path? fields "node_ids_file"
    let userAgent ← Datum.setting? Datum.text? fields "user_agent"
    let formatter ← Datum.setting? Datum.text? fields "formatter"
    let format ← Datum.setting? Datum.flag? fields "format"
    let registry ← Datum.setting? (Datum.listOf? Datum.schemaSource?) fields "type_registry_schemas"
    let converter ← Datum.setting? (Datum.listOf? Datum.schemaSource?) fields "type_converter_schemas"
    return ⟨outputRoot, schemaDir, targets, nodeIdsUrl, nodeIdsFile, userAgent, formatter, format,
      registry, converter⟩

/-- The format of an extension: its name and its reader. -/
def format? (extension : String) : Option (String × (String → Option Datum)) :=
  match extension with
  | "yaml" => some ("YAML", Yaml.parse)
  | "yml" => some ("YAML", Yaml.parse)
  | "json" => some ("JSON", fun text => (Json.parse text).map Datum.ofJson)
  | "toml" => some ("TOML", Toml.parse)
  | _ => none

/-- **The settings in a file.** -/
def load (t : FileTree) (path : Path) : Except Problem FileSettings :=
  if !t.pathExists path then .error (.noSettings path)
  else
    match t.readText path with
    | .error _ => .error (.unreadableSettings path)
    | .ok text =>
      let extension := Text.lowerAscii (path.extension?.getD "")
      match format? extension with
      | none => .error (.unknownFormat extension)
      | some (format, read) =>
        match (read text).bind ofDatum with
        | some settings => .ok settings
        | none => .error (.malformedSettings format path)

end FileSettings

end UaHeaders
