import UaHeaders.Registry.Exclusion
import UaHeaders.Text.Casing

/-!
# Registry plans

A plan groups the types to register. The files without guard make one block together, which comes
first; every guarded file makes a block of its own, in the order of the files and also when nothing is
left of it, so that a feature that is switched on or off never moves a line outside its block. Within a
block names ascend, so the order of lines in a schema file never shows.

## Main definitions

* `UaHeaders.RegistryPlan.build` — the blocks of some schema files.
* `UaHeaders.Registration` — the type and the index under which a name is registered.
* `UaHeaders.RegistryBlock.lines`, `UaHeaders.RegistryPlan.fragments` — the text.
-/

set_option autoImplicit false

namespace UaHeaders

/-- **A name as it is registered**: a type and the symbol of its index. -/
structure Registration where
  typeName : String
  indexSymbol : String
  deriving DecidableEq, Inhabited

/-- The registration of a name. -/
def Registration.ofIdentifier (identifier : String) : Registration :=
  ⟨"UA_" ++ identifier, "UA_TYPES_" ++ Text.upperAscii identifier⟩

/-- **Names registered together**, under a guard or without. -/
structure RegistryBlock where
  guard : Option String
  identifiers : List String
  deriving DecidableEq, Inhabited

/-- **The blocks of one registry header.** -/
structure RegistryPlan where
  blocks : List RegistryBlock
  deriving DecidableEq, Inhabited

namespace RegistryPlan

/-- The block of the files without guard, if they have a name to register. -/
def unguardedBlock (files : List SchemaFile) (exclusions : Exclusions) : List RegistryBlock :=
  let names := (files.filter fun file => !file.isGuarded).flatMap fun file =>
    exclusions.retain file.identifiers
  if names.isEmpty then [] else [⟨none, ascending names⟩]

/-- The blocks of the guarded files, one each. -/
def guardedBlocks (files : List SchemaFile) (exclusions : Exclusions) : List RegistryBlock :=
  (files.filter fun file => file.isGuarded).map fun file =>
    ⟨file.guard, ascending (exclusions.retain file.identifiers)⟩

/-- **The plan for some schema files.** Excluded names are left out here as well. -/
def build (files : List SchemaFile) (exclusions : Exclusions) : RegistryPlan :=
  ⟨unguardedBlock files exclusions ++ guardedBlocks files exclusions⟩

/-- How many registrations the plan has. -/
def entryCount (plan : RegistryPlan) : Nat :=
  plan.blocks.foldr (fun block n => block.identifiers.length + n) 0

end RegistryPlan

/-! ## Text -/

/-- The macro that registers a native type. -/
def typeRegistryMacro : String := "UAPP_TYPEREGISTRY_NATIVE"

/-- The macro that registers a native type for the older converter. -/
def typeConverterMacro : String := "UAPP_TYPECONVERTER_NATIVE"

/-- The lines that register one name, if its index is defined. -/
def Registration.lines (macroName : String) (r : Registration) : List String :=
  ["#ifdef " ++ r.indexSymbol,
    macroName ++ "(" ++ r.typeName ++ ", " ++ r.indexSymbol ++ ")",
    "#endif"]

namespace RegistryBlock

/-- The guard as text; an empty one is not written. -/
def guardText (block : RegistryBlock) : String := block.guard.getD ""

/-- The lines of the registrations of a block. -/
def bodyLines (macroName : String) (block : RegistryBlock) : List String :=
  block.identifiers.flatMap fun name => (Registration.ofIdentifier name).lines macroName

/-- **The lines of a block**, between the lines of its guard. -/
def lines (macroName : String) (block : RegistryBlock) : List String :=
  let guard := block.guardText
  let body := block.bodyLines macroName
  if guard.isEmpty then body
  else ("#ifdef " ++ guard) :: body ++ ["#endif  // " ++ guard]

end RegistryBlock

/-- **One fragment for each block.** -/
def RegistryPlan.fragments (macroName : String) (plan : RegistryPlan) : List String :=
  plan.blocks.map fun block => Text.trimNewlines (Text.joinLines (block.lines macroName))

end UaHeaders
