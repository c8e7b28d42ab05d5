import UaHeaders.Registry.Schema

/-!
# Excluded types

Some names in the schema files are defined elsewhere and must not be registered: the builtin types of
the stack and the other names it gives them.

## Main definitions

* `UaHeaders.Exclusions` — a set of names, in ascending order.
* `UaHeaders.Exclusions.builtin` — the names that the stack defines.
* `UaHeaders.Exclusions.apply` — a schema file without the excluded names.
-/

set_option autoImplicit false

namespace UaHeaders

/-- The elements of a list in ascending order, each once. -/
def ascending (names : List String) : List String :=
  distinct [] (names.mergeSort fun a b => decide (a ≤ b))

/-- **A set of names that are not registered.** -/
structure Exclusions where
  names : List String
  deriving DecidableEq, Inhabited

namespace Exclusions

/-- The set of the given names. -/
def ofList (names : List String) : Exclusions := ⟨ascending names⟩

/-- The set without names. -/
def empty : Exclusions := ⟨[]⟩

/-- The builtin types of the stack. -/
def builtinTypes : List String :=
  ["Boolean", "SByte", "Byte", "Int16", "UInt16", "Int32", "UInt32", "Int64", "UInt64", "Float",
    "Double", "String", "DateTime", "Guid", "ByteString", "XmlElement", "NodeId", "ExpandedNodeId",
    "StatusCode", "QualifiedName", "LocalizedText", "ExtensionObject", "DataValue", "Variant",
    "DiagnosticInfo"]

/-- Other names of builtin types. -/
def typeAliases : List String :=
  ["Duration", "UtcTime", "LocaleId", "DiscoveryConfiguration", "FilterOperand",
    "DataSetFieldContentMask", "DataSetFieldFlags", "JsonDataSetMessageContentMask",
    "JsonNetworkMessageContentMask", "UadpDataSetMessageContentMask",
    "UadpNetworkMessageContentMask", "PermissionType"]

/-- **The names that the stack defines.** -/
def builtin : Exclusions := ofList (builtinTypes ++ typeAliases)

/-- Whether a name is excluded. -/
def contains (exclusions : Exclusions) (name : String) : Bool := exclusions.names.contains name

/-- The names that are not excluded, in the same order. -/
def retain (exclusions : Exclusions) (names : List String) : List String :=
  names.filter fun name => !exclusions.contains name

/-- **The schema file without the excluded names.** -/
def apply (exclusions : Exclusions) (file : SchemaFile) : SchemaFile :=
  { file with identifiers := exclusions.retain file.identifiers }

end Exclusions

end UaHeaders
