import UaHeaders.Attribute.Descriptor

/-!
# The attributes of OPC UA nodes

## Main definitions

* `UaHeaders.Descriptor.standard` — the attributes of all node classes, in documentation order.
-/

set_option autoImplicit false

namespace UaHeaders.Descriptor

/-- The same attribute, passed by copy. -/
private def byCopy (d : Descriptor) : Descriptor := { d with copied := true }

/-- The same attribute without write accessors. -/
private def readOnly (d : Descriptor) : Descriptor := { d with writeable := false }

/-- The same attribute, written through a view. -/
private def viewedAs (d : Descriptor) (view : String) : Descriptor := { d with viewType := some view }

/-- The same attribute with one more sentence of documentation. -/
private def withDetail (d : Descriptor) (detail : String) : Descriptor :=
  { d with detail := some detail }

/-- An attribute with the defaults: written by constant reference. -/
private def plain (name valueType : String) : Descriptor := { name, valueType }

/-- **The attributes of OPC UA nodes.** -/
def standard : List Descriptor :=
  [(plain "NodeId" "NodeId").readOnly,
    (plain "NodeClass" "NodeClass").byCopy.readOnly,
    plain "BrowseName" "QualifiedName",
    plain "DisplayName" "LocalizedText",
    plain "Description" "LocalizedText",
    (plain "WriteMask" "Bitmask<WriteMask>").byCopy,
    (plain "UserWriteMask" "Bitmask<WriteMask>").byCopy,
    (plain "IsAbstract" "bool").byCopy.withDetail
      "Only defined for type nodes (ObjectType, VariableType, ReferenceType, DataType).",
    (plain "Symmetric" "bool").byCopy.withDetail "Only defined for ReferenceType nodes.",
    (plain "InverseName" "LocalizedText").withDetail "Only defined for ReferenceType nodes.",
    (plain "ContainsNoLoops" "bool").withDetail "Only defined for View nodes.",
    (plain "EventNotifier" "Bitmask<EventNotifier>").byCopy,
    plain "Value" "Variant",
    plain "DataType" "NodeId",
    (plain "ValueRank" "ValueRank").byCopy,
    (plain "ArrayDimensions" "std::vector<uint32_t>").viewedAs "Span<const uint32_t>",
    (plain "AccessLevel" "Bitmask<AccessLevel>").byCopy,
    (plain "UserAccessLevel" "Bitmask<AccessLevel>").byCopy,
    (plain "MinimumSamplingInterval" "double").byCopy,
    (plain "Historizing" "bool").byCopy,
    (plain "Executable" "bool").byCopy.withDetail "Only defined for Method nodes.",
    (plain "UserExecutable" "bool").byCopy.withDetail "Only defined for Method nodes.",
    (plain "DataTypeDefinition" "Variant").readOnly.withDetail
      "Only defined for DataType nodes."]

end UaHeaders.Descriptor
