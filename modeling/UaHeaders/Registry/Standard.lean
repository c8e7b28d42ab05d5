import UaHeaders.Registry.Schema

/-!
# The schema files of the stack

## Main definitions

* `UaHeaders.SchemaSource.typeRegistryFiles` — the files behind the type registry.
* `UaHeaders.SchemaSource.typeConverterFiles` — the files behind the older converter.
-/

set_option autoImplicit false

namespace UaHeaders.SchemaSource

/-- The file with the data types of one area of the stack. -/
def ofArea (area : String) (guard : Option String) : SchemaSource :=
  ⟨⟨"datatypes_" ++ area ++ ".txt"⟩, guard⟩

/-- **The files behind the type registry.** Areas that can be left out of a build are guarded. -/
def typeRegistryFiles : List SchemaSource :=
  [ofArea "dataaccess" (some "UA_ENABLE_DA"),
    ofArea "diagnostics" none,
    ofArea "discovery" none,
    ofArea "events" none,
    ofArea "historizing" (some "UA_ENABLE_HISTORIZING"),
    ofArea "method" none,
    ofArea "minimal" none,
    ofArea "pubsub" (some "UA_ENABLE_PUBSUB"),
    ofArea "query" none,
    ofArea "subscriptions" none,
    ofArea "transport" none,
    ofArea "typedescription" (some "UA_ENABLE_TYPEDESCRIPTION")]

/-- **The files behind the older converter**, none of them guarded. -/
def typeConverterFiles : List SchemaSource :=
  ["minimal", "method", "subscriptions", "events", "historizing", "discovery", "query", "pubsub",
    "dataaccess"].map fun area => ofArea area none

end UaHeaders.SchemaSource
