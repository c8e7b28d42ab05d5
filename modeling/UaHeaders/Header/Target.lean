import UaHeaders.Files.Path
import UaHeaders.Header.Skeleton
import UaHeaders.NodeIds.Enums
import UaHeaders.Text.Casing

/-!
# Targets

The headers that can be generated, their names, places and frames.

## Main definitions

* `UaHeaders.Target` — the headers.
* `UaHeaders.Target.name`, `UaHeaders.Target.ofName?` — their names on the command line and in files.
* `UaHeaders.Target.relativePath`, `UaHeaders.Target.skeleton` — place and frame.
* `UaHeaders.Target.rank` — the place of a target in the order of all targets.
* `UaHeaders.Target.normalize` — a selection in order, without repetition.
-/

set_option autoImplicit false

namespace UaHeaders

/-- **A header that can be generated.** -/
inductive Target where
  /-- The functions that read and write attributes. -/
  | attributes
  /-- The registrations of native types. -/
  | typeRegistry
  /-- The registrations of native types for the older converter. -/
  | typeConverter
  /-- The enumerations of node ids. -/
  | nodeIds
  deriving DecidableEq, Inhabited

namespace Target

/-- All targets, in order. -/
def all : List Target := [attributes, typeRegistry, typeConverter, nodeIds]

/-- The targets of a run that selects none. -/
def defaults : List Target := [attributes, typeRegistry, nodeIds]

/-- **The name of a target.** -/
def name : Target → String
  | attributes => "attributes"
  | typeRegistry => "type-registry"
  | typeConverter => "type-converter"
  | nodeIds => "node-ids"

/-- **The target of a name.** -/
def ofName? (text : String) : Option Target := all.find? fun target => target.name == text

/-- The target of a name in any mixture of capital and small ASCII letters. -/
def ofNameAnyCase? (text : String) : Option Target :=
  all.find? fun target => target.name == Text.lowerAscii text

/-- **The place of a header** below the output root. -/
def relativePath : Target → Path
  | attributes => "services/attribute_highlevel.hpp"
  | typeRegistry => "ua/typeregistry.hpp"
  | typeConverter => "TypeConverterNative.h"
  | nodeIds => "ua/nodeids.hpp"

/-- **The frame of a header.** -/
def skeleton : Target → Skeleton
  | attributes =>
    { scope := "opcua::services"
      includes := ["\"open62541pp/services/attribute.hpp\""] }
  | typeRegistry =>
    { scope := "opcua"
      includes :=
        ["\"open62541pp/detail/open62541/common.h\"", "\"open62541pp/typeregistry.hpp\""]
      fenced := true }
  | typeConverter =>
    { scope := "opcua"
      includes := ["\"open62541pp/TypeConverter.h\"", "\"open62541pp/open62541.h\""]
      fenced := true }
  | nodeIds =>
    { scope := "opcua"
      includes := ["<cstdint>"]
      suppression := some Suppression.gccShadow
      preamble := some NodeIdTable.preamble
      fenced := true }

/-! ## Selections -/

/-- **The place of a target** in the order of all targets. -/
def rank (target : Target) : Nat := all.idxOf target

/-- A list without what repeats the element in front of it. -/
def dropRepeats : List Target → List Target
  | target :: next :: targets =>
    if target = next then dropRepeats (next :: targets) else target :: dropRepeats (next :: targets)
  | targets => targets

/-- **A selection in order and without repetition.** -/
def normalize (selected : List Target) : List Target :=
  dropRepeats (selected.mergeSort fun a b => decide (a.rank ≤ b.rank))

end Target

end UaHeaders
